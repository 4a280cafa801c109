/-
BucketUrl/Proofs/Trail.lean

The trails that recognition and reading leave.

Telling changes nothing about a result, and there are only a few trails that reading can leave,
which `Told` lists with the result of each.

Main results: `Address.told_parseTraced` and `Uri.isS3Traced_cases`.
-/
import BucketUrl.Proofs.Layout
import BucketUrl.Trail

namespace BucketUrl

open Text Traced

variable {l : Location} {layout : Layout} {a : Address} {s : Text} {u : Uri}

/-! ### Computations that tell -/

namespace Traced

variable {α β : Type}

@[simp]
theorem pure_eq (a : α) : (pure a : Traced α) = { events := [], result := .ok a } :=
  rfl

@[simp]
theorem ok_bind (events : List Event) (a : α) (f : α → Traced β) :
    ({ events := events, result := .ok a } : Traced α) >>= f =
      { events := events ++ (f a).events, result := (f a).result } :=
  rfl

@[simp]
theorem error_bind (events : List Event) (e : Address.Error) (f : α → Traced β) :
    ({ events := events, result := .error e } : Traced α) >>= f =
      { events := events, result := .error e } :=
  rfl

@[simp]
theorem tell_bind (e : Event) (f : Unit → Traced β) :
    tell e >>= f = { events := e :: (f ()).events, result := (f ()).result } :=
  rfl

end Traced

/-- The rules leave one event, with what they say together. -/
theorem Location.askTraced_eq (l : Location) (rules : List Rule) :
    l.askTraced rules =
      { events := [.found l.host (l.ask rules)], result := .ok (l.ask rules) } := by
  induction rules with
  | nil => rfl
  | cons rule rules ih =>
    rw [askTraced, ask]
    cases rule.verdict? l with
    | none => exact ih
    | some accepted => rfl

theorem Location.askTraced_all (l : Location) :
    l.askTraced Rule.all = { events := [.found l.host l.finding], result := .ok l.finding } :=
  l.askTraced_eq Rule.all

theorem Finding.exists_settled_of_accepted {finding : Finding} (h : finding.accepted = true) :
    ∃ rule, finding = .settled rule true := by
  cases finding with
  | settled rule accepted =>
    cases h
    exact ⟨rule, rfl⟩
  | unsettled => cases h

/-! ### The trails that there are -/

/-- Bucket and key are looked for in the path. -/
def Layout.IsPathStyle : Layout → Prop
  | .amazon parts => parts.bucket? = none
  | .path => True
  | _ => False

/-- What is told before a layout is chosen for a host: nothing if it is an Amazon host, and what the
rules said if it is another one. -/
inductive Asked (host : Text) : Layout → List Event → Prop
  | amazon (parts : AmazonHost) (hhost : AmazonHost.ofHost? host = some parts) :
    Asked host (.amazon parts) []
  | other (layout : Layout) (rule : Rule) (hhost : AmazonHost.ofHost? host = none)
      (hlayout : ∀ parts, layout ≠ .amazon parts) :
    Asked host layout [.found host (.settled rule true)]

/-- What is told on the way to a result. -/
inductive Told : List Event → Except Address.Error Address → Prop
  /-- There is no URI, no location, no scheme or no host. -/
  | rejected (reason : Rejection) (hreason : ∀ host finding, reason ≠ .unrecognized host finding) :
    Told [.rejected reason] (.error (.invalidUrl reason))
  /-- The rules do not accept. -/
  | unrecognized (host : Text) (finding : Finding) (hfinding : finding.accepted = false) :
    Told [.found host finding] (.error (.invalidUrl (.unrecognized host finding)))
  /-- There is a layout, and in its path there is a key without a bucket. -/
  | emptyBucket (host key : Text) (layout : Layout) (asked : List Event)
      (hasked : Asked host layout asked) :
    Told (asked ++ [.laidOut host layout, .rejected (.emptyBucket host key)])
      (.error (.invalidUrl (.emptyBucket host key)))
  /-- There is an address. -/
  | parsed (a : Address) (layout : Layout) (asked : List Event)
      (hasked : Asked a.host layout asked) (hstyle : a.pathStyle = true ↔ layout.IsPathStyle) :
    Told (asked ++ [.laidOut a.host layout, .parsed a]) (.ok a)

/-! ### The steps of reading -/

theorem Location.ofUriTraced_of_ok (hl : Location.ofUri u = .ok l) :
    Location.ofUriTraced u = { events := [], result := .ok l } := by
  rw [ofUriTraced, hl]
  rfl

theorem Location.ofUriTraced_of_error {fault : Utf8.Fault} (hl : Location.ofUri u = .error fault) :
    Location.ofUriTraced u =
      { events := [.rejected (.undecodable u.path fault)]
        result := .error (.invalidUrl (.undecodable u.path fault)) } := by
  rw [ofUriTraced, hl]
  rfl

namespace Layout

theorem ofOtherHost_ne_amazon (scheme : Scheme) (l : Location) (parts : AmazonHost) :
    ofOtherHost scheme l ≠ .amazon parts := by
  rw [ofOtherHost]
  split
  · simp
  · split
    · simp
    · rw [ofBareHost]
      repeat' split
      all_goals simp

/-- A choice that is made has told what was asked for it. -/
theorem ofLocationTraced_of_ok (hlayout : ofLocation l = .ok layout) :
    ∃ asked, Asked l.host layout asked ∧
      ofLocationTraced l = { events := asked, result := .ok layout } := by
  obtain ⟨scheme, hscheme, hhost, ⟨parts, hamazon, rfl⟩ | ⟨hamazon, haccepted, rfl⟩⟩ :=
    ofLocation_eq_ok_iff.1 hlayout
  · refine ⟨[], .amazon parts hamazon, ?_⟩
    simp [ofLocationTraced, hscheme, hhost, hamazon]
  · obtain ⟨rule, hrule⟩ := Finding.exists_settled_of_accepted haccepted
    refine ⟨_, .other _ rule hamazon (ofOtherHost_ne_amazon scheme l), ?_⟩
    simp [ofLocationTraced, hscheme, hhost, hamazon, l.askTraced_all, hrule, Finding.accepted]

/-- A refusal is told, or it was told by what the rules said. -/
theorem ofLocationTraced_of_error {e : Address.Error} (hlayout : ofLocation l = .error e) :
    ∃ event, ofLocationTraced l = { events := [event], result := .error e } ∧
      Told [event] (.error e) := by
  rw [ofLocationTraced]
  obtain ⟨hscheme, rfl⟩ | ⟨scheme, hscheme, ⟨hhost, rfl⟩ | ⟨hhost, hamazon, haccepted, rfl⟩⟩ :=
    ofLocation_eq_error_iff.1 hlayout
  · rw [hscheme]
    exact ⟨_, rfl, .rejected _ (by simp)⟩
  · simp only [hscheme, if_pos hhost]
    exact ⟨_, rfl, .rejected _ (by simp)⟩
  · refine ⟨.found l.host l.finding, ?_, .unrecognized _ _ haccepted⟩
    simp [hscheme, hhost, hamazon, l.askTraced_all, haccepted, fail]

theorem addressTraced_of_ok (haddress : layout.address l = .ok a) :
    layout.addressTraced l = { events := [.laidOut l.host layout], result := .ok a } := by
  rw [addressTraced, haddress]
  rfl

theorem addressTraced_of_error {reason : Rejection}
    (haddress : layout.address l = .error (.invalidUrl reason)) :
    layout.addressTraced l =
      { events := [.laidOut l.host layout, .rejected reason]
        result := .error (.invalidUrl reason) } := by
  rw [addressTraced, haddress]
  rfl

/-- The address is path-style exactly if the layout is. -/
theorem pathStyle_of_address (haddress : layout.address l = .ok a) :
    a.pathStyle = true ↔ layout.IsPathStyle := by
  cases layout with
  | amazon parts =>
    rw [address] at haddress
    split at haddress
    · next bucket hparts =>
      cases haddress
      simp [IsPathStyle, hparts, onAmazon, fromAmazonHost, bare]
    · next hparts =>
      obtain ⟨b, hpath, rfl⟩ := map_eq_ok_iff.1 haddress
      have hstyle : b.pathStyle = true := (Address.inPath_of_fromPath hpath).1.pathStyle
      simp [IsPathStyle, hparts, onAmazon, hstyle]
  | path =>
    simp [IsPathStyle, (Address.inPath_of_fromPath haddress).1.pathStyle]
  | s3Scheme =>
    cases haddress
    simp [IsPathStyle, bare]
  | host bucket endpoint =>
    cases haddress
    simp [IsPathStyle, bare]
  | service =>
    cases haddress
    simp [IsPathStyle, bare]

end Layout

/-! ### The result -/

namespace Address

/-- Reading a URI tells what leads to its result. -/
theorem told_ofUriTraced (u : Uri) :
    (ofUriTraced u).result = ofUri u ∧ Told (ofUriTraced u).events (ofUri u) := by
  cases hl : Location.ofUri u with
  | error fault =>
    simp only [ofUriTraced, Location.ofUriTraced_of_error hl, ofUri, hl, error_bind]
    exact ⟨trivial, .rejected _ (by simp)⟩
  | ok l =>
    simp only [ofUriTraced, Location.ofUriTraced_of_ok hl, ofUri, hl, ok_bind]
    rw [ofLocation]
    cases hlayout : Layout.ofLocation l with
    | error e =>
      obtain ⟨event, htraced, htold⟩ := Layout.ofLocationTraced_of_error hlayout
      simp only [htraced, error_bind]
      exact ⟨rfl, htold⟩
    | ok layout =>
      obtain ⟨asked, hasked, htraced⟩ := Layout.ofLocationTraced_of_ok hlayout
      simp only [htraced, ok_bind]
      cases haddress : layout.address l with
      | error e =>
        cases address_eq_error haddress
        simp only [Layout.addressTraced_of_error haddress, error_bind]
        exact ⟨rfl, .emptyBucket _ _ layout asked hasked⟩
      | ok b =>
        have hhost := (host_of_address haddress).2
        have hstyle := Layout.pathStyle_of_address haddress
        simp only [Layout.addressTraced_of_ok haddress, ok_bind, tell_bind]
        refine ⟨rfl, ?_⟩
        rw [← hhost] at hasked ⊢
        exact .parsed (b.withQuery _) layout asked hasked hstyle

/-- Reading a text tells what leads to its result. -/
theorem told_parseTraced (s : Text) :
    (parseTraced s).result = parse s ∧ Told (trail s) (parse s) := by
  rw [trail, parseTraced, parse]
  cases Uri.parse s with
  | error fault => exact ⟨rfl, .rejected _ (by simp)⟩
  | ok u => exact told_ofUriTraced u

end Address

/-! ### Recognition -/

/-- Recognising a URI tells the one thing that led to its verdict. -/
theorem Uri.isS3Traced_cases (u : Uri) :
    u.isS3Traced.holds = u.isS3 ∧
      ((∃ host finding, u.isS3Traced.events = [.found host finding] ∧
          u.isS3 = finding.accepted) ∨
        (∃ fault, u.isS3Traced.events = [.rejected (.undecodable u.path fault)] ∧
          u.isS3 = false)) := by
  rw [isS3Traced, isS3]
  cases hl : Location.ofUri u with
  | error fault =>
    rw [Location.ofUriTraced_of_error hl, error_bind]
    exact ⟨rfl, .inr ⟨fault, rfl, rfl⟩⟩
  | ok l =>
    rw [Location.ofUriTraced_of_ok hl, ok_bind, l.askTraced_all, ok_bind]
    exact ⟨rfl, .inl ⟨l.host, l.finding, rfl, rfl⟩⟩

theorem Text.holds_isS3Traced (s : Text) : s.isS3Traced.holds = s.isS3 := by
  rw [isS3Traced, isS3]
  cases Uri.parse s with
  | error fault => rfl
  | ok u => exact u.isS3Traced_cases.1

end BucketUrl
