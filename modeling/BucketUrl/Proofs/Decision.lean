/-
BucketUrl/Proofs/Decision.lean

Locations about which the same is decided.

Recognition and the choice of a layout ask a location a few questions only.  Where two locations
give the same answers (`SameDecision`), both are recognised or neither is, and the second gets the
layout of the first.  What differs between them then shows in the addresses, and in nothing else
(`Carries.ofUri`).

So a statement about two runs of the reader is one about two locations: the change from one address
to the other is given as a function, and each stage is followed along it.  The reasons of rejections
may differ and are left out, so the results are compared as options.
-/
import BucketUrl.Proofs.RoundTrip

namespace BucketUrl

open Text

/-! ### Results as options -/

section Option

variable {ε α β : Type} {f : α → β} {x : Except ε α} {y : Except ε β} {a : α}

theorem toOption_eq_some_iff : x.toOption = some a ↔ x = .ok a := by
  cases x with
  | ok b => simp [Except.toOption]
  | error e => simp [Except.toOption]

theorem toOption_map (f : α → β) (x : Except ε α) : (x.map f).toOption = x.toOption.map f := by
  cases x with
  | ok a => rfl
  | error e => rfl

/-- A result that is the other one up to a change is there when the other one is. -/
theorem eq_of_toOption_eq_map (h : y.toOption = x.toOption.map f) :
    ((∃ a, x = .ok a) ↔ ∃ b, y = .ok b) ∧ ∀ a b, x = .ok a → y = .ok b → b = f a := by
  have hiff (b : β) : y = .ok b ↔ ∃ a, x = .ok a ∧ f a = b := by
    rw [← toOption_eq_some_iff, h, Option.map_eq_some_iff]
    simp only [toOption_eq_some_iff]
  refine ⟨⟨?_, ?_⟩, ?_⟩
  · rintro ⟨a, ha⟩
    exact ⟨f a, (hiff _).2 ⟨a, ha, rfl⟩⟩
  · rintro ⟨b, hb⟩
    obtain ⟨a, ha, -⟩ := (hiff b).1 hb
    exact ⟨a, ha⟩
  · rintro a b ha hb
    obtain ⟨a', ha', rfl⟩ := (hiff b).1 hb
    cases ha.symm.trans ha'
    rfl

end Option

variable {l l' : Location} {u v : Uri} {k : Layout → Layout} {f : Address → Address}
  {g : Location → Location}

/-- An address is read in three stages, each from what the one before found. -/
theorem Address.toOption_ofLocation (l : Location) :
    (ofLocation l).toOption
      = (Layout.ofLocation l).toOption.bind fun layout => (layout.address l).toOption := by
  rw [ofLocation]
  cases Layout.ofLocation l with
  | ok layout => rfl
  | error r => rfl

theorem Address.toOption_ofUri (u : Uri) :
    (ofUri u).toOption
      = (Location.ofUri u).toOption.bind fun l =>
          (ofLocation l).toOption.map (withQuery (u.query?.getD [])) := by
  rw [ofUri]
  cases Location.ofUri u with
  | ok l => exact toOption_map _ _
  | error fault => rfl

theorem Uri.isS3_eq_any (u : Uri) :
    u.isS3 = (Location.ofUri u).toOption.any fun l => l.finding.accepted := by
  rw [Uri.isS3]
  cases Location.ofUri u with
  | ok l => rfl
  | error fault => rfl

/-! ### The same decision -/

/-- The rules and the choice of a layout get the same answers from both locations. -/
structure Location.SameDecision (l l' : Location) : Prop where
  scheme : l'.scheme? = l.scheme?
  host : l'.host = [] ↔ l.host = []
  amazon : AmazonHost.ofHost? l'.host = AmazonHost.ofHost? l.host
  path : l'.path = l.path
  name : l'.NamesBucket ↔ l.NamesBucket

theorem Location.SameDecision.accepted (h : l.SameDecision l') :
    l'.finding.accepted = l.finding.accepted := by
  have hfirst : l'.firstSegment = l.firstSegment := by
    rw [Location.firstSegment, Location.firstSegment, h.path]
  rw [Bool.eq_iff_iff, Location.accepted_finding_iff, Location.accepted_finding_iff, h.scheme,
    h.amazon, h.name, hfirst, ne_eq, h.host]

/-- The layout of the second location is that of the first, up to what a layout holds besides an
Amazon host. -/
theorem Layout.toOption_ofLocation (h : l.SameDecision l')
    (hamazon : ∀ parts, k (.amazon parts) = .amazon parts)
    (hother : ∀ scheme, ofOtherHost scheme l' = k (ofOtherHost scheme l)) :
    (ofLocation l').toOption = (ofLocation l).toOption.map k := by
  rw [ofLocation, ofLocation, h.scheme, h.amazon, h.accepted]
  cases l.scheme? with
  | none => rfl
  | some scheme =>
    by_cases hhost : l.host = []
    · simp only [h.host.2 hhost, hhost, if_true]
      rfl
    · simp only [mt h.host.1 hhost, hhost, if_false]
      cases AmazonHost.ofHost? l.host with
      | some parts =>
        show some (Layout.amazon parts) = some (k (.amazon parts))
        rw [hamazon]
      | none =>
        dsimp only
        split
        · show some (ofOtherHost scheme l') = some (k (ofOtherHost scheme l))
          rw [hother]
        · rfl

namespace Address

/-! ### Carrying a change -/

/-- The second location is read when the first is, and the given change leads from one address to
the other. -/
structure Carries (f : Address → Address) (l l' : Location) : Prop where
  decision : l.SameDecision l'
  address : (ofLocation l').toOption = (ofLocation l).toOption.map f

/-- A change is carried from location to location when every layout carries it. -/
theorem carries_of_layout (h : l.SameDecision l')
    (hamazon : ∀ parts, k (.amazon parts) = .amazon parts)
    (hother : ∀ scheme, Layout.ofOtherHost scheme l' = k (Layout.ofOtherHost scheme l))
    (haddress : ∀ layout, Layout.ofLocation l = .ok layout →
      ((k layout).address l').toOption = (layout.address l).toOption.map f) :
    Carries f l l' := by
  refine ⟨h, ?_⟩
  rw [toOption_ofLocation, toOption_ofLocation, Layout.toOption_ofLocation h hamazon hother,
    Option.bind_map, Option.map_bind]
  exact Option.bind_congr fun layout hlayout => haddress layout (toOption_eq_some_iff.1 hlayout)

/-- Of two URIs whose locations carry a change, both are recognised or neither is, and the address
of the second is the changed address of the first. -/
theorem Carries.ofUri (hl : (Location.ofUri v).toOption = (Location.ofUri u).toOption.map g)
    (hcarries : ∀ l, Location.ofUri u = .ok l → Carries f l (g l))
    (hquery : VersionQuery.split (v.query?.getD []) = VersionQuery.split (u.query?.getD []))
    (hf : ∀ query a, withQuery query (f a) = f (withQuery query a)) :
    v.isS3 = u.isS3 ∧ (Address.ofUri v).toOption = (Address.ofUri u).toOption.map f := by
  constructor
  · rw [Uri.isS3_eq_any, Uri.isS3_eq_any, hl]
    cases hu : Location.ofUri u with
    | ok l => exact (hcarries l hu).decision.accepted
    | error fault => rfl
  · have hwith (a : Address) : withQuery (v.query?.getD []) (f a)
        = f (withQuery (u.query?.getD []) a) := by
      rw [← hf, withQuery, withQuery, hquery]
    rw [toOption_ofUri, toOption_ofUri, hl, Option.bind_map, Option.map_bind]
    refine Option.bind_congr fun l hlocation => ?_
    have haddress := (hcarries l (toOption_eq_some_iff.1 hlocation)).address
    show (ofLocation (g l)).toOption.map _ = ((ofLocation l).toOption.map _).map f
    rw [haddress, Option.map_map, Option.map_map]
    exact congrArg (Option.map · _) (funext hwith)

end Address

end BucketUrl
