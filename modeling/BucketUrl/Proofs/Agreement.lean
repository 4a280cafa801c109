/-
BucketUrl/Proofs/Agreement.lean

Recognising a URL and reading an address from it agree, up to two exceptions.

The rules of recognition and the choice of a layout ask for scheme, host and Amazon host in
different orders.  A layout is chosen exactly for the accepted locations that have a host
(`Layout.exists_ofLocation_iff`), and of these only a key without a bucket is refused afterwards
(`Layout.exists_address_iff`).  Each of the exits on the way has the error for what is no address,
never that for what cannot be rebuilt (`Address.exists_reason_of_parse`).

Main result: `exists_parse_iff`.
-/
import BucketUrl.Proofs.RoundTrip

namespace BucketUrl

open Text

variable {l : Location} {layout : Layout} {u : Uri}

/-! ### The two exceptions -/

/-- Bucket and key of the location are looked for in the path if there is one: its host is an
Amazon host without a bucket, or another host that is reached over HTTP. -/
def Location.ReadPathStyle (l : Location) : Prop :=
  (l.scheme?.isSome = true ∧
      ∃ parts, AmazonHost.ofHost? l.host = some parts ∧ parts.bucket? = none) ∨
    ((l.scheme? = some .http ∨ l.scheme? = some .https) ∧ AmazonHost.ofHost? l.host = none)

/-- The path has a key and no bucket. -/
def Location.HasStrayKey (l : Location) : Prop :=
  ∃ c rest, l.path = '/' :: c :: rest

/-- The text is a URI without a host. -/
def Text.IsHostless (s : Text) : Prop :=
  ∃ u, Uri.parse s = .ok u ∧ u.hostPort = []

/-- The text is a URI that is read path-style and has a key and no bucket. -/
def Text.HasStrayKey (s : Text) : Prop :=
  ∃ u l, Uri.parse s = .ok u ∧ Location.ofUri u = .ok l ∧ l.ReadPathStyle ∧ l.HasStrayKey

/-! ### Locations -/

theorem exists_map_eq_ok_iff {ε α β : Type} (f : α → β) (x : Except ε α) :
    (∃ b, x.map f = .ok b) ↔ ∃ a, x = .ok a := by
  constructor
  · rintro ⟨b, hb⟩
    obtain ⟨a, ha, -⟩ := map_eq_ok_iff.1 hb
    exact ⟨a, ha⟩
  · rintro ⟨a, ha⟩
    exact ⟨f a, map_eq_ok_iff.2 ⟨a, ha, rfl⟩⟩

namespace Layout

/-- A layout is chosen exactly for the accepted locations that have a host. -/
theorem exists_ofLocation_iff (l : Location) :
    (∃ layout, ofLocation l = .ok layout) ↔ l.finding.accepted = true ∧ l.host ≠ [] := by
  constructor
  · rintro ⟨layout, h⟩
    obtain ⟨scheme, hscheme, hhost, ⟨parts, hamazon, -⟩ | ⟨-, haccepted, -⟩⟩ :=
      ofLocation_eq_ok_iff.1 h
    · -- the parser does not ask the rules here, but they accept Amazon hosts under every scheme
      refine ⟨(Location.accepted_finding_iff l).2 ?_, hhost⟩
      cases scheme with
      | s3 => exact .inl hscheme
      | http => exact .inr ⟨.inl hscheme, hhost, .inl (by rw [hamazon]; rfl)⟩
      | https => exact .inr ⟨.inr hscheme, hhost, .inl (by rw [hamazon]; rfl)⟩
    · exact ⟨haccepted, hhost⟩
  · rintro ⟨haccepted, hhost⟩
    have hscheme : ∃ scheme, l.scheme? = some scheme := by
      rcases (Location.accepted_finding_iff l).1 haccepted with h | ⟨h | h, -⟩
      · exact ⟨_, h⟩
      · exact ⟨_, h⟩
      · exact ⟨_, h⟩
    obtain ⟨scheme, hscheme⟩ := hscheme
    cases hamazon : AmazonHost.ofHost? l.host with
    | some parts =>
      exact ⟨_, ofLocation_eq_ok_iff.2 ⟨scheme, hscheme, hhost, .inl ⟨parts, hamazon, rfl⟩⟩⟩
    | none =>
      exact ⟨_, ofLocation_eq_ok_iff.2
        ⟨scheme, hscheme, hhost, .inr ⟨hamazon, haccepted, rfl⟩⟩⟩

/-- Only a key without a bucket is refused in a path. -/
theorem exists_fromPath_iff (l : Location) : (∃ a, fromPath l = .ok a) ↔ ¬l.HasStrayKey := by
  have hstray : (splitPath l.path).1 = [] ∧ (splitPath l.path).2 ≠ [] ↔ l.HasStrayKey := by
    rw [Location.HasStrayKey, splitPath]
    cases hpath : l.path with
    | nil => simp [cut?]
    | cons d path =>
      by_cases hd : d = '/'
      · cases path with
        | nil => simp [cut?, hd]
        | cons c rest => simp [cut?, hd]
      · cases hcut : cut? '/' path with
        | none => simp [cut?, hd, hcut]
        | some parts => simp [cut?, hd, hcut]
  rw [← hstray, fromPath]
  dsimp only
  split
  · next h => simp [h]
  · next h => simp [h]

theorem readPathStyle_amazon {scheme : Scheme} {parts : AmazonHost}
    (hscheme : l.scheme? = some scheme) (hamazon : AmazonHost.ofHost? l.host = some parts) :
    l.ReadPathStyle ↔ parts.bucket? = none := by
  rw [Location.ReadPathStyle, hamazon, hscheme]
  simp

theorem readPathStyle_other {scheme : Scheme} (hscheme : l.scheme? = some scheme)
    (hamazon : AmazonHost.ofHost? l.host = none) : l.ReadPathStyle ↔ scheme ≠ .s3 := by
  rw [Location.ReadPathStyle, hamazon, hscheme]
  cases scheme with
  | http => simp
  | https => simp
  | s3 => simp

/-- Once a layout is chosen, only a key without a bucket in a path is refused. -/
theorem exists_address_iff (hlayout : ofLocation l = .ok layout) :
    (∃ a, layout.address l = .ok a) ↔ ¬(l.ReadPathStyle ∧ l.HasStrayKey) := by
  obtain ⟨scheme, hscheme, hhost, ⟨parts, hamazon, rfl⟩ | ⟨hamazon, haccepted, rfl⟩⟩ :=
    ofLocation_eq_ok_iff.1 hlayout
  · rw [readPathStyle_amazon hscheme hamazon, address]
    cases hbucket : parts.bucket? with
    | some bucket => simp
    | none =>
      show (∃ a, (fromPath l).map (onAmazon parts) = .ok a) ↔ _
      rw [exists_map_eq_ok_iff, exists_fromPath_iff]
      simp
  · rw [readPathStyle_other hscheme hamazon]
    obtain ⟨hs3, hlayout⟩ | ⟨hs3, -, hlayout⟩ | ⟨-, hpath, -, bucket, endpoint, -, hlayout⟩ :=
      Address.ofOtherHost_cases hscheme hhost hamazon haccepted
    · rw [hlayout]
      simp [hs3, address]
    · rw [hlayout, address, exists_fromPath_iff]
      simp [hs3]
    · -- an empty path has no key
      have hstray : ¬l.HasStrayKey := by
        rintro ⟨c, rest, h⟩
        rw [hpath] at h
        cases h
      rw [hlayout]
      simp [address, hstray]

end Layout

/-! ### Errors -/

theorem Address.exists_reason_of_ofLocation {e : Address.Error}
    (hread : Address.ofLocation l = .error e) : ∃ reason, e = .invalidUrl reason := by
  rw [Address.ofLocation] at hread
  cases hlayout : Layout.ofLocation l with
  | error e =>
    rw [hlayout] at hread
    cases hread
    obtain ⟨-, he⟩ | ⟨-, -, ⟨-, he⟩ | ⟨-, -, -, he⟩⟩ := Layout.ofLocation_eq_error_iff.1 hlayout
    · exact ⟨_, he⟩
    · exact ⟨_, he⟩
    · exact ⟨_, he⟩
  | ok layout =>
    rw [hlayout] at hread
    exact ⟨_, Address.address_eq_error hread⟩

/-- Every exit of reading has the same error, whatever its reason. -/
theorem Address.exists_reason_of_ofUri {e : Address.Error} (hread : Address.ofUri u = .error e) :
    ∃ reason, e = .invalidUrl reason := by
  rw [Address.ofUri] at hread
  cases hl : Location.ofUri u with
  | error fault =>
    rw [hl] at hread
    cases hread
    exact ⟨_, rfl⟩
  | ok l =>
    rw [hl] at hread
    exact Address.exists_reason_of_ofLocation (map_eq_error_iff.1 hread)

/-- A URI that is not read is rejected. -/
theorem Address.exists_rejection_iff (u : Uri) :
    (∃ reason, Address.ofUri u = .error (.invalidUrl reason)) ↔ ¬∃ a, Address.ofUri u = .ok a := by
  cases hread : Address.ofUri u with
  | ok a => simp
  | error e =>
    obtain ⟨reason, rfl⟩ := Address.exists_reason_of_ofUri hread
    simp

theorem Address.exists_reason_of_parse {s : Text} {e : Address.Error}
    (hparse : Address.parse s = .error e) : ∃ reason, e = .invalidUrl reason := by
  rw [Address.parse] at hparse
  cases hu : Uri.parse s with
  | error fault =>
    rw [hu] at hparse
    cases hparse
    exact ⟨_, rfl⟩
  | ok u =>
    rw [hu] at hparse
    exact Address.exists_reason_of_ofUri hparse

/-! ### Texts -/

theorem Address.exists_ofLocation_iff (l : Location) :
    (∃ a, Address.ofLocation l = .ok a) ↔
      l.finding.accepted = true ∧ l.host ≠ [] ∧ ¬(l.ReadPathStyle ∧ l.HasStrayKey) := by
  rw [← and_assoc, ← Layout.exists_ofLocation_iff]
  constructor
  · rintro ⟨a, ha⟩
    obtain ⟨layout, hlayout, hread⟩ := Address.ofLocation_eq_ok_iff.1 ha
    exact ⟨⟨layout, hlayout⟩, (Layout.exists_address_iff hlayout).1 ⟨a, hread⟩⟩
  · rintro ⟨⟨layout, hlayout⟩, hstray⟩
    obtain ⟨a, hread⟩ := (Layout.exists_address_iff hlayout).2 hstray
    exact ⟨a, Address.ofLocation_eq_ok_iff.2 ⟨layout, hlayout, hread⟩⟩

/-- A URI that gives an address is recognised. -/
theorem Address.isS3_of_ofUri {a : Address} (hread : Address.ofUri u = .ok a) : u.isS3 = true := by
  obtain ⟨l, b, hl, hb, -⟩ := Address.ofUri_eq_ok_iff.1 hread
  rw [Uri.isS3, hl]
  exact ((Address.exists_ofLocation_iff l).1 ⟨b, hb⟩).1

theorem host_eq_nil_iff (hl : Location.ofUri u = .ok l) : l.host = [] ↔ u.hostPort = [] := by
  rw [(Address.location_of_ofUri hl).2, lowerAscii, List.map_eq_nil_iff]

/-- A text is read as an address exactly when it is recognised, has a host, and has no key without
a bucket in its path.  So whatever is read is recognised; and all that is refused is refused with
the same error. -/
theorem exists_parse_iff (s : Text) :
    ((∃ a, Address.parse s = .ok a) ↔
        Text.isS3 s = true ∧ ¬s.IsHostless ∧ ¬s.HasStrayKey) ∧
      (∀ a, Address.parse s = .ok a → Text.isS3 s = true) ∧
        ∀ e, Address.parse s = .error e → ∃ reason, e = .invalidUrl reason := by
  have hiff : (∃ a, Address.parse s = .ok a) ↔
      Text.isS3 s = true ∧ ¬s.IsHostless ∧ ¬s.HasStrayKey := by
    rw [Text.IsHostless, Text.HasStrayKey, Text.isS3, Address.parse]
    cases hu : Uri.parse s with
    | error fault => simp
    | ok u =>
      dsimp only
      rw [Uri.isS3, Address.ofUri]
      cases hl : Location.ofUri u with
      | error fault => simp
      | ok l =>
        dsimp only
        rw [exists_map_eq_ok_iff, Address.exists_ofLocation_iff]
        simp [hl, host_eq_nil_iff hl]
  exact ⟨hiff, fun a ha => (hiff.1 ⟨a, ha⟩).1, fun _ he => Address.exists_reason_of_parse he⟩

/-- Both exceptions occur: a scheme that needs no host to be recognised, and a second slash. -/
example : Text.isS3 "s3://:/key".toList = true ∧
    Address.parse "s3://:/key".toList = .error (.invalidUrl .emptyHost) ∧
    Text.isS3 "https://s3.amazonaws.com//key".toList = true ∧
    Address.parse "https://s3.amazonaws.com//key".toList
      = .error (.invalidUrl (.emptyBucket "s3.amazonaws.com".toList "key".toList)) := by
  decide +kernel

end BucketUrl
