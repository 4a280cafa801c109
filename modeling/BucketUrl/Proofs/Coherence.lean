/-
BucketUrl/Proofs/Coherence.lean

The parts of an address that was read agree with each other.

What every layout says is collected in `Grounded`: a key needs a bucket, and the bucket was put in
lower case or taken from the host.  The host is in lower case and in ASCII, since it comes from an
authority that passed the check (`host_of_ofUri`), so a bucket taken from it is in lower case under
the Unicode mapping as well.

Main result: `coherent_of_ofUri`.
-/
import BucketUrl.Proofs.RoundTrip

namespace BucketUrl.Address

open Text

variable {s : Text} {u : Uri} {l : Location} {a : Address} {scheme : Scheme}

/-! ### Levels -/

/-- The address has the parts that its level needs, and no more. -/
def HasLevel (a : Address) : Kind → Prop
  | .service => a.IsService
  | .bucket => a.IsBucket
  | .object => a.IsObject

/-- An address with a host, and with a bucket if it has a key, has one level only. -/
theorem hasLevel_iff (hhost : a.host ≠ []) (hkey : a.bucket = [] → a.key = []) (k : Kind) :
    a.HasLevel k ↔ k = a.kind := by
  by_cases hbucket : a.bucket = []
  · have hkey := hkey hbucket
    cases k with
    | service => simp [HasLevel, IsService, kind, hhost, hbucket]
    | bucket => simp [HasLevel, IsBucket, kind, hbucket]
    | object => simp [HasLevel, IsObject, kind, hbucket, hkey]
  · by_cases hkey : a.key = []
    · cases k with
      | service => simp [HasLevel, IsService, kind, hbucket, hkey]
      | bucket => simp [HasLevel, IsBucket, kind, hbucket, hkey]
      | object => simp [HasLevel, IsObject, kind, hbucket, hkey]
    · cases k with
      | service => simp [HasLevel, IsService, kind, hbucket, hkey]
      | bucket => simp [HasLevel, IsBucket, kind, hbucket, hkey]
      | object => simp [HasLevel, IsObject, kind, hbucket, hkey]

/-! ### Coherent addresses -/

/-- The parts of an address agree with each other. -/
structure Coherent (a : Address) : Prop where
  /-- There is a host. -/
  host_ne_nil : a.host ≠ []
  /-- No letter of the host is a capital of ASCII. -/
  host_lower : ∀ c ∈ a.host, c.isUpper = false
  /-- The bucket is in lower case. -/
  bucket_lower : lowercase a.bucket = a.bucket
  /-- A key needs a bucket. -/
  key_nil : a.bucket = [] → a.key = []
  /-- Of the three levels the address has the one that it says, and no other. -/
  level : ∀ k, a.HasLevel k ↔ k = a.kind
  /-- A directory is an object. -/
  directory : a.IsDirectory → a.IsObject
  /-- Where the bucket is in the path, the endpoint is the whole host. -/
  endpoint_eq : a.pathStyle = true → a.endpoint = a.host
  /-- Only an Amazon host has a region, or answers under both versions of the protocol. -/
  amazon : a.region ≠ [] ∨ a.dualStack = true → (AmazonHost.ofHost? a.host).isSome = true
  /-- The region consists of the characters of a label. -/
  region_chars : ∀ c ∈ a.region, c ∈ AmazonHost.labelChars
  /-- The region is not the beginning of the domain. -/
  region_ne : a.region ≠ AmazonHost.domainLabel
  /-- No parameter is a version. -/
  params : ∀ p ∈ Form.read a.params, ¬VersionQuery.IsVersion p

/-! ### What a layout contributes -/

/-- What the layout of an address says about its parts. -/
structure Grounded (a : Address) : Prop where
  /-- A key needs a bucket. -/
  key_nil : a.bucket = [] → a.key = []
  /-- The bucket was put in lower case, or it is a part of the host. -/
  bucket : lowercase a.bucket = a.bucket ∨ ∀ c ∈ a.bucket, c ∈ a.host
  /-- Where the bucket is in the path, the endpoint is the whole host. -/
  endpoint_eq : a.pathStyle = true → a.endpoint = a.host
  /-- The host says something about itself or does not. -/
  amazon : (∃ parts, OnAmazon parts a) ∨ OffAmazon a

theorem InPath.grounded (hpath : InPath a) (hamazon : (∃ parts, OnAmazon parts a) ∨ OffAmazon a) :
    Grounded a :=
  ⟨hpath.key, .inl hpath.lower, fun _ => hpath.endpoint, hamazon⟩

theorem grounded_of_mem_host (hne : a.bucket ≠ []) (hstyle : a.pathStyle = false)
    (hbucket : ∀ c ∈ a.bucket, c ∈ a.host) (hamazon : (∃ parts, OnAmazon parts a) ∨ OffAmazon a) :
    Grounded a :=
  ⟨fun h => absurd h hne, .inr hbucket,
    fun h => absurd (hstyle.symm.trans h) Bool.false_ne_true, hamazon⟩

/-- Every layout puts the bucket in lower case or takes it from the host. -/
theorem LaidOut.grounded (hlaid : LaidOut scheme a) (hhost : a.host ≠ []) : Grounded a := by
  cases hlaid with
  | amazonHost hamazon hbucket _ hstyle =>
    obtain ⟨-, hspells⟩ := AmazonHost.spells_of_ofHost? hamazon.ofHost?
    obtain ⟨t, hname⟩ := hspells.exists_eq_bucket_append hbucket
    exact grounded_of_mem_host (hspells.bucket _ hbucket).1 hstyle
      (fun c hc => HostPort.mem_of_name_eq_append hname hc) (.inl ⟨_, hamazon⟩)
  | amazonPath hamazon _ hpath => exact hpath.grounded (.inl ⟨_, hamazon⟩)
  | s3Scheme hother _ hbucket _ hstyle =>
    exact grounded_of_mem_host (hbucket ▸ hhost) hstyle (fun c hc => hbucket ▸ hc) (.inr hother)
  | path hother _ _ _ hpath => exact hpath.grounded (.inr hother)
  | host hother _ _ hbare _ hstyle =>
    obtain ⟨hlabel, ⟨rest, hcut⟩, -⟩ := Layout.ofBareHost_eq_host_iff.1 hbare
    exact grounded_of_mem_host hlabel.ne_nil hstyle
      (fun c hc => HostPort.mem_of_name_eq_append (cut?_eq_some_iff.1 hcut).2 hc) (.inr hother)

theorem grounded_of_ofLocation (hread : ofLocation l = .ok a) : Grounded a := by
  obtain ⟨scheme, -, -, hhost, hne, hlaid | hunnamed⟩ := laidOut_or_unnamed hread
  · exact hlaid.grounded (hhost.symm ▸ hne)
  · exact hunnamed.path.grounded (.inr hunnamed.other)

/-! ### The host -/

/-- The host of an address is in ASCII and in lower case. -/
theorem host_of_ofUri (hu : Uri.parse s = .ok u) (hread : ofUri u = .ok a) :
    ∀ c ∈ a.host, c.toNat < 0x80 ∧ c.toLower = c := by
  obtain ⟨auth, -, hcheck, -, hhost, -⟩ := authority_of_ofUri hu hread
  rw [hhost]
  intro c hc
  obtain ⟨d, hd, rfl⟩ := List.mem_map.1 hc
  have hd : d ∈ Uri.Authority.chars :=
    Uri.Authority.mem_chars_of_check hcheck (Uri.Authority.mem_of_mem_hostPort hd)
  refine ⟨?_, toLower_toLower d⟩
  simp only [CharSet.mem_iff, Uri.Authority.chars, List.mem_cons, List.not_mem_nil, or_false,
    exists_eq_or_imp, exists_eq_left] at hd
  rw [toNat_toLower]
  split
  · omega
  · omega

/-- A part of a text in ASCII and in lower case is its own Unicode lower case. -/
theorem lowercase_eq_self {host : Text} (hhost : ∀ c ∈ host, c.toNat < 0x80 ∧ c.toLower = c)
    (hs : ∀ c ∈ s, c ∈ host) : lowercase s = s := by
  rw [lowercase_eq_lowerAscii fun c hc => .inl (hhost c (hs c hc)).1]
  have hfix : ∀ c ∈ s, c.toLower = id c := fun c hc => (hhost c (hs c hc)).2
  exact (List.map_congr_left hfix).trans (List.map_id s)

/-! ### Addresses that were read -/

theorem not_isVersion_of_mem_params {query : Text} {p : Form.Pair}
    (hp : p ∈ Form.read (VersionQuery.split query).params) : ¬VersionQuery.IsVersion p := by
  obtain ⟨v, ps, hps, hsplit⟩ := VersionQuery.split_eq_write query
  rw [hsplit, Form.read_write] at hp
  exact hps p hp

theorem Grounded.region (h : Grounded a) :
    (a.region ≠ [] ∨ a.dualStack = true → (AmazonHost.ofHost? a.host).isSome = true) ∧
      (∀ c ∈ a.region, c ∈ AmazonHost.labelChars) ∧ a.region ≠ AmazonHost.domainLabel := by
  rcases h.amazon with ⟨parts, hon⟩ | hoff
  · obtain ⟨-, hspells⟩ := AmazonHost.spells_of_ofHost? hon.ofHost?
    rw [hon.region, hon.ofHost?]
    exact ⟨fun _ => rfl, hspells.region⟩
  · rw [hoff.region, hoff.dualStack]
    exact ⟨by simp, fun c hc => absurd hc List.not_mem_nil, by decide⟩

/-- **Addresses that were read are coherent**: whatever the URI and its layout, the parts of the
address agree with each other. -/
theorem coherent_of_ofUri (hu : Uri.parse s = .ok u) (hread : ofUri u = .ok a) : Coherent a := by
  obtain ⟨auth, -, -, -, -, hne⟩ := authority_of_ofUri hu hread
  have hhost := host_of_ofUri hu hread
  obtain ⟨l, b, hl, hb, rfl⟩ := ofUri_eq_ok_iff.1 hread
  have hground := grounded_of_ofLocation hb
  obtain ⟨hamazon, hchars, hregion⟩ := hground.region
  constructor
  case host_ne_nil => exact hne
  case host_lower => exact fun c hc => isUpper_eq_false_of_toLower_eq (hhost c hc).2
  case bucket_lower =>
    rcases hground.bucket with hlower | hpart
    · exact hlower
    · exact lowercase_eq_self hhost hpart
  case key_nil => exact hground.key_nil
  case level => exact hasLevel_iff hne hground.key_nil
  case directory => exact And.left
  case endpoint_eq => exact hground.endpoint_eq
  case amazon => exact hamazon
  case region_chars => exact hchars
  case region_ne => exact hregion
  case params => exact fun p hp => not_isVersion_of_mem_params hp

/-- A bucket in the path with a capital outside of ASCII, and a key with a slash at either end. -/
theorem coherent_dualStack :
    ∃ u a, Uri.parse "https://S3.dualstack.eu-1.amazonaws.com/%C3%84b//k/?VersionId=1&x=y".toList
        = .ok u ∧ ofUri u = .ok a ∧ a.bucket = "äb".toList ∧ a.key = "/k/".toList ∧ Coherent a := by
  have hu : Uri.parse "https://S3.dualstack.eu-1.amazonaws.com/%C3%84b//k/?VersionId=1&x=y".toList
      = .ok (.absolute "https".toList "S3.dualstack.eu-1.amazonaws.com".toList
        "/%C3%84b//k/".toList (some "VersionId=1&x=y".toList)) := by decide +kernel
  have hread : ofUri (.absolute "https".toList "S3.dualstack.eu-1.amazonaws.com".toList
      "/%C3%84b//k/".toList (some "VersionId=1&x=y".toList))
      = .ok { scheme := "https".toList, host := "s3.dualstack.eu-1.amazonaws.com".toList,
              endpoint := "s3.dualstack.eu-1.amazonaws.com".toList, bucket := "äb".toList,
              key := "/k/".toList, version := "1".toList, region := "eu-1".toList,
              params := "x=y".toList, pathStyle := true, dualStack := true } := by
    decide +kernel
  exact ⟨_, _, hu, hread, rfl, rfl, coherent_of_ofUri hu hread⟩

end BucketUrl.Address
