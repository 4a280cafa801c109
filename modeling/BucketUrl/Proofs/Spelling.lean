/-
BucketUrl/Proofs/Spelling.lean

Only the meaning of a URL matters, not its spelling and not its credentials.

Two URIs mean the same (`SameMeaning`) when they differ at most in the user information, in the case
of letters in scheme and host, and in the characters of path and query that are escaped.  Host and
port are found by different rules, but neither looks at the user information and both go through
lower-casing, so the locations differ in the letters of the scheme only (`SameMeaning.location`).
Every layout carries that difference into the address unchanged (`carries_withScheme`).

Main result: `parse_sameMeaning`.
-/
import BucketUrl.Proofs.Decision

namespace BucketUrl

open Text

variable {s t scheme : Text} {u v : Uri} {l : Location} {a b : Address}

/-! ### The meaning of a URI -/

/-- Two URIs mean the same, whatever user information they have. -/
structure Uri.SameMeaning (u v : Uri) : Prop where
  /-- The schemes differ in the case of letters only. -/
  scheme : Alike (u.scheme?.getD []) (v.scheme?.getD [])
  /-- So do the authorities behind the user information. -/
  authority : Alike (Authority.afterUserInfo (u.authority?.getD []))
    (Authority.afterUserInfo (v.authority?.getD []))
  /-- The paths stand for the same bytes. -/
  path : Percent.decode u.path = Percent.decode v.path
  /-- The queries stand for the same pairs. -/
  query : Form.read (u.query?.getD []) = Form.read (v.query?.getD [])

theorem Uri.hostPort_eq (u : Uri) : u.hostPort = Authority.hostPort (u.authority?.getD []) := by
  rw [Uri.hostPort]
  cases u.authority? with
  | some auth => rfl
  | none => rfl

theorem Uri.SameMeaning.hostPort (h : u.SameMeaning v) :
    lowerAscii v.hostPort = lowerAscii u.hostPort := by
  -- user information goes first, then the case of letters
  rw [Uri.hostPort_eq, Uri.hostPort_eq, ← Authority.hostPort_afterUserInfo,
    ← Authority.hostPort_lowerAscii, ← h.authority, Authority.hostPort_lowerAscii,
    Authority.hostPort_afterUserInfo]

/-! ### Another spelling of the scheme -/

/-- The location with another scheme. -/
def Location.withScheme (scheme : Text) (l : Location) : Location :=
  { l with scheme := scheme }

/-- The address with another scheme. -/
def Address.withScheme (scheme : Text) (a : Address) : Address :=
  { a with scheme := scheme }

theorem Uri.SameMeaning.location (h : u.SameMeaning v) :
    (Location.ofUri v).toOption
      = (Location.ofUri u).toOption.map (Location.withScheme (v.scheme?.getD [])) := by
  rw [Location.ofUri, Location.ofUri, toOption_map, toOption_map, Option.map_map, h.path,
    h.hostPort]
  rfl

theorem Location.sameDecision_withScheme (h : Alike scheme l.scheme) :
    l.SameDecision (l.withScheme scheme) where
  scheme := Scheme.ofText?_congr h
  host := Iff.rfl
  amazon := rfl
  path := rfl
  name := Iff.rfl

theorem Layout.fromPath_withScheme (scheme : Text) (l : Location) :
    fromPath (l.withScheme scheme) = (fromPath l).map (Address.withScheme scheme) := by
  rw [fromPath, fromPath]
  dsimp only [Location.withScheme]
  split
  · rfl
  · rfl

theorem Layout.address_withScheme (scheme : Text) (l : Location) (layout : Layout) :
    layout.address (l.withScheme scheme) = (layout.address l).map (Address.withScheme scheme) := by
  cases layout with
  | amazon parts =>
    rw [address, address]
    cases parts.bucket? with
    | some bucket => rfl
    | none =>
      dsimp only
      rw [fromPath_withScheme]
      cases fromPath l with
      | ok a => rfl
      | error r => rfl
  | path => exact fromPath_withScheme scheme l
  | s3Scheme => rfl
  | host bucket endpoint => rfl
  | service => rfl

/-- Locations under the same scheme in different spellings carry the spelling. -/
theorem Address.carries_withScheme (h : Alike scheme l.scheme) :
    Carries (withScheme scheme) l (l.withScheme scheme) := by
  refine carries_of_layout (k := id) (Location.sameDecision_withScheme h) (fun _ => rfl)
    (fun _ => rfl) ?_
  intro layout hlayout
  rw [id, Layout.address_withScheme, toOption_map]

/-! ### Reading URLs with the same meaning -/

theorem Uri.SameMeaning.ofUri (h : u.SameMeaning v) :
    v.isS3 = u.isS3 ∧
      (Address.ofUri v).toOption
        = (Address.ofUri u).toOption.map (Address.withScheme (v.scheme?.getD [])) := by
  refine Address.Carries.ofUri h.location ?_ ?_ fun query a => rfl
  · intro l hl
    apply Address.carries_withScheme
    rw [(Address.location_of_ofUri hl).1]
    exact h.scheme.symm
  · rw [VersionQuery.split, VersionQuery.split, h.query]

theorem Address.scheme_of_ofUri (hread : ofUri u = .ok a) : a.scheme = u.scheme?.getD [] := by
  obtain ⟨l, b, hl, hb, rfl⟩ := ofUri_eq_ok_iff.1 hread
  obtain ⟨layout, -, haddress⟩ := ofLocation_eq_ok_iff.1 hb
  exact (host_of_address haddress).1.trans (location_of_ofUri hl).1

/-- What follows the scheme in the canonical URL does not depend on it. -/
theorem Address.canonical_withScheme (scheme : Text) (a : Address) :
    ∃ rest, a.canonical = a.scheme ++ rest ∧ (a.withScheme scheme).canonical = scheme ++ rest := by
  refine ⟨"://".toList ++ (a.host ++ (a.printPath ++ a.printQuery)), ?_, ?_⟩
  · simp only [canonical, List.append_assoc]
  · show scheme ++ "://".toList ++ a.host ++ a.printPath ++ a.printQuery = _
    simp only [List.append_assoc]

/-- **Only the meaning of a URL matters.**  Of two texts that are URIs with the same meaning, both
are recognised or neither is, and both are read or neither is.  The two addresses are the same up
to the case of letters in the scheme, and so are the canonical URLs; nothing of the user information
is in them. -/
theorem parse_sameMeaning (hu : Uri.parse s = .ok u) (hv : Uri.parse t = .ok v)
    (h : u.SameMeaning v) :
    Text.isS3 s = Text.isS3 t ∧
      ((∃ a, Address.parse s = .ok a) ↔ ∃ b, Address.parse t = .ok b) ∧
        ∀ a b, Address.parse s = .ok a → Address.parse t = .ok b →
          b = { a with scheme := b.scheme } ∧ Alike a.scheme b.scheme ∧
            ∃ rest, a.canonical = a.scheme ++ rest ∧ b.canonical = b.scheme ++ rest := by
  obtain ⟨hs3, hread⟩ := h.ofUri
  obtain ⟨hiff, heq⟩ := eq_of_toOption_eq_map hread
  rw [Text.isS3, Text.isS3, Address.parse, Address.parse, hu, hv]
  refine ⟨hs3.symm, hiff, ?_⟩
  intro a b ha hb
  have hscheme : b.scheme = v.scheme?.getD [] := Address.scheme_of_ofUri hb
  have hb' : b = a.withScheme b.scheme := by
    rw [hscheme]
    exact heq a b ha hb
  refine ⟨hb', ?_, ?_⟩
  · rw [Address.scheme_of_ofUri ha, hscheme]
    exact h.scheme
  · obtain ⟨rest, hcanonical, hcanonical'⟩ := a.canonical_withScheme b.scheme
    rw [← hb'] at hcanonical'
    exact ⟨rest, hcanonical, hcanonical'⟩

/-- Credentials with brackets and colons, capitals in scheme and host, and escapes in path and
query. -/
theorem parse_sameMeaning_logs :
    ∃ u v, Uri.parse "S3://a:[b:c]@Logs/%6By%2f?VersionId=%31&x=%2b+1".toList = .ok u ∧
      Uri.parse "s3://logs/ky/?&VersionId=1&x=%2B%201".toList = .ok v ∧ u.SameMeaning v ∧
        ∃ a b, Address.parse "S3://a:[b:c]@Logs/%6By%2f?VersionId=%31&x=%2b+1".toList = .ok a ∧
          Address.parse "s3://logs/ky/?&VersionId=1&x=%2B%201".toList = .ok b ∧
            b = { a with scheme := "s3".toList } ∧
              a.canonical = "S3://logs/ky/?x=%2B+1&versionId=1".toList := by
  have hu : Uri.parse "S3://a:[b:c]@Logs/%6By%2f?VersionId=%31&x=%2b+1".toList
      = .ok (.absolute "S3".toList "a:[b:c]@Logs".toList "/%6By%2f".toList
        (some "VersionId=%31&x=%2b+1".toList)) := by decide +kernel
  have hv : Uri.parse "s3://logs/ky/?&VersionId=1&x=%2B%201".toList
      = .ok (.absolute "s3".toList "logs".toList "/ky/".toList
        (some "&VersionId=1&x=%2B%201".toList)) := by decide +kernel
  have hsame : Uri.SameMeaning
      (.absolute "S3".toList "a:[b:c]@Logs".toList "/%6By%2f".toList
        (some "VersionId=%31&x=%2b+1".toList))
      (.absolute "s3".toList "logs".toList "/ky/".toList
        (some "&VersionId=1&x=%2B%201".toList)) :=
    ⟨by decide +kernel, by decide +kernel, by decide +kernel, by decide +kernel⟩
  have ha : Address.parse "S3://a:[b:c]@Logs/%6By%2f?VersionId=%31&x=%2b+1".toList
      = .ok { scheme := "S3".toList, host := "logs".toList, bucket := "logs".toList,
              key := "ky/".toList, version := "1".toList, params := "x=%2B+1".toList } := by
    decide +kernel
  obtain ⟨-, hread, heq⟩ := parse_sameMeaning hu hv hsame
  obtain ⟨b, hb⟩ := hread.1 ⟨_, ha⟩
  obtain ⟨hb', -, -⟩ := heq _ b ha hb
  have hscheme : b.scheme = "s3".toList := by
    rw [Address.parse, hv] at hb
    exact Address.scheme_of_ofUri hb
  rw [hscheme] at hb'
  exact ⟨_, _, hu, hv, hsame, _, b, ha, hb, hb', by decide +kernel⟩

end BucketUrl
