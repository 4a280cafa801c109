/-
BucketUrl/Proofs/RoundTrip.lean

The canonical URL of an address that was read from a URI is read as the same address.

The host was put in lower case and lost its user information, bucket and key were decoded, and the
query was written anew.  What is left is printable (`printable_of_ofUri`) and laid out
(`laidOut_of_ofLocation`), and that is all that reading it again needs
(`Printable.ofUri_of_laidOut`).

Main result: `canonical_stable`.  A service on a host that is no Amazon host is left out: its
canonical URL has no path, and then a bucket may be found in the host.
-/
import BucketUrl.Proofs.Layout

namespace BucketUrl.Address

open Text

variable {a : Address} {s : Text} {u v : Uri} {scheme : Scheme}

/-! ### Reading what was printed -/

/-- A printable address that is laid out is read from the URI that it is printed as. -/
theorem Printable.ofUri_of_laidOut (ha : a.Printable) (hlaid : LaidOut scheme a)
    (hscheme : Scheme.ofText? a.scheme = some scheme)
    (hquery : VersionQuery.split a.query = ⟨a.version, a.params⟩) (hv : a.toUri = .ok v) :
    ofUri v = .ok a := by
  obtain ⟨-, hhost, -, -⟩ := ha.toUri_eq_ok_iff.1 hv
  have hbare : ofLocation a.location = .ok a.withoutQuery :=
    hlaid.ofLocation_location hscheme hhost
  rw [ha.ofUri_toUri hv, hbare]
  show Except.ok (withQuery a.query a.withoutQuery) = .ok a
  rw [withQuery, hquery]
  rfl

theorem parse_canonical_of_ofUri (hv : a.toUri = .ok v) (hread : ofUri v = .ok a) :
    parse a.canonical = .ok a := by
  rw [parse, toUri_eq_ok_iff_parse.1 hv]
  exact hread

/-! ### Addresses that were read -/

theorem parse_eq_ok_iff : parse s = .ok a ↔ ∃ u, Uri.parse s = .ok u ∧ ofUri u = .ok a := by
  rw [parse]
  cases Uri.parse s with
  | ok u => simp
  | error fault => simp

/-- What a URI gives is the address of its location with the parts of its query. -/
theorem ofUri_eq_ok_iff :
    ofUri u = .ok a ↔
      ∃ l b, Location.ofUri u = .ok l ∧ ofLocation l = .ok b ∧
        a = withQuery (u.query?.getD []) b := by
  rw [ofUri]
  cases Location.ofUri u with
  | error fault => simp
  | ok l => simp [map_eq_ok_iff, @eq_comm _ a]

/-- Where the location is known, what is left is to read it. -/
theorem ofUri_eq_ok_iff_of_location {l : Location} (hl : Location.ofUri u = .ok l) :
    ofUri u = .ok a ↔ ∃ b, ofLocation l = .ok b ∧ a = withQuery (u.query?.getD []) b := by
  rw [ofUri_eq_ok_iff, hl]
  simp

theorem location_of_ofUri {l : Location} (hl : Location.ofUri u = .ok l) :
    l.scheme = u.scheme?.getD [] ∧ l.host = lowerAscii u.hostPort := by
  obtain ⟨path, -, rfl⟩ := map_eq_ok_iff.1 hl
  exact ⟨rfl, rfl⟩

theorem LaidOut.withQuery (query : Text) (hlaid : LaidOut scheme a) :
    LaidOut scheme (a.withQuery query) := by
  -- no case looks at the version or the parameters
  cases hlaid with
  | amazonHost hamazon hbucket hendpoint hstyle =>
    exact .amazonHost ⟨hamazon.1, hamazon.2, hamazon.3⟩ hbucket hendpoint hstyle
  | amazonPath hamazon hbucket hpath =>
    refine .amazonPath ⟨hamazon.1, hamazon.2, hamazon.3⟩ hbucket ?_
    exact ⟨hpath.1, hpath.2, hpath.3, hpath.4, hpath.5⟩
  | s3Scheme hother hscheme hbucket hendpoint hstyle =>
    exact .s3Scheme ⟨hother.1, hother.2, hother.3⟩ hscheme hbucket hendpoint hstyle
  | path hother hscheme hbucket hname hpath =>
    refine .path ⟨hother.1, hother.2, hother.3⟩ hscheme hbucket hname ?_
    exact ⟨hpath.1, hpath.2, hpath.3, hpath.4, hpath.5⟩
  | host hother hscheme hname hhost hkey hstyle =>
    exact .host ⟨hother.1, hother.2, hother.3⟩ hscheme hname hhost hkey hstyle

/-- An address that was read from a URI has one of the four schemes, and its host is what the
authority has behind the user information. -/
theorem authority_of_ofUri (hu : Uri.parse s = .ok u) (hread : ofUri u = .ok a) :
    ∃ auth, u.authority? = some auth ∧ Uri.Authority.check auth = .ok () ∧
      a.scheme ∈ Scheme.spellings ∧ a.host = lowerAscii (Uri.Authority.hostPort auth) ∧
        a.host ≠ [] := by
  obtain ⟨l, b, hl, hb, rfl⟩ := ofUri_eq_ok_iff.1 hread
  obtain ⟨hscheme', hhost'⟩ := location_of_ofUri hl
  obtain ⟨scheme, hscheme, hbscheme, hbhost, hne, -⟩ := laidOut_or_unnamed hb
  cases hu' : u.scheme? with
  | none =>
    -- without a scheme there is no address
    rw [Location.scheme?, hscheme', hu'] at hscheme
    cases hscheme
  | some text =>
    have htext : l.scheme = text := by rw [hscheme', hu', Option.getD_some]
    rw [Location.scheme?, htext] at hscheme
    obtain ⟨auth, path, query, rfl, hspelling, -, hcheck⟩ :=
      Uri.absolute_of_parse hu hu' hscheme
    refine ⟨auth, rfl, hcheck, ?_, hbhost.trans hhost', ?_⟩
    · show b.scheme ∈ Scheme.spellings
      rw [hbscheme, htext]
      exact hspelling
    · show b.host ≠ []
      rw [hbhost]
      exact hne

/-- An address that was read from a URI is printable. -/
theorem printable_of_ofUri (hu : Uri.parse s = .ok u) (hread : ofUri u = .ok a) : a.Printable := by
  obtain ⟨auth, -, hcheck, hscheme, hhost, -⟩ := authority_of_ofUri hu hread
  obtain ⟨l, b, -, -, rfl⟩ := ofUri_eq_ok_iff.1 hread
  constructor
  · exact hscheme
  · rw [hhost]
    exact (Uri.Authority.isHostPort_hostPort hcheck).lowerAscii
  · rw [hhost, lowerAscii_lowerAscii]
  · intro c hc
    rw [hhost] at hc
    exact Uri.Authority.not_isDelimiter_of_mem_hostPort hcheck hc
  · exact fun c hc => VersionQuery.mem_queryChars_join_split hc

/-! ### Stability -/

/-- What is found in `n` rounds of reading a text and printing the address that was read: the
addresses and their canonical URLs. -/
def rounds : Nat → Text → Except Error (List (Address × Text))
  | 0, _ => .ok []
  | n + 1, s =>
    match parse s with
    | .ok a => (rounds n a.canonical).map ((a, a.canonical) :: ·)
    | .error e => .error e

theorem rounds_canonical (hread : parse a.canonical = .ok a) (n : Nat) :
    rounds n a.canonical = .ok (List.replicate n (a, a.canonical)) := by
  induction n with
  | zero => rfl
  | succ n ih =>
    rw [rounds, hread]
    show (rounds n a.canonical).map _ = _
    rw [ih]
    rfl

/-- The canonical URL of an address that was read from a URI is read as that address, however
often it is read and printed again. -/
theorem canonical_stable (hu : Uri.parse s = .ok u) (hread : ofUri u = .ok a)
    (hv : a.toUri = .ok v)
    (hbucket : a.bucket ≠ [] ∨ (AmazonHost.ofHost? a.host).isSome = true) :
    ofUri v = .ok a ∧
      ∀ n, rounds n a.canonical = .ok (List.replicate n (a, a.canonical)) := by
  have hprintable := printable_of_ofUri hu hread
  have hagain : ofUri v = .ok a := by
    obtain ⟨l, b, -, hb, rfl⟩ := ofUri_eq_ok_iff.1 hread
    obtain ⟨scheme, hscheme, hscheme', -, -, hlaid⟩ := laidOut_of_ofLocation hb hbucket
    have hquery := VersionQuery.split_join_split (u.query?.getD [])
    refine hprintable.ofUri_of_laidOut (hlaid.withQuery _) ?_ hquery hv
    rw [← hscheme, Location.scheme?, ← hscheme']
    rfl
  exact ⟨hagain, rounds_canonical (parse_canonical_of_ofUri hv hagain)⟩

/-- User information and capitals are lost once, and then nothing changes any more. -/
theorem canonical_stable_minio :
    ∃ u a v, Uri.parse "http://me@Minio:9000/Logs/a%20b?x=1&VERSIONID=7".toList = .ok u ∧
      ofUri u = .ok a ∧ a.toUri = .ok v ∧ a.bucket ≠ [] ∧ ofUri v = .ok a ∧
        ∀ n, rounds n a.canonical = .ok (List.replicate n (a, a.canonical)) := by
  have hu : Uri.parse "http://me@Minio:9000/Logs/a%20b?x=1&VERSIONID=7".toList
      = .ok (.absolute "http".toList "me@Minio:9000".toList "/Logs/a%20b".toList
        (some "x=1&VERSIONID=7".toList)) := by decide +kernel
  have hread : ofUri (.absolute "http".toList "me@Minio:9000".toList "/Logs/a%20b".toList
        (some "x=1&VERSIONID=7".toList))
      = .ok { scheme := "http".toList, host := "minio:9000".toList, endpoint := "minio:9000".toList,
              bucket := "logs".toList, key := "a b".toList, version := "7".toList,
              params := "x=1".toList, pathStyle := true } := by decide +kernel
  have hv : toUri { scheme := "http".toList, host := "minio:9000".toList,
                    endpoint := "minio:9000".toList, bucket := "logs".toList, key := "a b".toList,
                    version := "7".toList, params := "x=1".toList, pathStyle := true }
      = .ok (.absolute "http".toList "minio:9000".toList "/logs/a%20b".toList
        (some "x=1&versionId=7".toList)) := by decide +kernel
  have hbucket : "logs".toList ≠ [] := List.cons_ne_nil _ _
  exact ⟨_, _, _, hu, hread, hv, hbucket, canonical_stable hu hread hv (.inl hbucket)⟩

end BucketUrl.Address
