/-
BucketUrl/Proofs/CanonicalUrl.lean

The canonical URL of an address is taken apart where it was put together.

`Printable` collects what that needs: a scheme that is read as it is written, a host in lower case
that is its own host and port, and a query of characters that may stand in one.  Bucket and key
are not restricted at all, since all that a path may not hold is escaped.

Main results: the URI that a printable address is printed as has the location
`Address.location` (`Printable.location_toUri`), so the address read from it is the one of that
location with the printed query (`Printable.ofUri_toUri`); and such a URI there is exactly when
the host is not empty, passes the check, and the canonical URL is not too long
(`Printable.toUri_eq_ok_iff`).  If there is none, the error says what is wrong with the canonical
URL (`toUri_eq_error_iff`).
-/
import BucketUrl.Address.Parser
import BucketUrl.Address.Printer
import BucketUrl.Proofs.AbsoluteUri
import BucketUrl.Proofs.VersionQuery

namespace BucketUrl.Address

open Text

variable {c : Char} {a : Address} {v : Uri}

/-! ### Rebuilding -/

/-- An address is rebuilt as the URI that its canonical URL is. -/
theorem toUri_eq_ok_iff_parse : a.toUri = .ok v ↔ Uri.parse a.canonical = .ok v := by
  rw [toUri]
  cases Uri.parse a.canonical with
  | ok u => simp
  | error fault => simp

/-- An address that is not rebuilt is reported with what is wrong with its canonical URL. -/
theorem toUri_eq_error_iff {e : Error} :
    a.toUri = .error e ↔ ∃ fault, Uri.parse a.canonical = .error fault ∧ e = .invalidUri fault := by
  rw [toUri]
  cases Uri.parse a.canonical with
  | ok u => simp
  | error fault => simp [@eq_comm _ e]

/-! ### The path before it is escaped -/

/-- A slash and a name behind it; nothing for an empty name. -/
def slashed (name : Text) : Text :=
  if name = [] then [] else '/' :: name

/-- The path of the canonical URL before it is escaped. -/
def plainPath (a : Address) : Text :=
  if a.bucket = [] then [] else (if a.pathStyle then slashed a.bucket else []) ++ slashed a.key

/-- The location that the canonical URL of an address has. -/
def location (a : Address) : Location where
  scheme := a.scheme
  host := a.host
  path := Location.dropSlash a.plainPath

theorem encode_slash_cons (s : Text) :
    Percent.encode safe ('/' :: s) = '/' :: Percent.encode safe s := by
  have hslash : Percent.encodeChar safe '/' = ['/'] := by decide
  show Percent.encodeChar safe '/' ++ Percent.encode safe s = '/' :: Percent.encode safe s
  rw [hslash]
  rfl

theorem printName_eq_encode (name : Text) :
    printName name = Percent.encode safe (slashed name) := by
  rw [printName, slashed]
  split
  · rfl
  · rw [encode_slash_cons]

theorem printPath_eq_encode (a : Address) :
    a.printPath = Percent.encode safe a.plainPath := by
  have happend (s t : Text) :
      Percent.encode safe (s ++ t) = Percent.encode safe s ++ Percent.encode safe t :=
    List.flatMap_append
  rw [printPath, plainPath]
  split
  · rfl
  · rw [happend, printName_eq_encode, printName_eq_encode]
    split
    · rfl
    · rfl

theorem plainPath_cases (a : Address) : a.plainPath = [] ∨ ∃ s, a.plainPath = '/' :: s := by
  have hslashed (name : Text) : slashed name = [] ∨ slashed name = '/' :: name := by
    rw [slashed]
    split
    · exact .inl rfl
    · exact .inr rfl
  rw [plainPath]
  split
  · exact .inl rfl
  · have hkey := hslashed a.key
    split
    · rcases hslashed a.bucket with h | h
      · rw [h]
        rcases hkey with hkey | hkey
        · exact .inl hkey
        · exact .inr ⟨_, hkey⟩
      · rw [h]
        exact .inr ⟨_, rfl⟩
    · rcases hkey with hkey | hkey
      · exact .inl hkey
      · exact .inr ⟨_, hkey⟩

theorem mem_pathChars_printPath (hc : c ∈ a.printPath) : c ∈ Uri.pathChars := by
  have hhex : ∀ n < 16, Percent.hexDigit n ∈ Uri.pathChars := by decide
  rw [printPath_eq_encode] at hc
  rcases Percent.mem_encode hc with h | rfl | ⟨n, hn, rfl⟩
  · exact CharSet.mem_of_ranges (by decide) h
  · decide
  · exact hhex n hn

/-- The path of the canonical URL is decoded to what it was before it was escaped, up to the slash
that stands for an empty path. -/
theorem decode_path (a : Address) :
    ∃ path, Utf8.decode (Percent.decode (if a.printPath = [] then ['/'] else a.printPath))
      = .ok path ∧ Location.dropSlash path = Location.dropSlash a.plainPath := by
  rw [printPath_eq_encode]
  rcases a.plainPath_cases with h | ⟨s, h⟩
  · -- an empty path is read as a slash, and that is dropped again
    rw [h]
    exact ⟨['/'], rfl, rfl⟩
  · have hne : Percent.encode safe a.plainPath ≠ [] := by simp [h, encode_slash_cons]
    rw [if_neg hne, Percent.decode_encode (by decide), Utf8.decode_encode]
    exact ⟨a.plainPath, rfl, rfl⟩

/-! ### Printable addresses -/

/-- What lets the canonical URL of an address be taken apart where it was put together. -/
structure Printable (a : Address) : Prop where
  /-- The scheme is read as it is written. -/
  scheme : a.scheme ∈ Scheme.spellings
  /-- The host is its own host and port. -/
  hostPort : Uri.Authority.IsHostPort a.host
  /-- The host is in lower case. -/
  lower : lowerAscii a.host = a.host
  /-- No character of the host ends an authority. -/
  host : ∀ c ∈ a.host, ¬Uri.IsDelimiter c
  /-- All characters of the query may stand in one. -/
  query : ∀ c ∈ a.query, c ∈ Uri.queryChars

/-- The query of the canonical URL, if it has one. -/
def query? (a : Address) : Option Text :=
  if a.query = [] then none else some a.query

theorem getD_query? (a : Address) : a.query?.getD [] = a.query := by
  rw [query?]
  split
  · next h => exact h.symm
  · rfl

theorem printQuery_eq (a : Address) : a.printQuery = Uri.printQuery a.query? := by
  rw [printQuery, query?]
  split
  · rfl
  · rfl

theorem canonical_eq (a : Address) :
    a.canonical
      = a.scheme ++ "://".toList ++ (a.host ++ (a.printPath ++ Uri.printQuery a.query?)) := by
  rw [canonical, printQuery_eq, List.append_assoc, List.append_assoc]

namespace Printable

variable (ha : a.Printable)

include ha

theorem read_target :
    Uri.Target.read (a.printPath ++ Uri.printQuery a.query?)
      = .ok ⟨if a.printPath = [] then ['/'] else a.printPath, a.query?⟩ := by
  apply Uri.Target.read_append
  · exact fun c hc => mem_pathChars_printPath hc
  · rw [getD_query?]
    exact ha.query

theorem toUri_eq_ok_iff :
    a.toUri = .ok v ↔
      a.canonical.utf8Size ≤ Uri.maxBytes ∧ a.host ≠ [] ∧ Uri.Authority.check a.host = .ok () ∧
        v = .absolute a.scheme a.host (if a.printPath = [] then ['/'] else a.printPath)
          a.query? := by
  -- behind the host comes a slash, a question mark, or nothing
  have hrest : ∀ c ∈ (a.printPath ++ Uri.printQuery a.query?).head?, Uri.IsDelimiter c := by
    intro c hc
    rw [printPath_eq_encode] at hc
    rcases a.plainPath_cases with h | ⟨s, h⟩
    · rw [h] at hc
      cases hq : a.query? with
      | none => simp [hq, Uri.printQuery, Percent.encode] at hc
      | some query =>
        have hc : c = '?' := by simpa [hq, Uri.printQuery, Percent.encode, eq_comm] using hc
        exact .inr (.inl hc)
    · rw [h, encode_slash_cons, List.cons_append, List.head?_cons, Option.mem_some_iff] at hc
      exact .inl hc.symm
  rw [toUri_eq_ok_iff_parse, canonical_eq, Uri.parse_append_eq_ok_iff ha.scheme ha.host hrest,
    ha.read_target]
  constructor
  · rintro ⟨hsize, hhost, hcheck, t, ht, rfl⟩
    cases ht
    exact ⟨hsize, hhost, hcheck, rfl⟩
  · rintro ⟨hsize, hhost, hcheck, rfl⟩
    exact ⟨hsize, hhost, hcheck, _, rfl, rfl⟩

/-- The URI that an address is printed as has the location of the address. -/
theorem location_toUri (hv : a.toUri = .ok v) : Location.ofUri v = .ok a.location := by
  obtain ⟨-, -, -, rfl⟩ := ha.toUri_eq_ok_iff.1 hv
  obtain ⟨path, hdecode, hdrop⟩ := decode_path a
  -- nothing is taken from the host and nothing is put in lower case a second time
  have hhost : lowerAscii (Uri.Authority.hostPort a.host) = a.host := by
    rw [ha.hostPort.hostPort_eq, ha.lower]
  rw [Location.ofUri]
  show (Utf8.decode (Percent.decode (if a.printPath = [] then ['/'] else a.printPath))).map _ = _
  rw [hdecode]
  show Except.ok (Location.mk a.scheme (lowerAscii (Uri.Authority.hostPort a.host))
    (Location.dropSlash path)) = .ok a.location
  rw [hhost, hdrop]
  rfl

/-- The address read from that URI is the one of the location, with the printed query. -/
theorem ofUri_toUri (hv : a.toUri = .ok v) :
    ofUri v = (ofLocation a.location).map (withQuery a.query) := by
  have hquery : v.query?.getD [] = a.query := by
    obtain ⟨-, -, -, rfl⟩ := ha.toUri_eq_ok_iff.1 hv
    exact getD_query? a
  rw [ofUri, ha.location_toUri hv]
  show (ofLocation a.location).map (withQuery (v.query?.getD [])) = _
  rw [hquery]

end Printable

end BucketUrl.Address
