/-
BucketUrl/Proofs/AbsoluteUri.lean

Absolute URIs under the schemes that address buckets, read and written.

Of such a scheme only four spellings can come out of a URI: `http` and `https` are put in lower
case, `s3` is left as it stands.  A text that begins with one of them and `://` is read by its
parts (`parse_append_eq_ok_iff`), and conversely a URI with such a scheme was read that way
(`absolute_of_parse`).  Last, path and query are found again where they were written
(`Target.read_append`).
-/
import BucketUrl.Location
import BucketUrl.Proofs.Authority
import BucketUrl.Uri.Parser

namespace BucketUrl

open Text

variable {c : Char} {s name scheme auth rest path : Text} {u : Uri}

/-- The spellings of the three schemes that a URI can have. -/
def Scheme.spellings : List Text :=
  ["http".toList, "https".toList, "s3".toList, "S3".toList]

namespace Uri

/-! ### Schemes -/

theorem afterScheme?_append (h : Alike scheme name) (rest : Text) :
    afterScheme? name (scheme ++ "://".toList ++ rest) = some rest := by
  have hlength : (name ++ "://".toList).length = (scheme ++ "://".toList).length := by
    have h : (lowerAscii scheme).length = (lowerAscii name).length := congrArg List.length h
    simp only [lowerAscii, List.length_map] at h
    simp [h]
  rw [afterScheme?, hlength, List.take_left, List.drop_left, if_pos]
  rw [Alike, lowerAscii_append, lowerAscii_append, h]

theorem alike_s3_iff : Alike s "s3".toList ↔ s = "s3".toList ∨ s = "S3".toList := by
  constructor
  · intro h
    have hs : s.map Char.toLower = ['s', '3'] := h
    obtain ⟨a, t, rfl, ha, ht⟩ := List.map_eq_cons_iff.1 hs
    obtain ⟨b, t, rfl, hb, ht⟩ := List.map_eq_cons_iff.1 ht
    have ha' : a = 's' ∨ a = 'S' := by
      rw [← Char.toNat_inj, toNat_toLower] at ha
      rw [← Char.toNat_inj, ← Char.toNat_inj]
      have hs : 's'.toNat = 0x73 := rfl
      have hS : 'S'.toNat = 0x53 := rfl
      split at ha
      · omega
      · omega
    have hb' : b = '3' := (toLower_eq_iff (by decide)).1 hb
    rw [List.map_eq_nil_iff.1 ht, hb']
    rcases ha' with rfl | rfl
    · exact .inl rfl
    · exact .inr rfl
  · rintro (rfl | rfl)
    · rfl
    · rfl

/-- A scheme that was read from a URI is read again as it is. -/
theorem readScheme_append (hscheme : scheme ∈ Scheme.spellings) (rest : Text) :
    readScheme (scheme ++ "://".toList ++ rest) = .ok (some (scheme, rest)) := by
  simp only [Scheme.spellings, List.mem_cons, List.not_mem_nil, or_false] at hscheme
  rcases hscheme with rfl | rfl | rfl | rfl
  · rw [readScheme, afterScheme?_append rfl]
  · have halike : Alike "https".toList "https".toList := rfl
    rw [readScheme, afterScheme?_append halike]
    rfl
  · rfl
  · rfl

/-- A scheme that was read is `http` or `https`, or stands at the beginning of the text, which then
begins with neither of these. -/
theorem readScheme_cases (hread : readScheme s = .ok (some (scheme, rest))) :
    scheme = "http".toList ∨ scheme = "https".toList ∨
      s = scheme ++ "://".toList ++ rest ∧ afterScheme? "http".toList s = none ∧
        afterScheme? "https".toList s = none := by
  rw [readScheme] at hread
  split at hread
  · cases hread
    exact .inl rfl
  · next hhttp =>
    split at hread
    · cases hread
      exact .inr (.inl rfl)
    · next hhttps =>
      split at hread
      · cases hread
      · next hafter =>
        dsimp only at hread
        split at hread
        · cases hread
        split at hread
        · cases hread
        cases hread
        have hs : s = s.takeWhile (· ∈ schemeChars) ++ "://".toList ++ rest := by
          rw [List.append_assoc, ← after?_eq_some_iff.1 hafter, List.takeWhile_append_dropWhile]
        exact .inr (.inr ⟨hs, hhttp, hhttps⟩)

/-- The schemes that address buckets come out of a URI in one of four spellings. -/
theorem mem_spellings_of_readScheme {sc : Scheme} (hread : readScheme s = .ok (some (scheme, rest)))
    (hscheme : Scheme.ofText? scheme = some sc) : scheme ∈ Scheme.spellings := by
  rcases readScheme_cases hread with rfl | rfl | ⟨hs, hhttp, hhttps⟩
  · decide
  · decide
  · have halike := List.find?_some hscheme
    have hmem := List.mem_of_find?_eq_some hscheme
    simp only [List.mem_cons, List.not_mem_nil, or_false] at hmem
    simp only [decide_eq_true_eq] at halike
    -- `http` and `https` would have been found at the beginning, in any case
    rcases hmem with rfl | rfl | rfl
    · have halike : Alike scheme "http".toList := halike
      rw [hs, afterScheme?_append halike] at hhttp
      cases hhttp
    · have halike : Alike scheme "https".toList := halike
      rw [hs, afterScheme?_append halike] at hhttps
      cases hhttps
    · rcases alike_s3_iff.1 halike with rfl | rfl
      · decide
      · decide

/-! ### Authority, path and query -/

theorem Authority.read_eq_ok_iff {front : Text} (hfront : front ≠ []) :
    Authority.read s = .ok (front, rest) ↔
      s.takeWhile (¬IsDelimiter ·) = front ∧ s.dropWhile (¬IsDelimiter ·) = rest ∧
        Authority.check front = .ok () := by
  rw [Authority.read]
  split
  · next hs =>
    subst hs
    simp [hfront.symm]
  · dsimp only
    split
    · next hcheck =>
      constructor
      · intro h
        cases h
        exact ⟨rfl, rfl, hcheck⟩
      · rintro ⟨rfl, rfl, -⟩
        rfl
    · next e hcheck =>
      constructor
      · intro h
        cases h
      · rintro ⟨rfl, -, hok⟩
        rw [hok] at hcheck
        cases hcheck

theorem readAbsoluteForm_eq_ok_iff :
    readAbsoluteForm scheme s = .ok u ↔
      ∃ auth rest t, auth ≠ [] ∧ Authority.read s = .ok (auth, rest) ∧ Target.read rest = .ok t ∧
        u = .absolute scheme auth t.path t.query := by
  rw [readAbsoluteForm]
  split
  · next hread =>
    constructor
    · intro h
      cases h
    · rintro ⟨auth, rest, t, hauth, hread', -⟩
      rw [hread] at hread'
      cases hread'
      exact absurd rfl hauth
  · next auth rest hne hread =>
    have hauth : auth ≠ [] := hne
    constructor
    · intro h
      obtain ⟨t, ht, rfl⟩ := map_eq_ok_iff.1 h
      exact ⟨auth, rest, t, hauth, hread, ht, rfl⟩
    · rintro ⟨auth', rest', t, -, hread', ht, rfl⟩
      rw [hread] at hread'
      cases hread'
      rw [ht]
      rfl
  · next e hread =>
    constructor
    · intro h
      cases h
    · rintro ⟨auth, rest, t, -, hread', -⟩
      rw [hread] at hread'
      cases hread'

/-! ### Whole URIs -/

/-- None of the four spellings begins like one of the shorter forms. -/
theorem not_mem_of_head?_append (hscheme : scheme ∈ Scheme.spellings)
    (hc : c ∈ (scheme ++ "://".toList ++ s).head?) : c ∉ ['*', '?', '#', '/'] := by
  have hsign {d : Char} {t : Text} (hd : d ∉ ['*', '?', '#', '/']) (hc : c ∈ (d :: t).head?) :
      c ∉ ['*', '?', '#', '/'] := by
    rw [List.head?_cons, Option.mem_some_iff] at hc
    rw [← hc]
    exact hd
  simp only [Scheme.spellings, List.mem_cons, List.not_mem_nil, or_false] at hscheme
  rcases hscheme with rfl | rfl | rfl | rfl
  · exact hsign (d := 'h') (by decide) hc
  · exact hsign (d := 'h') (by decide) hc
  · exact hsign (d := 's') (by decide) hc
  · exact hsign (d := 'S') (by decide) hc

theorem parseShort_append (hscheme : scheme ∈ Scheme.spellings) (s : Text) :
    parseShort (scheme ++ "://".toList ++ s) = readAbsoluteForm scheme s := by
  have hne : scheme ++ "://".toList ++ s ≠ [] := by simp
  have hhead : ∀ c ∈ (scheme ++ "://".toList ++ s).head?, c ∉ ['*', '?', '#', '/'] :=
    fun c hc => not_mem_of_head?_append hscheme hc
  have hread := readScheme_append hscheme s
  generalize scheme ++ "://".toList ++ s = text at *
  rw [parseShort.eq_def]
  split
  · exact absurd rfl hne
  · exact absurd (hhead '*' rfl) (by decide)
  · exact absurd (hhead '?' rfl) (by decide)
  · exact absurd (hhead '#' rfl) (by decide)
  · exact absurd (hhead '/' rfl) (by decide)
  · rw [hread]

/-- A URI of at most `maxBytes` bytes that is written by its parts is read by its parts. -/
theorem parse_append_eq_ok_iff (hscheme : scheme ∈ Scheme.spellings)
    (hauth : ∀ c ∈ auth, ¬IsDelimiter c) (hrest : ∀ c ∈ rest.head?, IsDelimiter c) :
    parse (scheme ++ "://".toList ++ (auth ++ rest)) = .ok u ↔
      utf8Size (scheme ++ "://".toList ++ (auth ++ rest)) ≤ maxBytes ∧ auth ≠ [] ∧
        Authority.check auth = .ok () ∧
          ∃ t, Target.read rest = .ok t ∧ u = .absolute scheme auth t.path t.query := by
  have hall : ∀ c ∈ auth, decide (¬IsDelimiter c) = true := fun c hc => by simpa using hauth c hc
  have htake : (auth ++ rest).takeWhile (¬IsDelimiter ·) = auth := by
    rw [List.takeWhile_append_of_pos hall]
    cases rest with
    | nil => simp
    | cons c rest => simp [hrest c rfl]
  have hdrop : (auth ++ rest).dropWhile (¬IsDelimiter ·) = rest := by
    rw [List.dropWhile_append_of_pos hall]
    cases rest with
    | nil => simp
    | cons c rest => simp [hrest c rfl]
  rw [parse, parseShort_append hscheme]
  split
  · next hlong =>
    constructor
    · intro h
      cases h
    · rintro ⟨hshort, -⟩
      omega
  · next hshort =>
    rw [readAbsoluteForm_eq_ok_iff]
    constructor
    · rintro ⟨auth', rest', t, hne, hread, ht, rfl⟩
      obtain ⟨rfl, rfl, hcheck⟩ := (Authority.read_eq_ok_iff hne).1 hread
      rw [htake] at hne hcheck ⊢
      rw [hdrop] at ht
      exact ⟨by omega, hne, hcheck, t, ht, rfl⟩
    · rintro ⟨-, hne, hcheck, t, ht, rfl⟩
      exact ⟨auth, rest, t, hne, (Authority.read_eq_ok_iff hne).2 ⟨htake, hdrop, hcheck⟩, ht, rfl⟩

/-- A URI with a scheme that addresses buckets has an authority that passes the check. -/
theorem absolute_of_parse {sc : Scheme} (hparse : parse s = .ok u) (hu : u.scheme? = some scheme)
    (hscheme : Scheme.ofText? scheme = some sc) :
    ∃ auth path query, u = .absolute scheme auth path query ∧ scheme ∈ Scheme.spellings ∧
      auth ≠ [] ∧ Authority.check auth = .ok () := by
  rw [parse] at hparse
  split at hparse
  · cases hparse
  rw [parseShort.eq_def] at hparse
  -- only the last of the forms has a scheme
  split at hparse
  · cases hparse
  · cases hparse
    cases hu
  · cases hparse
  · cases hparse
  · obtain ⟨t, -, rfl⟩ := map_eq_ok_iff.1 hparse
    cases hu
  · split at hparse
    · next hread =>
      obtain ⟨auth, rest, t, hauth, hauthread, -, rfl⟩ := readAbsoluteForm_eq_ok_iff.1 hparse
      obtain ⟨-, -, hcheck⟩ := (Authority.read_eq_ok_iff hauth).1 hauthread
      cases hu
      exact ⟨auth, t.path, t.query, rfl, mem_spellings_of_readScheme hread hscheme, hauth, hcheck⟩
    · rw [readAuthorityForm] at hparse
      split at hparse
      · cases hparse
        cases hu
      · cases hparse
      · cases hparse
    · cases hparse

/-! ### URIs over HTTP -/

/-- The scheme of the URI is HTTP, with or without TLS. -/
def IsHttp (u : Uri) : Prop :=
  u.scheme? = some "http".toList ∨ u.scheme? = some "https".toList

/-- A URI over HTTP has an authority that passes the check. -/
theorem absolute_of_isHttp (hparse : parse s = .ok u) (hu : u.IsHttp) :
    ∃ scheme auth path query, u = .absolute scheme auth path query ∧ auth ≠ [] ∧
      Authority.check auth = .ok () := by
  have hscheme : ∃ scheme sc, u.scheme? = some scheme ∧ Scheme.ofText? scheme = some sc := by
    rcases hu with hu | hu
    · exact ⟨_, .http, hu, rfl⟩
    · exact ⟨_, .https, hu, rfl⟩
  obtain ⟨scheme, sc, hu, hsc⟩ := hscheme
  obtain ⟨auth, path, query, rfl, -, hne, hcheck⟩ := absolute_of_parse hparse hu hsc
  exact ⟨scheme, auth, path, query, rfl, hne, hcheck⟩

theorem scheme?_of_isHttp {l : Location} (hu : u.IsHttp) (hl : Location.ofUri u = .ok l) :
    l.scheme? = some .http ∨ l.scheme? = some .https := by
  obtain ⟨path, -, rfl⟩ := map_eq_ok_iff.1 hl
  rcases hu with hu | hu
  · exact .inl (by rw [Location.scheme?, hu]; rfl)
  · exact .inr (by rw [Location.scheme?, hu]; rfl)

theorem scheme?_ne_s3_of_isHttp {l : Location} (hu : u.IsHttp) (hl : Location.ofUri u = .ok l) :
    l.scheme? ≠ some .s3 := by
  rcases scheme?_of_isHttp hu hl with h | h
  · rw [h]
    decide
  · rw [h]
    decide

/-! ### Path and query where they were written -/

theorem not_mem_of_pathChars (hpath : ∀ c ∈ path, c ∈ pathChars) : '#' ∉ path ∧ '?' ∉ path :=
  ⟨fun h => absurd (hpath _ h) (by decide), fun h => absurd (hpath _ h) (by decide)⟩

/-- A path and a query that are written one behind the other are read apart, and an empty path is
read as a slash. -/
theorem Target.read_append {query : Option Text} (hpath : ∀ c ∈ path, c ∈ pathChars)
    (hquery : ∀ c ∈ query.getD [], c ∈ queryChars) :
    Target.read (path ++ printQuery query)
      = .ok ⟨if path = [] then ['/'] else path, query⟩ := by
  obtain ⟨hsharp, hmark⟩ := not_mem_of_pathChars hpath
  have hallowed : ∀ c ∈ (if path = [] then ['/'] else path), c ∈ pathChars := by
    split
    · decide
    · exact hpath
  have hnone : '#' ∉ path ++ printQuery query := by
    cases query with
    | none => simpa [printQuery] using hsharp
    | some query =>
      have hq : '#' ∉ query := fun h => absurd (hquery _ h) (by decide)
      simp [printQuery, hsharp, hq]
  have hsplit : Target.split (path ++ printQuery query)
      = ⟨if path = [] then ['/'] else path, query⟩ := by
    rw [Target.split]
    cases query with
    | none =>
      have hcut : cut? '?' (path ++ printQuery none) = none :=
        cut?_eq_none_iff.2 (by simpa [printQuery] using hmark)
      rw [hcut]
      simp [printQuery]
    | some query =>
      have hcut : cut? '?' (path ++ printQuery (some query)) = some (path, query) :=
        cut?_append_cons hmark query
      rw [hcut]
  rw [Target.read, before_eq_self hnone, hsplit, if_pos ⟨hallowed, hquery⟩]

end Uri

end BucketUrl
