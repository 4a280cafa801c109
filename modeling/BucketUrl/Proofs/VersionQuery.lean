/-
BucketUrl/Proofs/VersionQuery.lean

Joining a version to parameters, and taking it out of them again.

The version is written as one more pair at the end, and it is read as one more pair at the end,
whatever the parameters look like (`read_join`).  So taking the query apart gives back what was
joined to written parameters (`split_join`), and every query that is put together so may stand in a
URI (`mem_queryChars_join`).

Nor does it matter how a query was written that is taken apart: the parameters that are kept are
read as they were before (`Form.read_write`).

Main results: `takesApart_split` and `join_then_split`.
-/
import BucketUrl.Escape.Lemmas
import BucketUrl.Uri.Parser
import BucketUrl.VersionQuery

namespace BucketUrl.VersionQuery

variable {c : Char} {ps : List Form.Pair}

/-- What reading a query leaves as parameters has no version among it. -/
theorem split_eq_write (query : Text) :
    ∃ v, ∃ ps : List Form.Pair, (∀ p ∈ ps, ¬IsVersion p) ∧ split query = ⟨v, Form.write ps⟩ := by
  refine ⟨_, _, ?_, rfl⟩
  intro p hp
  simpa using (List.mem_filter.1 hp).2

/-- A version is read behind the parameters that it is joined to, and an empty one not at all. -/
theorem read_join (params v : Text) :
    Form.read (join ⟨v, params⟩)
      = if v = [] then Form.read params else Form.read params ++ [⟨key, v⟩] := by
  rw [join]
  split
  · rfl
  · exact Form.read_append params _

theorem join_write (ps : List Form.Pair) (v : Text) :
    join ⟨v, Form.write ps⟩ = Form.write (if v = [] then ps else ps ++ [⟨key, v⟩]) := by
  rw [join]
  split
  · rfl
  · exact Form.append_write ps _

/-- Taking a query apart undoes joining. -/
theorem split_join (hps : ∀ p ∈ ps, ¬IsVersion p) (v : Text) :
    split (join ⟨v, Form.write ps⟩) = ⟨v, Form.write ps⟩ := by
  have hfind : ps.find? (IsVersion ·) = none :=
    List.find?_eq_none.2 fun p hp => by simpa using hps p hp
  have hfilter : ps.filter (¬IsVersion ·) = ps :=
    List.filter_eq_self.2 fun p hp => by simpa using hps p hp
  rw [split, read_join, Form.read_write]
  -- the version is found, since no parameter before it has its name
  split
  · next hv => rw [hfind, hfilter, hv]; rfl
  · have hkey : IsVersion ⟨key, v⟩ := rfl
    rw [List.find?_append, hfind, List.filter_append, hfilter]
    simp [hkey]

/-- Any version that is joined to the parameters of a query is taken out of them again. -/
theorem split_join_params (query v : Text) :
    split (join ⟨v, (split query).params⟩) = ⟨v, (split query).params⟩ := by
  obtain ⟨w, ps, hps, hsplit⟩ := split_eq_write query
  rw [hsplit]
  exact split_join hps v

/-- Taking a query apart twice gives the same as taking it apart once. -/
theorem split_join_split (query : Text) : split (join (split query)) = split query :=
  split_join_params query (split query).version

/-! ### Characters -/

theorem mem_queryChars_encodeText {s : Text} (hc : c ∈ Form.encodeText s) : c ∈ Uri.queryChars := by
  have hhex : ∀ n < 16, Percent.hexDigit n ∈ Uri.queryChars := by decide
  rcases Form.mem_encodeText hc with h | rfl | rfl | ⟨n, hn, rfl⟩
  · exact CharSet.mem_of_ranges (by decide) h
  · decide
  · decide
  · exact hhex n hn

theorem mem_queryChars_write (hc : c ∈ Form.write ps) : c ∈ Uri.queryChars := by
  rcases Form.mem_write hc with rfl | rfl | ⟨s, hc⟩
  · decide
  · decide
  · exact mem_queryChars_encodeText hc

/-- A query that is joined to written parameters may stand in a URI. -/
theorem mem_queryChars_join {v : Text} (hc : c ∈ join ⟨v, Form.write ps⟩) : c ∈ Uri.queryChars := by
  rw [join_write] at hc
  exact mem_queryChars_write hc

theorem mem_queryChars_join_split {query : Text} (hc : c ∈ join (split query)) :
    c ∈ Uri.queryChars := by
  obtain ⟨v, ps, -, hsplit⟩ := split_eq_write query
  rw [hsplit] at hc
  exact mem_queryChars_join hc

/-! ### What taking a query apart keeps -/

/-- The version that a list of parameters gives: the value of the first one with that name, and
nothing if there is none. -/
def IsFirstVersion (ps : List Form.Pair) (v : Text) : Prop :=
  (∀ p ∈ ps, ¬IsVersion p) ∧ v = [] ∨
    ∃ front p back, ps = front ++ p :: back ∧ (∀ q ∈ front, ¬IsVersion q) ∧ IsVersion p ∧
      v = p.value

theorem isFirstVersion_split (query : Text) :
    IsFirstVersion (Form.read query) (split query).version := by
  show IsFirstVersion _ ((((Form.read query).find? (IsVersion ·)).map (·.value)).getD [])
  cases hfind : (Form.read query).find? (IsVersion ·) with
  | none =>
    refine .inl ⟨?_, rfl⟩
    intro p hp
    simpa using List.find?_eq_none.1 hfind p hp
  | some p =>
    obtain ⟨hversion, front, back, hread, hfront⟩ := List.find?_eq_some_iff_append.1 hfind
    refine .inr ⟨front, p, back, hread, ?_, by simpa using hversion, rfl⟩
    intro q hq
    simpa using hfront q hq

/-- The two parts of a query hold all that was in it, and nothing else. -/
structure TakesApart (query : Text) (q : VersionQuery) : Prop where
  /-- The parameters are those of the query that give no version, in their order. -/
  params : Form.read q.params = (Form.read query).filter (¬IsVersion ·)
  /-- The version is the first that the query gives. -/
  version : IsFirstVersion (Form.read query) q.version
  /-- The parameters may stand in a URI. -/
  chars : ∀ c ∈ q.params, c ∈ Uri.queryChars
  /-- There is nothing more to take out of the parameters, and they are not written anew again. -/
  again : split q.params = ⟨[], q.params⟩

/-- **Taking the version out of a query loses nothing else**, whatever the escapes in the query. -/
theorem takesApart_split (query : Text) : TakesApart query (split query) := by
  obtain ⟨v, ps, hps, hsplit⟩ := split_eq_write query
  constructor
  case params => exact Form.read_write _
  case version => exact isFirstVersion_split query
  case chars => exact fun c hc => mem_queryChars_write hc
  case again =>
    rw [hsplit]
    exact split_join hps []

/-- Escapes in the name of the version, a plus sign, and bytes that are no text. -/
example :
    split "a+b=%ff%26&&version%49d=1&%=&VERSIONID".toList
      = ⟨"1".toList, "a+b=%EF%BF%BD%26&%25=".toList⟩ := by
  decide +kernel

/-! ### What joining adds -/

/-- **Joining a version and taking it out are inverse.**  A version that is joined to any text is
read as one more pair behind the pairs of the text, and an empty version adds none.  Both come back
apart exactly when the text is what taking some query apart leaves: so do the version and the
parameters of every query. -/
theorem join_then_split (params v : Text) :
    (Form.read (join ⟨v, params⟩)
      = if v = [] then Form.read params else Form.read params ++ [⟨key, v⟩]) ∧
      (split (join ⟨v, params⟩) = ⟨v, params⟩ ↔ ∃ query, (split query).params = params) := by
  refine ⟨read_join params v, ?_⟩
  constructor
  · intro h
    exact ⟨join ⟨v, params⟩, by rw [h]⟩
  · rintro ⟨query, rfl⟩
    exact split_join_params query v

/-- An unfinished escape and an empty piece at the end of the text, and separators in the version. -/
example :
    Form.read (join ⟨"1+2&x=%".toList, "a=%2&".toList⟩)
      = [⟨"a".toList, "%2".toList⟩, ⟨key, "1+2&x=%".toList⟩] := by
  decide +kernel

end BucketUrl.VersionQuery
