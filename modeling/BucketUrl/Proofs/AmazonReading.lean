/-
BucketUrl/Proofs/AmazonReading.lean

What a reading of an Amazon host says about the text that was read.

`Spells` is the grammar: a bucket with its dot, or neither, then a marker and two labels, and then
anything.  Whatever is read spells its parts (`spells_of_readName`), so the bucket stands at the
beginning of the name, and the labels consist of label characters.
-/
import BucketUrl.AmazonHost
import BucketUrl.Proofs.HostName
import Mathlib.Data.List.TakeWhile

namespace BucketUrl.AmazonHost

open Text

variable {c : Char} {s bucket host : Text} {labels : Text × Text} {parts : AmazonHost}

/-- The two spellings of the marker. -/
def markers : List Text :=
  ["s3.".toList, "s3-".toList]

/-- A text that is not empty and consists of label characters. -/
def IsLabelText (s : Text) : Prop :=
  s ≠ [] ∧ ∀ c ∈ s, c ∈ labelChars

/-- A text spells the parts of a host: a bucket with its dot, or neither, then a marker, two labels
with a dot between them, and anything. -/
structure Spells (parts : AmazonHost) (s : Text) : Prop where
  /-- A bucket has at least one character and no line feed. -/
  bucket : ∀ bucket, parts.bucket? = some bucket → bucket ≠ [] ∧ '\n' ∉ bucket
  /-- The label behind the marker. -/
  near : IsLabelText parts.near
  /-- The label after that. -/
  far : IsLabelText parts.far
  /-- The parts stand one behind the other. -/
  text : ∃ mark ∈ markers, ∃ rest,
    s = parts.bucketPart ++ mark ++ (parts.near ++ '.' :: (parts.far ++ rest))

/-! ### Labels and markers -/

theorem mem_labelChars_label (hc : c ∈ label s) : c ∈ labelChars := by
  simpa using List.mem_takeWhile_imp hc

theorem exists_eq_label_append (s : Text) : ∃ rest, s = label s ++ rest :=
  ⟨s.dropWhile (· ∈ labelChars), List.takeWhile_append_dropWhile.symm⟩

theorem readLabels_eq_some (hread : readLabels s = some labels) :
    IsLabelText labels.1 ∧ IsLabelText labels.2 ∧
      ∃ rest, s = labels.1 ++ '.' :: (labels.2 ++ rest) := by
  rw [readLabels] at hread
  split at hread
  · next rest hdrop =>
    split at hread
    · next hne =>
      cases hread
      obtain ⟨rest', hrest⟩ := exists_eq_label_append rest
      refine ⟨⟨hne.1, fun c hc => mem_labelChars_label hc⟩,
        ⟨hne.2, fun c hc => mem_labelChars_label hc⟩, rest', ?_⟩
      show s = label s ++ '.' :: (label rest ++ rest')
      rw [← hrest, ← hdrop]
      exact List.takeWhile_append_dropWhile.symm
    · cases hread
  · cases hread

theorem readMarker_eq_some (hread : readMarker s = some labels) :
    ∃ mark ∈ markers, ∃ t, s = mark ++ t ∧ readLabels t = some labels := by
  rw [readMarker.eq_def] at hread
  split at hread
  · next t => exact ⟨_, List.mem_cons_self, t, rfl, hread⟩
  · next t => exact ⟨_, List.mem_cons_of_mem _ List.mem_cons_self, t, rfl, hread⟩
  · cases hread

/-- The last marker has a dot before it, and what stands before the dot is the bucket. -/
theorem readLastMarker_eq_some (hread : readLastMarker s = some (bucket, labels)) :
    '\n' ∉ bucket ∧ ∃ t, s = bucket ++ '.' :: t ∧ readMarker t = some labels := by
  -- the first character goes to the bucket, or it is the dot itself
  induction s generalizing bucket with
  | nil => cases hread
  | cons c s ih =>
    rw [readLastMarker] at hread
    split at hread
    · cases hread
    · next hfeed =>
      split at hread
      · next later hlater =>
        cases hread
        obtain ⟨hbucket, t, rfl, hmarker⟩ := ih hlater
        refine ⟨?_, t, rfl, hmarker⟩
        simp [hbucket, Ne.symm hfeed]
      · split at hread
        · next hdot =>
          obtain ⟨found, hmarker, heq⟩ := Option.map_eq_some_iff.1 hread
          cases heq
          exact ⟨List.not_mem_nil, s, by rw [hdot, List.nil_append], hmarker⟩
        · cases hread

/-! ### Whole hosts -/

/-- What is read is a bucket with its dot, or neither, and the marker that was read behind it. -/
theorem marker_of_readName (hread : readName s = some parts) :
    (∀ bucket, parts.bucket? = some bucket → bucket ≠ [] ∧ '\n' ∉ bucket) ∧
      ∃ t, s = parts.bucketPart ++ t ∧ readMarker t = some (parts.near, parts.far) := by
  rw [readName, Option.or_eq_some_iff] at hread
  rcases hread with hread | ⟨-, hread⟩
  · rw [readWithBucket.eq_def] at hread
    split at hread
    · cases hread
    · next c s =>
      split at hread
      · cases hread
      · next hfeed =>
        obtain ⟨⟨bucket, labels⟩, hlast, rfl⟩ := Option.map_eq_some_iff.1 hread
        obtain ⟨hbucket, t, rfl, hmarker⟩ := readLastMarker_eq_some hlast
        refine ⟨?_, t, by simp [bucketPart], hmarker⟩
        rintro _ ⟨⟩
        exact ⟨List.cons_ne_nil _ _, by simp [hbucket, Ne.symm hfeed]⟩
  · obtain ⟨labels, hmarker, rfl⟩ := Option.map_eq_some_iff.1 hread
    refine ⟨?_, s, rfl, hmarker⟩
    rintro _ ⟨⟩

/-- Whatever is read spells its parts. -/
theorem spells_of_readName (hread : readName s = some parts) : Spells parts s := by
  obtain ⟨hbucket, t, rfl, hmarker⟩ := marker_of_readName hread
  obtain ⟨mark, hmark, t, rfl, hlabels⟩ := readMarker_eq_some hmarker
  obtain ⟨hnear, hfar, rest, rfl⟩ := readLabels_eq_some hlabels
  exact ⟨hbucket, hnear, hfar, mark, hmark, rest, (List.append_assoc _ _ _).symm⟩

/-- A host of Amazon S3 has the domain somewhere in its name, and the name spells its parts. -/
theorem spells_of_ofHost? (hhost : ofHost? host = some parts) :
    domain <:+: HostPort.name host ∧ Spells parts (HostPort.name host) := by
  rw [ofHost?] at hhost
  split at hhost
  · next hdomain => exact ⟨occurs_eq_true_iff.1 hdomain, spells_of_readName hhost⟩
  · cases hhost

theorem Spells.exists_eq_bucketPart_append (hs : Spells parts s) :
    ∃ t, s = parts.bucketPart ++ t := by
  obtain ⟨mark, -, rest, htext⟩ := hs.text
  exact ⟨_, htext.trans (List.append_assoc _ _ _)⟩

/-- What is read as a bucket stands at the beginning of the name, with a dot behind it. -/
theorem Spells.exists_eq_bucket_append (hs : Spells parts s)
    (hbucket : parts.bucket? = some bucket) : ∃ t, s = bucket ++ '.' :: t := by
  obtain ⟨t, rfl⟩ := hs.exists_eq_bucketPart_append
  exact ⟨t, by simp [bucketPart, hbucket]⟩

/-- The region consists of label characters and is not the beginning of the domain. -/
theorem Spells.region (hs : Spells parts s) :
    (∀ c ∈ parts.region?.getD [], c ∈ labelChars) ∧ parts.region?.getD [] ≠ domainLabel := by
  have hlabel : IsLabelText (if parts.isDualStack then parts.far else parts.near) := by
    split
    · exact hs.far
    · exact hs.near
  rw [region?]
  generalize (if parts.isDualStack then parts.far else parts.near) = region at *
  split
  · exact ⟨fun c hc => absurd hc List.not_mem_nil, by decide⟩
  · next hdomain => exact ⟨hlabel.2, hdomain⟩

end BucketUrl.AmazonHost
