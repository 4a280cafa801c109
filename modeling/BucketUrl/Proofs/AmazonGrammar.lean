/-
BucketUrl/Proofs/AmazonGrammar.lean

Which hosts of Amazon S3 are read, and as what.

`Spells` leaves it open where a bucket ends, since markers may stand in a bucket, and how much of
the last label is taken.  Reading leaves nothing open: it looks for the last marker and falls back
to an earlier one if no two labels follow.  So of all parts that a name spells it finds those with
the longest bucket and, behind that bucket, the longest last label (`readName_eq_some_iff`).  Only
the label in the middle is settled by the grammar itself, because a dot must follow it
(`Spells.near_eq`).

Main result: `ofHost?_eq_some_iff_longest`, a host is read exactly when its name spells any parts
and has the domain in it, and what is read are the longest of them.
-/
import BucketUrl.Proofs.AmazonHost

namespace BucketUrl.AmazonHost

open Text

variable {s t x y mark front : Text} {labels : Text × Text} {parts other : AmazonHost}

/-! ### Markers -/

theorem readMarker_append (hmark : mark ∈ markers) (t : Text) :
    readMarker (mark ++ t) = readLabels t := by
  rcases List.mem_cons.1 hmark with rfl | hmark
  · rfl
  · rw [List.mem_singleton.1 hmark]
    rfl

/-- Of two labels behind a marker the first is read as it is written, and the second with all label
characters that follow. -/
theorem readMarker_labels (hmark : mark ∈ markers) (hx : IsLabelText x) (hy : IsLabelText y)
    (rest : Text) :
    readMarker (mark ++ (x ++ '.' :: (y ++ rest))) = some (x, y ++ label rest) := by
  have hlabel : label (y ++ rest) = y ++ label rest := label_append hy.2 rest
  have hne : label (y ++ rest) ≠ [] := by
    rw [hlabel]
    exact List.append_ne_nil_of_left_ne_nil hy.1 _
  rw [readMarker_append hmark, readLabels_append_dot hx hne, hlabel]

/-- Where a marker stands behind a dot, one is found, this one or a later one. -/
theorem exists_readLastMarker (hfront : '\n' ∉ front) (hmarker : readMarker s = some labels) :
    ∃ bucket found, readLastMarker (front ++ '.' :: s) = some (bucket, found) ∧
      front.length ≤ bucket.length := by
  rw [readLastMarker_append_dot hfront hmarker]
  cases readLastMarker s with
  | none => exact ⟨front, labels, rfl, Nat.le_refl _⟩
  | some later =>
    refine ⟨front ++ '.' :: later.1, later.2, rfl, ?_⟩
    rw [List.length_append]
    exact Nat.le_add_right _ _

/-! ### Spelled parts -/

/-- The bucket can be told from its part of the name. -/
theorem bucket?_eq_of_bucketPart_eq (h : parts.bucketPart = other.bucketPart) :
    parts.bucket? = other.bucket? := by
  rw [bucketPart.eq_def, bucketPart.eq_def] at h
  cases hparts : parts.bucket? with
  | none =>
    cases hother : other.bucket? with
    | none => rfl
    | some bucket => simp [hparts, hother] at h
  | some bucket =>
    cases hother : other.bucket? with
    | none => simp [hparts, hother] at h
    | some bucket' =>
      rw [hparts, hother] at h
      exact congrArg some (List.append_cancel_right h)

namespace Spells

/-- Behind the bucket the labels are read, the second of them with all label characters that
follow. -/
theorem exists_readMarker (hs : Spells parts s) (ht : s = parts.bucketPart ++ t) :
    ∃ rest, readMarker t = some (parts.near, parts.far ++ rest) := by
  obtain ⟨mark, hmark, rest, htext⟩ := hs.text
  rw [ht, List.append_assoc] at htext
  rw [List.append_cancel_left htext]
  exact ⟨label rest, readMarker_labels hmark hs.near hs.far rest⟩

theorem labels_eq (hs : Spells parts s) (ho : Spells other s)
    (hpart : other.bucketPart = parts.bucketPart) :
    other.near = parts.near ∧ ∃ rest rest', other.far ++ rest' = parts.far ++ rest := by
  obtain ⟨t, ht⟩ := hs.exists_eq_bucketPart_append
  obtain ⟨rest, hmarker⟩ := hs.exists_readMarker ht
  rw [← hpart] at ht
  obtain ⟨rest', hmarker'⟩ := ho.exists_readMarker ht
  rw [hmarker, Option.some.injEq, Prod.mk.injEq] at hmarker'
  exact ⟨hmarker'.1.symm, rest, rest', hmarker'.2.symm⟩

/-- The bucket settles the label behind the marker. -/
theorem near_eq (hs : Spells parts s) (ho : Spells other s)
    (hpart : other.bucketPart = parts.bucketPart) : other.near = parts.near :=
  (hs.labels_eq ho hpart).1

/-- A name that spells any parts is read, and with no shorter bucket. -/
theorem exists_readName (hs : Spells parts s) :
    ∃ found, readName s = some found ∧ parts.bucketPart.length ≤ found.bucketPart.length := by
  obtain ⟨t, ht⟩ := hs.exists_eq_bucketPart_append
  obtain ⟨rest, hmarker⟩ := hs.exists_readMarker ht
  cases hbucket : parts.bucket? with
  | none =>
    have hpart : parts.bucketPart = [] := by rw [bucketPart, hbucket]
    rw [hpart, List.nil_append] at ht
    rw [hpart, ht, readName, readWithoutBucket, hmarker]
    -- a name can have a bucket even if it begins with a marker
    cases readWithBucket t with
    | none => exact ⟨_, rfl, Nat.zero_le _⟩
    | some found => exact ⟨found, rfl, Nat.zero_le _⟩
  | some bucket =>
    have hpart : parts.bucketPart = bucket ++ ['.'] := by rw [bucketPart, hbucket]
    obtain ⟨hne, hfeed⟩ := hs.bucket bucket hbucket
    obtain ⟨c, front, rfl⟩ := List.exists_cons_of_ne_nil hne
    have hc : c ≠ '\n' := fun h => hfeed (h ▸ List.mem_cons_self)
    obtain ⟨longer, labels, hlast, hle⟩ :=
      exists_readLastMarker (fun h => hfeed (List.mem_cons_of_mem c h)) hmarker
    have hs' : s = c :: (front ++ '.' :: t) := by simp [ht, hpart]
    refine ⟨⟨some (c :: longer), labels.1, labels.2⟩, ?_, ?_⟩
    · rw [hs']
      exact readName_cons hc hlast
    · rw [hpart]
      show (c :: front ++ ['.']).length ≤ (c :: longer ++ ['.']).length
      simp [hle]

end Spells

/-! ### The longest parts -/

/-- Of all parts that a text spells these are the longest: no others have a longer bucket, and none
with the same bucket have a longer last label. -/
structure IsLongest (parts : AmazonHost) (s : Text) : Prop where
  spells : Spells parts s
  bucket : ∀ other, Spells other s → other.bucketPart.length ≤ parts.bucketPart.length
  far : ∀ other, Spells other s → other.bucketPart = parts.bucketPart →
    other.far.length ≤ parts.far.length

/-- There is only one way to be the longest. -/
theorem IsLongest.eq (h : IsLongest parts s) (h' : IsLongest other s) : parts = other := by
  -- the buckets stand at the beginning of the same name and have the same length
  have hpart : other.bucketPart = parts.bucketPart := by
    obtain ⟨t, ht⟩ := h.spells.exists_eq_bucketPart_append
    obtain ⟨t', ht'⟩ := h'.spells.exists_eq_bucketPart_append
    have hlength := Nat.le_antisymm (h.bucket other h'.spells) (h'.bucket parts h.spells)
    exact (List.append_inj (ht'.symm.trans ht) hlength).1
  obtain ⟨hnear, rest, rest', hrest⟩ := h.spells.labels_eq h'.spells hpart
  have hfar : other.far = parts.far := by
    have hlength := Nat.le_antisymm (h.far other h'.spells hpart) (h'.far parts h.spells hpart.symm)
    exact (List.append_inj hrest hlength).1
  have hbucket : other.bucket? = parts.bucket? := bucket?_eq_of_bucketPart_eq hpart
  obtain ⟨_, _, _⟩ := parts
  obtain ⟨_, _, _⟩ := other
  cases hbucket
  cases hnear
  cases hfar
  rfl

theorem isLongest_of_readName (hread : readName s = some parts) : IsLongest parts s := by
  refine ⟨spells_of_readName hread, ?_, ?_⟩
  · intro other ho
    obtain ⟨found, hfound, hle⟩ := ho.exists_readName
    rw [hread] at hfound
    cases hfound
    exact hle
  · intro other ho hpart
    -- both last labels begin at the same place, and all label characters there were read
    obtain ⟨-, t, ht, hmarker⟩ := marker_of_readName hread
    rw [← hpart] at ht
    obtain ⟨rest, hmarker'⟩ := ho.exists_readMarker ht
    rw [hmarker, Option.some.injEq, Prod.mk.injEq] at hmarker'
    rw [hmarker'.2, List.length_append]
    exact Nat.le_add_right _ _

/-- A name is read as the longest parts that it spells. -/
theorem readName_eq_some_iff : readName s = some parts ↔ IsLongest parts s := by
  constructor
  · exact isLongest_of_readName
  · intro h
    obtain ⟨found, hread, -⟩ := h.spells.exists_readName
    rw [hread, (isLongest_of_readName hread).eq h]

theorem exists_readName_iff : (∃ parts, readName s = some parts) ↔ ∃ parts, Spells parts s := by
  constructor
  · rintro ⟨parts, hread⟩
    exact ⟨parts, spells_of_readName hread⟩
  · rintro ⟨parts, hs⟩
    obtain ⟨found, hread, -⟩ := hs.exists_readName
    exact ⟨found, hread⟩

/-! ### Hosts -/

theorem ofHost?_eq_some_iff {host : Text} :
    ofHost? host = some parts ↔
      domain <:+: HostPort.name host ∧ readName (HostPort.name host) = some parts := by
  rw [ofHost?, Option.ite_none_right_eq_some, occurs_eq_true_iff]

/-- **A host is read as one of Amazon S3 exactly when its name has the domain in it and spells any
parts**, and what is read are the longest parts that the name spells.  The label behind the marker
is the same for all parts with the same bucket. -/
theorem ofHost?_eq_some_iff_longest (host : Text) :
    ((∃ parts, ofHost? host = some parts) ↔
      domain <:+: HostPort.name host ∧ ∃ parts, Spells parts (HostPort.name host)) ∧
    (∀ parts, ofHost? host = some parts ↔
      domain <:+: HostPort.name host ∧ IsLongest parts (HostPort.name host)) ∧
    ∀ parts other, Spells parts (HostPort.name host) → Spells other (HostPort.name host) →
      other.bucketPart = parts.bucketPart → other.near = parts.near := by
  refine ⟨?_, ?_, fun parts other hs ho => hs.near_eq ho⟩
  · rw [← exists_readName_iff, ← exists_and_left]
    exact exists_congr fun parts => ofHost?_eq_some_iff
  · intro parts
    rw [ofHost?_eq_some_iff, readName_eq_some_iff]

/-- No second label follows the last marker of this host, so the one before it counts. -/
example : ofHost? "logs.s3.amazonaws.com.s3.x".toList
    = some ⟨some "logs".toList, "amazonaws".toList, "com".toList⟩ := by decide +kernel

end BucketUrl.AmazonHost
