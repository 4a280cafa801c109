/-
BucketUrl/Proofs/AmazonHost.lean

How hosts of Amazon S3 are read.

A bucket is what stands before the last marker.  So a host that is written as a bucket, a dot and
an endpoint is read as it was written, whatever dots and markers are in the bucket, as long as no
marker is inside the endpoint (`readName_append_dot`).  In the endpoints of Amazon none is,
because a region is no label that could be taken for a marker (`readLastMarker_name`).

Main results: `AmazonEndpoint.ofHost?_name` and `AmazonEndpoint.ofHost?_bucket`, the parts of an
endpoint by itself and behind a bucket.
-/
import BucketUrl.Proofs.AmazonReading
import BucketUrl.Proofs.PlainHost

namespace BucketUrl

open Text

variable {c : Char} {s x y front host suffix : Text}

namespace AmazonHost

variable {parts : AmazonHost} {labels : Text × Text}

/-! ### Labels and markers -/

theorem dot_not_mem_labelChars : '.' ∉ labelChars := by decide

theorem label_append (hx : ∀ c ∈ x, c ∈ labelChars) (s : Text) : label (x ++ s) = x ++ label s :=
  List.takeWhile_append_of_pos fun c hc => by simpa using hx c hc

theorem label_dot_cons (s : Text) : label ('.' :: s) = [] := rfl

/-- The first label is read as it is written, and then comes the label behind its dot. -/
theorem readLabels_append_dot (hx : IsLabelText x) (hs : label s ≠ []) :
    readLabels (x ++ '.' :: s) = some (x, label s) := by
  have hdrop : (x ++ '.' :: s).dropWhile (· ∈ labelChars) = '.' :: s := by
    rw [List.dropWhile_append_of_pos fun c hc => by simpa using hx.2 c hc]
    rfl
  have hlabel : label (x ++ '.' :: s) = x := by
    rw [label_append hx.2, label_dot_cons, List.append_nil]
  rw [readLabels, hdrop]
  show (if label (x ++ '.' :: s) ≠ [] ∧ label s ≠ [] then
    some (label (x ++ '.' :: s), label s) else none) = some (x, label s)
  rw [hlabel, if_pos ⟨hx.1, hs⟩]

/-- Two labels with dots behind them are read as they are written. -/
theorem readLabels_append (hx : IsLabelText x) (hy : IsLabelText y) (s : Text) :
    readLabels (x ++ '.' :: (y ++ '.' :: s)) = some (x, y) := by
  have hlabel : label (y ++ '.' :: s) = y := by
    rw [label_append hy.2, label_dot_cons, List.append_nil]
  have hne : label (y ++ '.' :: s) ≠ [] := by
    rw [hlabel]
    exact hy.1
  rw [readLabels_append_dot hx hne, hlabel]

/-- A label that could be taken for a marker: the sign behind `s3` is a dot or a hyphen. -/
def LooksLikeMarker (x : Text) : Prop :=
  x = "s3".toList ∨ "s3-".toList <+: x

instance (x : Text) : Decidable (LooksLikeMarker x) :=
  inferInstanceAs (Decidable (_ ∨ _))

theorem readMarker_label (hx : ∀ c ∈ x, c ∈ labelChars) (hmarker : ¬LooksLikeMarker x) (s : Text) :
    readMarker (x ++ '.' :: s) = none := by
  rw [readMarker.eq_def]
  split
  · next rest heq =>
    -- the marker ends in a dot, and the first dot is the one behind the label
    rcases x with _ | ⟨a, _ | ⟨b, _ | ⟨c, x⟩⟩⟩
    · simp at heq
    · simp at heq
    · simp only [List.cons_append, List.nil_append, List.cons.injEq] at heq
      obtain ⟨rfl, rfl, -⟩ := heq
      exact absurd (.inl rfl) hmarker
    · simp only [List.cons_append, List.cons.injEq] at heq
      obtain ⟨-, -, rfl, -⟩ := heq
      exact absurd (hx '.' (by simp)) dot_not_mem_labelChars
  · next rest heq =>
    rcases x with _ | ⟨a, _ | ⟨b, _ | ⟨c, x⟩⟩⟩
    · simp at heq
    · simp at heq
    · simp at heq
    · simp only [List.cons_append, List.cons.injEq] at heq
      obtain ⟨rfl, rfl, rfl, -⟩ := heq
      exact absurd (.inr ⟨x, rfl⟩) hmarker
  · rfl

/-! ### The last marker -/

theorem readLastMarker_append_eq_none (hx : '.' ∉ x) (hs : readLastMarker s = none) :
    readLastMarker (x ++ s) = none := by
  induction x with
  | nil => exact hs
  | cons c x ih =>
    have hc : c ≠ '.' := fun h => hx (h ▸ List.mem_cons_self)
    rw [List.cons_append, readLastMarker, ih fun h => hx (List.mem_cons_of_mem c h)]
    simp [hc]

theorem readLastMarker_dot_eq_none (hs : readLastMarker s = none) (hmarker : readMarker s = none) :
    readLastMarker ('.' :: s) = none := by
  rw [readLastMarker, hs]
  simp [hmarker]

/-- A marker behind a dot is found, unless there is a later one.  All that stands before the last
one is the bucket. -/
theorem readLastMarker_append_dot (hfront : '\n' ∉ front) (hmarker : readMarker s = some labels) :
    readLastMarker (front ++ '.' :: s)
      = some (((readLastMarker s).map fun later => (front ++ '.' :: later.1, later.2)).getD
        (front, labels)) := by
  -- every character in front goes to the bucket, dots included, once a marker is found behind it
  induction front with
  | nil =>
    rw [List.nil_append, readLastMarker, if_neg (by decide)]
    cases readLastMarker s with
    | none => simp [hmarker]
    | some later => rfl
  | cons c front ih =>
    have hc : c ≠ '\n' := fun h => hfront (h ▸ List.mem_cons_self)
    rw [List.cons_append, readLastMarker, if_neg hc, ih fun h => hfront (List.mem_cons_of_mem c h)]
    cases readLastMarker s with
    | none => rfl
    | some later => rfl

/-! ### Buckets -/

theorem readWithBucket_eq_none (hlast : readLastMarker s = none) : readWithBucket s = none := by
  cases s with
  | nil => rfl
  | cons c s =>
    rw [readLastMarker] at hlast
    rw [readWithBucket]
    split
    · rfl
    · next hc =>
      rw [if_neg hc] at hlast
      cases hs : readLastMarker s with
      | none => rfl
      | some read =>
        rw [hs] at hlast
        cases hlast

theorem readName_of_marker (hmarker : readMarker s = some labels)
    (hlast : readLastMarker s = none) : readName s = some ⟨none, labels.1, labels.2⟩ := by
  rw [readName, readWithBucket_eq_none hlast, readWithoutBucket, hmarker]
  rfl

/-- Behind the first character the last marker decides. -/
theorem readName_cons {read : Text × Text × Text} (hc : c ≠ '\n')
    (hlast : readLastMarker s = some read) :
    readName (c :: s) = some ⟨some (c :: read.1), read.2.1, read.2.2⟩ := by
  rw [readName, readWithBucket, if_neg hc, hlast]
  rfl

/-- A bucket before a dot and a marker is read as it was written, if no marker comes later. -/
theorem readName_append_dot (hne : front ≠ []) (hfront : '\n' ∉ front)
    (hmarker : readMarker s = some labels) (hlast : readLastMarker s = none) :
    readName (front ++ '.' :: s) = some ⟨some front, labels.1, labels.2⟩ := by
  cases front with
  | nil => exact absurd rfl hne
  | cons c front =>
    have hc : c ≠ '\n' := fun h => hfront (h ▸ List.mem_cons_self)
    have hread := readLastMarker_append_dot (fun h => hfront (List.mem_cons_of_mem c h)) hmarker
    rw [hlast] at hread
    exact readName_cons hc hread

/-- A host of Amazon S3 that begins with a bucket begins with a bucket that has a name. -/
theorem bucket_ne_nil {bucket : Text} (hhost : ofHost? host = some parts)
    (hbucket : parts.bucket? = some bucket) : bucket ≠ [] :=
  ((spells_of_ofHost? hhost).2.bucket bucket hbucket).1

end AmazonHost

/-! ### Endpoints -/

/-- A label that can name a region in an endpoint: it is neither taken for a marker nor for the
label of the endpoints that answer under both versions of the protocol. -/
structure Region where
  /-- The label. -/
  text : Text
  ne_nil : text ≠ []
  mem_labelChars : ∀ c ∈ text, c ∈ AmazonHost.labelChars
  not_looksLikeMarker : ¬AmazonHost.LooksLikeMarker text
  ne_dualStack : text ≠ AmazonHost.dualStackLabel

/-- An endpoint of Amazon S3. -/
inductive AmazonEndpoint where
  /-- The endpoint without a region. -/
  | global
  /-- A region behind a dot. -/
  | dotted (region : Region)
  /-- A region behind a hyphen. -/
  | hyphenated (region : Region)
  /-- A region whose endpoint answers under both versions of the protocol. -/
  | dualStack (region : Region)

namespace AmazonEndpoint

/-- The name of the endpoint. -/
def name : AmazonEndpoint → Text
  | global => "s3.amazonaws.com".toList
  | dotted region => "s3.".toList ++ region.text ++ ".amazonaws.com".toList
  | hyphenated region => "s3-".toList ++ region.text ++ ".amazonaws.com".toList
  | dualStack region => "s3.dualstack.".toList ++ region.text ++ ".amazonaws.com".toList

/-- The region of the endpoint.  The label with which the domain begins counts as none. -/
def region : AmazonEndpoint → Text
  | global => []
  | dotted region | hyphenated region | dualStack region =>
    if region.text = AmazonHost.domainLabel then [] else region.text

/-- Whether the endpoint answers under both versions of the protocol. -/
def isDualStack : AmazonEndpoint → Bool
  | dualStack _ => true
  | _ => false

/-- The labels behind the marker of the endpoint. -/
def labels : AmazonEndpoint → Text × Text
  | global => (AmazonHost.domainLabel, "com".toList)
  | dotted region => (region.text, AmazonHost.domainLabel)
  | hyphenated region => (region.text, AmazonHost.domainLabel)
  | dualStack region => (AmazonHost.dualStackLabel, region.text)

variable (e : AmazonEndpoint)

theorem readMarker_name : AmazonHost.readMarker e.name = some e.labels := by
  have hdomain : AmazonHost.domainLabel ≠ [] ∧
      ∀ c ∈ AmazonHost.domainLabel, c ∈ AmazonHost.labelChars := by decide
  have hdual : AmazonHost.dualStackLabel ≠ [] ∧
      ∀ c ∈ AmazonHost.dualStackLabel, c ∈ AmazonHost.labelChars := by decide
  cases e with
  | global => rfl
  | dotted region =>
    exact AmazonHost.readLabels_append ⟨region.ne_nil, region.mem_labelChars⟩ hdomain _
  | hyphenated region =>
    exact AmazonHost.readLabels_append ⟨region.ne_nil, region.mem_labelChars⟩ hdomain _
  | dualStack region =>
    exact AmazonHost.readLabels_append hdual ⟨region.ne_nil, region.mem_labelChars⟩ _

/-- No dot in the endpoint has a marker behind it. -/
theorem readLastMarker_name : AmazonHost.readLastMarker e.name = none := by
  have htail (region : Region) :
      AmazonHost.readLastMarker (region.text ++ ".amazonaws.com".toList) = none := by
    apply AmazonHost.readLastMarker_append_eq_none
    · exact fun h => AmazonHost.dot_not_mem_labelChars (region.mem_labelChars _ h)
    · rfl
  -- behind the dot comes the region, which is not taken for a marker
  have hbehind (region : Region) :
      AmazonHost.readLastMarker ('.' :: (region.text ++ ".amazonaws.com".toList)) = none :=
    AmazonHost.readLastMarker_dot_eq_none (htail region)
      (AmazonHost.readMarker_label region.mem_labelChars region.not_looksLikeMarker _)
  cases e with
  | global => rfl
  | dotted region =>
    exact AmazonHost.readLastMarker_append_eq_none (x := "s3".toList) (by decide) (hbehind region)
  | hyphenated region =>
    exact AmazonHost.readLastMarker_append_eq_none (x := "s3-".toList) (by decide) (htail region)
  | dualStack region =>
    have hdual := AmazonHost.readLastMarker_append_eq_none (x := AmazonHost.dualStackLabel)
      (by decide) (hbehind region)
    have hdot := AmazonHost.readLastMarker_dot_eq_none hdual
      (AmazonHost.readMarker_label (by decide) (by decide) _)
    exact AmazonHost.readLastMarker_append_eq_none (x := "s3".toList) (by decide) hdot

theorem domain_suffix_name : AmazonHost.domain <:+ e.name := by
  cases e with
  | global => exact ⟨"s3.".toList, rfl⟩
  | dotted region => exact ⟨"s3.".toList ++ region.text ++ ['.'], List.append_assoc _ ['.'] _⟩
  | hyphenated region => exact ⟨"s3-".toList ++ region.text ++ ['.'], List.append_assoc _ ['.'] _⟩
  | dualStack region =>
    exact ⟨"s3.dualstack.".toList ++ region.text ++ ['.'], List.append_assoc _ ['.'] _⟩

theorem mem_chars_name (hc : c ∈ e.name) : c ∈ BucketName.chars := by
  have hdomain : ∀ c ∈ ".amazonaws.com".toList, c ∈ BucketName.chars := by decide
  have hglobal : ∀ c ∈ "s3.amazonaws.com".toList, c ∈ BucketName.chars := by decide
  have hregion (region : Region) {front : Text} (hfront : ∀ c ∈ front, c ∈ BucketName.chars)
      (hc : c ∈ front ++ region.text ++ ".amazonaws.com".toList) : c ∈ BucketName.chars := by
    rcases List.mem_append.1 hc with hc | hc
    · rcases List.mem_append.1 hc with hc | hc
      · exact hfront c hc
      · exact CharSet.mem_of_ranges (by decide) (region.mem_labelChars c hc)
    · exact hdomain c hc
  cases e with
  | global => exact hglobal c hc
  | dotted region => exact hregion region (by decide) hc
  | hyphenated region => exact hregion region (by decide) hc
  | dualStack region => exact hregion region (by decide) hc

theorem name_ne_nil : e.name ≠ [] := by
  cases e with
  | global => exact List.cons_ne_nil _ _
  | dotted region => exact List.cons_ne_nil _ _
  | hyphenated region => exact List.cons_ne_nil _ _
  | dualStack region => exact List.cons_ne_nil _ _

/-- What a host says about itself when these are its labels. -/
theorem region?_mk_labels (bucket? : Option Text) :
    (AmazonHost.mk bucket? e.labels.1 e.labels.2).region?.getD [] = e.region ∧
      (AmazonHost.mk bucket? e.labels.1 e.labels.2).isDualStack = e.isDualStack := by
  have hplain (region : Region) (far : Text) :
      (AmazonHost.mk bucket? region.text far).isDualStack = false := by
    simp [AmazonHost.isDualStack, region.ne_dualStack]
  have hgetD (r : Text) : (if r = AmazonHost.domainLabel then none else some r).getD []
      = if r = AmazonHost.domainLabel then [] else r := by
    split
    · rfl
    · rfl
  have hregion (region : Region) (far : Text) :
      (AmazonHost.mk bucket? region.text far).region?.getD []
        = if region.text = AmazonHost.domainLabel then [] else region.text := by
    rw [AmazonHost.region?, hplain]
    exact hgetD region.text
  cases e with
  | global => exact ⟨rfl, rfl⟩
  | dotted region => exact ⟨hregion region _, hplain region _⟩
  | hyphenated region => exact ⟨hregion region _, hplain region _⟩
  | dualStack region => exact ⟨hgetD region.text, rfl⟩

/-! ### Endpoints as hosts -/

theorem isPlainName_name : IsPlainName e.name :=
  isPlainName_of_mem_chars e.name_ne_nil fun _ hc => e.mem_chars_name hc

theorem lowerAscii_name : lowerAscii e.name = e.name :=
  lowerAscii_of_mem_chars fun _ hc => e.mem_chars_name hc

theorem ofHost?_of_name (hname : IsPlainName (front ++ e.name)) (hsuffix : IsPortSuffix suffix) :
    AmazonHost.ofHost? (front ++ e.name ++ suffix) = AmazonHost.readName (front ++ e.name) := by
  have hdomain : occurs AmazonHost.domain (front ++ e.name) = true :=
    occurs_eq_true_iff.2 (e.domain_suffix_name.trans (List.suffix_append _ _)).isInfix
  rw [AmazonHost.ofHost?, name_plainHost hname hsuffix, if_pos hdomain]

/-- An endpoint by itself is read without a bucket. -/
theorem ofHost?_name (hsuffix : IsPortSuffix suffix) :
    AmazonHost.ofHost? (e.name ++ suffix) = some ⟨none, e.labels.1, e.labels.2⟩ := by
  have hname : IsPlainName ([] ++ e.name) := e.isPlainName_name
  have hread := e.ofHost?_of_name hname hsuffix
  rw [List.nil_append] at hread
  rw [hread, AmazonHost.readName_of_marker e.readMarker_name e.readLastMarker_name]

/-- Behind a bucket and a dot an endpoint is read with that bucket, whatever dots and markers are
in it. -/
theorem ofHost?_bucket {bucket : Text} (hbucket : IsPlainName bucket)
    (hsuffix : IsPortSuffix suffix) :
    AmazonHost.ofHost? (bucket ++ '.' :: (e.name ++ suffix))
      = some ⟨some bucket, e.labels.1, e.labels.2⟩ := by
  -- the name is bucket, dot and endpoint; the port is not part of it
  have hassoc : bucket ++ '.' :: (e.name ++ suffix) = bucket ++ ['.'] ++ e.name ++ suffix := by
    simp
  have hname : IsPlainName (bucket ++ ['.'] ++ e.name) := by
    rw [List.append_assoc]
    exact hbucket.append_dot e.isPlainName_name
  rw [hassoc, e.ofHost?_of_name hname hsuffix, List.append_assoc]
  exact AmazonHost.readName_append_dot hbucket.1 (hbucket.not_mem (by decide)) e.readMarker_name
    e.readLastMarker_name

end AmazonEndpoint

end BucketUrl
