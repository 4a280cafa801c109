/-
BucketUrl/Proofs/AmazonDomain.lean

Where the domain of Amazon stands in a host that is taken for one of its own.

Two tests decide: the text of the domain must occur in the name, and the name must begin with an
optional bucket, a marker and two labels.  Neither of them looks at the end of the name, so the
text may stand in the bucket, or other labels may follow it (`isLookAlike_accepted`).

Such look-alikes are the only exceptions.  Where the labels of the domain do end the name, they lie
behind bucket and marker, because no marker has room behind them (`no_marker_behind_domain`).

Main result: `behindMarker_iff_not_isLookAlike`.
-/
import BucketUrl.Proofs.AmazonReading
import BucketUrl.Recognition

namespace BucketUrl.AmazonHost

open Text

variable {s name host front label last dot mark x y z : Text} {parts : AmazonHost}

/-! ### Names in the domain -/

/-- A text behind which a label can begin: it is empty or ends in a dot. -/
def IsBoundary (s : Text) : Prop :=
  s = [] ∨ ∃ t, s = t ++ ['.']

/-- Nothing, or one more label behind a dot. -/
def IsLastLabel (last : Text) : Prop :=
  last = [] ∨ ∃ label, label ≠ [] ∧ '.' ∉ label ∧ last = '.' :: label

/-- The labels of the domain stand behind `front` and end the name, or one more label does.  A dot
at the very end does not count. -/
structure InDomain (front name : Text) : Prop where
  /-- The domain begins with a label of its own. -/
  boundary : IsBoundary front
  /-- Behind the domain comes one label at most. -/
  text : ∃ last, IsLastLabel last ∧ Rule.dropRootDot name = front ++ domain ++ last

/-- The labels of the domain end the name, and bucket and marker stand before them. -/
def BehindMarker (parts : AmazonHost) (name : Text) : Prop :=
  ∃ front, InDomain front name ∧ ∃ mark ∈ markers, parts.bucketPart ++ mark <+: front

/-- The text of the domain occurs in the name, and its labels do not end it. -/
def IsLookAlike (name : Text) : Prop :=
  domain <:+: name ∧ ∀ front, ¬InDomain front name

/-- Nothing, or a dot at the end. -/
def IsRootDot (dot : Text) : Prop :=
  dot = [] ∨ dot = ['.']

theorem exists_eq_dropRootDot_append (s : Text) :
    ∃ dot, IsRootDot dot ∧ s = Rule.dropRootDot s ++ dot := by
  rw [Rule.dropRootDot]
  split
  · next h =>
    rcases List.eq_nil_or_concat s with rfl | ⟨t, c, rfl⟩
    · cases h
    · have hc : c = '.' := by simpa using h
      exact ⟨['.'], .inr rfl, by simp [hc]⟩
  · exact ⟨[], .inl rfl, (List.append_nil s).symm⟩

/-! ### What is behind the domain -/

/-- Behind a label and a root dot nothing comes after a dot. -/
theorem eq_nil_of_label_append (hlabel : '.' ∉ label) (hdot : IsRootDot dot)
    (h : label ++ dot = x ++ '.' :: y) : y = [] := by
  rcases hdot with rfl | rfl
  · rw [List.append_nil] at h
    exact absurd (h ▸ List.mem_append_right x List.mem_cons_self) hlabel
  · rcases append_cons_cases hlabel h.symm with ⟨-, hy⟩ | ⟨middle, -, hnil⟩
    · exact hy
    · exact absurd hnil.symm (by simp)

/-- What comes behind a dot behind the domain's last label has no dot, but for a root dot. -/
theorem exists_label_of_append (hlast : IsLastLabel last) (hdot : IsRootDot dot)
    (h : "com".toList ++ last ++ dot = x ++ '.' :: y) :
    ∃ label dot', '.' ∉ label ∧ IsRootDot dot' ∧ y = label ++ dot' := by
  rcases hlast with rfl | ⟨label, -, hlabel, rfl⟩
  · rw [List.append_nil] at h
    exact ⟨[], [], List.not_mem_nil, .inl rfl, eq_nil_of_label_append (by decide) hdot h⟩
  · rw [List.append_assoc, List.cons_append] at h
    rcases append_cons_cases (by decide) h.symm with ⟨-, rfl⟩ | ⟨middle, -, h⟩
    · exact ⟨label, dot, hlabel, hdot, rfl⟩
    · exact ⟨[], [], List.not_mem_nil, .inl rfl, eq_nil_of_label_append hlabel hdot h⟩

/-- Every marker has two more characters before its sign. -/
theorem exists_eq_of_mem_markers (hmark : mark ∈ markers) : ∃ sign, mark = ['s', '3', sign] := by
  simp only [markers, List.mem_cons, List.not_mem_nil, or_false] at hmark
  rcases hmark with rfl | rfl
  · exact ⟨'.', rfl⟩
  · exact ⟨'-', rfl⟩

/-- A marker with two labels behind it finds no place behind a dot of the domain or after it. -/
theorem no_marker_behind_domain (hlast : IsLastLabel last) (hdot : IsRootDot dot)
    (hmark : mark ∈ markers) (hy : y ≠ []) :
    domain ++ last ++ dot ≠ z ++ '.' :: (mark ++ (x ++ '.' :: y)) := by
  intro h
  obtain ⟨sign, rfl⟩ := exists_eq_of_mem_markers hmark
  have hsplit : z ++ '.' :: (['s', '3', sign] ++ (x ++ '.' :: y))
      = domainLabel ++ '.' :: ("com".toList ++ last ++ dot) := h.symm
  -- the dot is the one inside the domain, or one that comes later
  rcases append_cons_cases (by decide) hsplit with ⟨-, hcom⟩ | ⟨middle, -, hlater⟩
  · exact absurd (List.head_eq_of_cons_eq hcom) (by decide)
  · obtain ⟨label, dot', hlabel, hdot', heq⟩ := exists_label_of_append hlast hdot hlater
    rw [← List.append_assoc] at heq
    exact hy (eq_nil_of_label_append hlabel hdot' heq.symm)

/-! ### The domain in hosts that are read -/

/-- A marker that stands before a dot ends before it. -/
theorem marker_prefix_of_append (hmark : mark ∈ markers)
    (h : mark ++ x = y ++ '.' :: z) : mark <+: y ++ ['.'] := by
  obtain ⟨sign, rfl⟩ := exists_eq_of_mem_markers hmark
  rcases y with _ | ⟨a, _ | ⟨b, y⟩⟩
  · exact absurd (List.head_eq_of_cons_eq h) (by decide)
  · exact absurd (List.head_eq_of_cons_eq (List.tail_eq_of_cons_eq h)) (by decide)
  · have hlong : ['s', '3', sign] <+: (a :: b :: y) ++ ['.'] ++ z := ⟨x, by simpa using h⟩
    exact List.prefix_of_prefix_length_le hlong (List.prefix_append _ _) (by simp)

theorem isBoundary_bucketPart (parts : AmazonHost) : IsBoundary parts.bucketPart := by
  rw [bucketPart]
  split
  · exact .inr ⟨_, rfl⟩
  · exact .inl rfl

theorem IsBoundary.of_append (h : IsBoundary (x ++ y)) : IsBoundary y := by
  rcases List.eq_nil_or_concat y with rfl | ⟨y, c, rfl⟩
  · exact .inl rfl
  · rcases h with h | ⟨t, h⟩
    · simp at h
    · rw [List.concat_eq_append, ← List.append_assoc] at h
      exact .inr ⟨y, by rw [List.concat_eq_append, (List.append_inj' h rfl).2]⟩

/-- Where the labels of the domain end a name that was read, they lie behind bucket and marker. -/
theorem Spells.behindMarker (hs : Spells parts name) (hdomain : InDomain front name) :
    BehindMarker parts name := by
  refine ⟨front, hdomain, ?_⟩
  obtain ⟨mark, hmark, rest, htext⟩ := hs.text
  refine ⟨mark, hmark, ?_⟩
  obtain ⟨last, hlast, hdrop⟩ := hdomain.text
  obtain ⟨dot, hdot, hname⟩ := exists_eq_dropRootDot_append name
  have hne : parts.far ++ rest ≠ [] := by simp [hs.far.1]
  have heq : front ++ (domain ++ last ++ dot)
      = parts.bucketPart ++ (mark ++ (parts.near ++ '.' :: (parts.far ++ rest))) := by
    rw [← List.append_assoc parts.bucketPart, ← htext, hname, hdrop]
    simp
  have hapart : domain ++ last ++ dot ≠ mark ++ (parts.near ++ '.' :: (parts.far ++ rest)) := by
    obtain ⟨sign, rfl⟩ := exists_eq_of_mem_markers hmark
    intro h
    exact absurd (List.head_eq_of_cons_eq h) (by decide)
  rcases List.append_eq_append_iff.1 heq with ⟨z, hz, hbehind⟩ | ⟨y, hy, hbefore⟩
  · -- the bucket would reach into the domain
    exfalso
    rcases (hz ▸ isBoundary_bucketPart parts).of_append with rfl | ⟨z, rfl⟩
    · exact hapart hbehind
    · rw [List.append_assoc z] at hbehind
      exact no_marker_behind_domain hlast hdot hmark hne hbehind
  · -- the marker ends with the label before the domain, or earlier
    rcases (hy ▸ hdomain.boundary).of_append with rfl | ⟨y, rfl⟩
    · exact absurd hbefore.symm hapart
    · rw [List.append_assoc y] at hbefore
      rw [hy, List.prefix_append_right_inj]
      exact marker_prefix_of_append hmark hbefore

/-- **Hosts of the domain.**  A host that is taken for one of Amazon has the labels of the domain at
the end of its name, behind bucket and marker, unless it is a look-alike that merely contains the
text of the domain. -/
theorem behindMarker_iff_not_isLookAlike (hhost : ofHost? host = some parts) :
    BehindMarker parts (HostPort.name host) ↔ ¬IsLookAlike (HostPort.name host) := by
  obtain ⟨hdomain, hspells⟩ := spells_of_ofHost? hhost
  constructor
  · rintro ⟨front, hfront, -⟩ ⟨-, hnone⟩
    exact hnone front hfront
  · intro hlook
    have hfront : ∃ front, InDomain front (HostPort.name host) := by
      by_contra hnone
      exact hlook ⟨hdomain, fun front hfront => hnone ⟨front, hfront⟩⟩
    obtain ⟨front, hfront⟩ := hfront
    exact hspells.behindMarker hfront

/-- A host with the domain of another country. -/
theorem behindMarker_china :
    ∃ parts, ofHost? "logs.s3.cn-north-1.amazonaws.com.cn:443".toList = some parts ∧
      BehindMarker parts (HostPort.name "logs.s3.cn-north-1.amazonaws.com.cn:443".toList) := by
  have hhost : ofHost? "logs.s3.cn-north-1.amazonaws.com.cn:443".toList
      = some ⟨some "logs".toList, "cn-north-1".toList, "amazonaws".toList⟩ := by decide +kernel
  refine ⟨_, hhost, (behindMarker_iff_not_isLookAlike hhost).2 ?_⟩
  rintro ⟨-, hnone⟩
  refine hnone "logs.s3.cn-north-1.".toList ⟨.inr ⟨"logs.s3.cn-north-1".toList, rfl⟩, ".cn".toList,
    .inr ⟨"cn".toList, by decide, by decide, rfl⟩, ?_⟩
  decide +kernel

/-! ### Look-alikes -/

/-- A name in the domain ends in its text, or does so up to the last dot. -/
theorem InDomain.domain_suffix (h : InDomain front name) :
    domain <:+ Rule.dropRootDot name ∨
      ∃ before label, cutLast? '.' (Rule.dropRootDot name) = some (before, label) ∧
        domain <:+ before := by
  obtain ⟨last, rfl | ⟨label, -, hlabel, rfl⟩, htext⟩ := h.text
  · exact .inl ⟨front, by rw [htext, List.append_nil]⟩
  · exact .inr ⟨front ++ domain, label, cutLast?_eq_some_iff.2 ⟨hlabel, htext⟩, front, rfl⟩

/-- **A look-alike that is taken for a host of Amazon**: its bucket contains the text of the domain,
and the domain it belongs to is another one. -/
theorem isLookAlike_accepted :
    (∃ parts, ofHost? "amazonaws.com.s3.evil.com".toList = some parts) ∧
      IsLookAlike (HostPort.name "amazonaws.com.s3.evil.com".toList) := by
  have hname : HostPort.name "amazonaws.com.s3.evil.com".toList
      = "amazonaws.com.s3.evil.com".toList := by decide +kernel
  have hcut : cutLast? '.' (Rule.dropRootDot "amazonaws.com.s3.evil.com".toList)
      = some ("amazonaws.com.s3.evil".toList, "com".toList) := by decide +kernel
  refine ⟨⟨⟨some "amazonaws.com".toList, "evil".toList, "com".toList⟩, by decide +kernel⟩, ?_⟩
  rw [hname]
  refine ⟨⟨[], ".s3.evil.com".toList, rfl⟩, ?_⟩
  intro front hfront
  rcases hfront.domain_suffix with h | ⟨before, label, h, hdomain⟩
  · exact absurd h (by decide +kernel)
  · rw [hcut] at h
    cases h
    exact absurd hdomain (by decide +kernel)

end BucketUrl.AmazonHost
