/-
BucketUrl/Proofs/BucketName.lean

A text that can name a bucket consists of ASCII characters and white space, so its Unicode lower
case is its ASCII lower case, and that can name a bucket too (`plausible_lowercase`).

Trimming commutes with the lower case because `blanks` holds a character exactly when it holds its
lower case.  The lower case is a bucket name itself only where trimming takes nothing away
(`Plausible.isLabel_lowerAscii_iff`).

A run of digits can name a bucket too, but four of them with dots between cannot.
-/
import BucketUrl.BucketName
import BucketUrl.Proofs.Lowercase
import Mathlib.Data.List.Basic
import Mathlib.Data.List.TakeWhile

namespace BucketUrl

open Text

variable {c : Char} {s : Text}

namespace Text

/-! ### Trimming -/

theorem toLower_mem_blanks_iff : c.toLower ∈ blanks ↔ c ∈ blanks := by
  simp only [CharSet.mem_iff, blanks, List.mem_cons, List.not_mem_nil, or_false, exists_eq_or_imp,
    exists_eq_left, toNat_toLower]
  split
  · omega
  · rfl

theorem trimLeft_lowerAscii (s : Text) : trimLeft (lowerAscii s) = lowerAscii (trimLeft s) := by
  have h : (fun c : Char => decide (c ∈ blanks)) ∘ Char.toLower = fun c => decide (c ∈ blanks) := by
    funext c
    simp [toLower_mem_blanks_iff]
  rw [trimLeft, lowerAscii, List.dropWhile_map, h]
  rfl

theorem trim_lowerAscii (s : Text) : trim (lowerAscii s) = lowerAscii (trim s) := by
  have hrev (s : Text) : (lowerAscii s).reverse = lowerAscii s.reverse := List.map_reverse.symm
  rw [trim, trimLeft_lowerAscii, hrev, trimLeft_lowerAscii, hrev]
  rfl

/-- There is nothing but white space in the text. -/
def IsBlank (s : Text) : Prop :=
  ∀ c ∈ s, c ∈ blanks

instance (s : Text) : Decidable (IsBlank s) :=
  inferInstanceAs (Decidable (∀ c ∈ s, c ∈ blanks))

theorem trimLeft_append (hs : IsBlank s) (t : Text) : trimLeft (s ++ t) = trimLeft t :=
  List.dropWhile_append_of_pos fun c hc => by simpa using hs c hc

theorem exists_eq_trimLeft (s : Text) : ∃ front, IsBlank front ∧ s = front ++ trimLeft s := by
  refine ⟨s.takeWhile (· ∈ blanks), ?_, List.takeWhile_append_dropWhile.symm⟩
  intro c hc
  simpa using List.mem_takeWhile_imp hc

/-- A text is what trimming leaves of it, in white space. -/
theorem exists_eq_trim (s : Text) :
    ∃ front back, IsBlank front ∧ IsBlank back ∧ s = front ++ trim s ++ back := by
  obtain ⟨front, hfront, hs⟩ := exists_eq_trimLeft s
  obtain ⟨back, hback, hrev⟩ := exists_eq_trimLeft (trimLeft s).reverse
  -- the white space at the end is found at the beginning of the reversed text
  have hend : trimLeft s = trim s ++ back.reverse := by
    have h := congrArg List.reverse hrev
    rw [List.reverse_reverse, List.reverse_append] at h
    exact h
  refine ⟨front, back.reverse, hfront, ?_, ?_⟩
  · intro c hc
    exact hback c (List.mem_reverse.1 hc)
  · rw [List.append_assoc, ← hend]
    exact hs

/-- White space at the end stays there, or goes too if there is nothing else. -/
theorem trimLeft_append_blank {back : Text} (hback : IsBlank back) (s : Text) :
    ∃ back', IsBlank back' ∧ trimLeft (s ++ back) = trimLeft s ++ back' := by
  rw [trimLeft, List.dropWhile_append]
  split
  · next hs =>
    have hnil : trimLeft s = [] := List.isEmpty_iff.1 hs
    have hnil' : back.dropWhile (· ∈ blanks) = [] :=
      List.dropWhile_eq_nil_iff.2 fun c hc => by simpa using hback c hc
    exact ⟨[], fun c hc => absurd hc List.not_mem_nil, by rw [hnil, hnil', List.append_nil]⟩
  · exact ⟨back, hback, rfl⟩

/-- White space around a text makes no difference to what trimming leaves. -/
theorem trim_append {front back : Text} (hfront : IsBlank front) (hback : IsBlank back)
    (s : Text) : trim (front ++ s ++ back) = trim s := by
  obtain ⟨back', hback', hend⟩ := trimLeft_append_blank hback s
  have hrev : IsBlank back'.reverse := fun c hc => hback' c (List.mem_reverse.1 hc)
  rw [trim, List.append_assoc, trimLeft_append hfront, hend, List.reverse_append,
    trimLeft_append hrev]
  rfl

/-- What trimming takes away is white space. -/
theorem mem_trim_or_blank (h : c ∈ s) : c ∈ trim s ∨ c ∈ blanks := by
  obtain ⟨front, back, hfront, hback, hs⟩ := exists_eq_trim s
  rw [hs, List.mem_append, List.mem_append] at h
  rcases h with (h | h) | h
  · exact .inr (hfront c h)
  · exact .inl h
  · exact .inr (hback c h)

/-- Trimming takes characters away and changes none. -/
theorem trim_sublist (s : Text) : (trim s).Sublist s := by
  obtain ⟨front, back, -, -, hs⟩ := exists_eq_trim s
  have hinfix : trim s <:+: s := ⟨front, back, hs.symm⟩
  exact hinfix.sublist

theorem trim_eq_self (h : ∀ c ∈ s, c ∉ blanks) : trim s = s := by
  have hleft {s : Text} (h : ∀ c ∈ s, c ∉ blanks) : trimLeft s = s := by
    cases s with
    | nil => rfl
    | cons c s =>
      rw [trimLeft, List.dropWhile_cons_of_neg]
      simpa using h c List.mem_cons_self
  rw [trim, hleft h, hleft fun c hc => h c (List.mem_reverse.1 hc), List.reverse_reverse]

end Text

/-! ### Names -/

namespace BucketName

theorem isPlain_of_toLower_mem_chars (h : c.toLower ∈ chars) : IsPlain c := by
  simp only [CharSet.mem_iff, chars, List.mem_cons, List.not_mem_nil, or_false, exists_eq_or_imp,
    exists_eq_left, toNat_toLower] at h
  left
  split at h
  · omega
  · omega

/-- A text that can name a bucket consists of ASCII characters and white space. -/
theorem Plausible.isPlain (h : Plausible s) (hc : c ∈ s) : IsPlain c := by
  obtain ⟨-, hchars, -, -⟩ := h
  rcases mem_trim_or_blank hc with hc | hc
  · exact isPlain_of_toLower_mem_chars (hchars _ (List.mem_map_of_mem hc))
  · exact .inr hc

theorem plausible_lowerAscii_iff : Plausible (lowerAscii s) ↔ Plausible s := by
  rw [Plausible, trim_lowerAscii, lowerAscii_lowerAscii, Plausible]

/-- The lower case of a text that can name a bucket can name one too. -/
theorem plausible_lowercase (h : Plausible s) : Plausible (lowercase s) := by
  rw [lowercase_eq_lowerAscii fun c hc => h.isPlain hc]
  exact plausible_lowerAscii_iff.2 h

/-- No white space is in a bucket name. -/
theorem IsLabel.not_mem_blanks (h : IsLabel s) (hc : c ∈ s) : c ∉ blanks := by
  obtain ⟨-, hchars, -, -⟩ := h
  have hchar := hchars c hc
  simp only [CharSet.mem_iff, chars, blanks, List.mem_cons, List.not_mem_nil, or_false,
    exists_eq_or_imp, exists_eq_left] at hchar ⊢
  omega

/-- Of a text that can name a bucket the lower case is a bucket name exactly when there is no white
space around it. -/
theorem Plausible.isLabel_lowerAscii_iff (h : Plausible s) :
    IsLabel (lowerAscii s) ↔ trim s = s := by
  constructor
  · intro hlabel
    have htrim : lowerAscii (trim s) = lowerAscii s := by
      rw [← trim_lowerAscii]
      exact trim_eq_self fun c hc => hlabel.not_mem_blanks hc
    -- trimming takes nothing away where the length stays
    have hlength := congrArg List.length htrim
    rw [lowerAscii, lowerAscii, List.length_map, List.length_map] at hlength
    exact (trim_sublist s).eq_of_length hlength
  · intro htrim
    rw [Plausible, htrim] at h
    exact h

theorem not_plausible_nil : ¬Plausible [] := by
  rintro ⟨-, -, ⟨c, hc, -⟩, -⟩
  simp [trim, trimLeft, lowerAscii] at hc

theorem Plausible.ne_nil (h : Plausible s) : s ≠ [] := by
  rintro rfl
  exact not_plausible_nil h

/-! ### Digits -/

theorem IsDottedQuad.exists_eq (h : IsDottedQuad s) :
    ∃ w x y z, IsDigits w ∧ IsDigits x ∧ IsDigits y ∧ IsDigits z ∧
      s = w ++ '.' :: (x ++ '.' :: (y ++ '.' :: z)) := by
  obtain ⟨hlength, hdigits⟩ := h
  have hs : ['.'].intercalate (s.splitOn '.') = s := List.intercalate_splitOn '.'
  generalize s.splitOn '.' = runs at *
  obtain ⟨w, runs, rfl⟩ := List.exists_cons_of_length_eq_add_one hlength
  obtain ⟨x, y, z, rfl⟩ := List.length_eq_three.1 (Nat.succ.inj hlength)
  refine ⟨w, x, y, z, hdigits w (by simp), hdigits x (by simp), hdigits y (by simp),
    hdigits z (by simp), ?_⟩
  rw [← hs]
  simp [List.intercalate]

theorem IsDottedQuad.mem_cases (hs : IsDottedQuad s) (hc : c ∈ s) :
    c = '.' ∨ c.isDigit = true := by
  obtain ⟨w, x, y, z, hw, hx, hy, hz, rfl⟩ := hs.exists_eq
  simp only [List.mem_append, List.mem_cons] at hc
  rcases hc with hc | rfl | hc | rfl | hc | rfl | hc
  · exact .inr (hw.2 c hc)
  · exact .inl rfl
  · exact .inr (hx.2 c hc)
  · exact .inl rfl
  · exact .inr (hy.2 c hc)
  · exact .inl rfl
  · exact .inr (hz.2 c hc)

theorem IsDottedQuad.lowerAscii_eq (hs : IsDottedQuad s) : lowerAscii s = s := by
  apply lowerAscii_eq_self
  intro c hc
  rcases hs.mem_cases hc with rfl | hc
  · exact .inl (by decide)
  · have := isDigit_iff.1 hc
    omega

/-- A run of digits can name a bucket if it is not too long. -/
theorem plausible_iff_of_isDigits (h : IsDigits s) : Plausible s ↔ s.length ≤ maxLength := by
  have hcode : ∀ c ∈ s, 0x30 ≤ c.toNat ∧ c.toNat ≤ 0x39 := fun c hc => isDigit_iff.1 (h.2 c hc)
  have htrim : trim s = s := by
    apply trim_eq_self
    intro c hc
    have := hcode c hc
    simp only [CharSet.mem_iff, blanks, List.mem_cons, List.not_mem_nil, or_false,
      exists_eq_or_imp, exists_eq_left]
    omega
  have hlower : lowerAscii s = s := by
    apply lowerAscii_eq_self
    intro c hc
    have := hcode c hc
    omega
  have hinitial : ∀ c ∈ s, c ∈ initials := fun c hc =>
    ⟨(0x30, 0x39), List.mem_cons_self, hcode c hc⟩
  rw [Plausible, htrim, hlower]
  constructor
  · exact And.left
  · intro hlength
    refine ⟨hlength, ?_, ?_, ?_⟩
    · exact fun c hc => CharSet.mem_of_ranges (by decide) (hinitial c hc)
    · obtain ⟨c, t, rfl⟩ := List.exists_cons_of_ne_nil h.1
      exact ⟨c, rfl, hinitial c List.mem_cons_self⟩
    · intro hquad
      obtain ⟨w, x, y, z, -, -, -, -, rfl⟩ := hquad.exists_eq
      exact h.not_mem (c := '.') (by decide) (by simp)

end BucketName

end BucketUrl
