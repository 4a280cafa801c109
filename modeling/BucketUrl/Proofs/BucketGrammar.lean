/-
BucketUrl/Proofs/BucketGrammar.lean

Which texts can name a bucket, said by their form and not by the steps of the decision.

The decision trims a text and puts it in lower case before it looks at any character.  Neither step
changes the answer.  What trimming takes away is white space, and a name has none; and a letter may
stand in a name exactly when its lower case may (`isLabel_lowerAscii_iff`), where four runs of
digits have no letter at all.  Nor does it matter whether characters or bytes are counted
(`isLabel_iff_utf8Size`).

Main result: `plausible_iff_name_in_blanks`.
-/
import BucketUrl.Proofs.BucketName

namespace BucketUrl.BucketName

open Text

variable {c : Char} {s t : Text}

/-- A bucket name in capitals or small letters. -/
structure IsName (s : Text) : Prop where
  /-- It has 1 to 63 characters. -/
  length : 1 ≤ s.length ∧ s.length ≤ 63
  /-- They are ASCII letters and digits, dots and hyphens. -/
  chars : ∀ c ∈ s, c.isAlphanum = true ∨ c = '.' ∨ c = '-'
  /-- The first of them is a letter or a digit. -/
  initial : ∀ c ∈ s.head?, c.isAlphanum = true
  /-- It does not consist of four runs of digits with single dots between them. -/
  not_quad : ∀ runs : List Text, runs.length = 4 → (∀ run ∈ runs, IsDigits run) →
    s ≠ ['.'].intercalate runs

/-! ### Characters -/

theorem toLower_mem_initials_iff : c.toLower ∈ initials ↔ c.isAlphanum = true := by
  simp only [CharSet.mem_iff, initials, List.mem_cons, List.not_mem_nil, or_false, exists_eq_or_imp,
    exists_eq_left, toNat_toLower, isAlphanum_iff]
  split
  · omega
  · omega

/-- The dot and the hyphen are the characters that stand before the digits. -/
theorem toLower_mem_chars_iff_isAlphanum :
    c.toLower ∈ chars ↔ c.isAlphanum = true ∨ c = '.' ∨ c = '-' := by
  have hsign : c.toLower.toNat = 0x2D ∨ c.toLower.toNat = 0x2E ↔ c = '.' ∨ c = '-' := by
    rw [or_comm, ← toLower_eq_iff (c := c) (d := '.') (by decide),
      ← toLower_eq_iff (c := c) (d := '-') (by decide), ← Char.toNat_inj, ← Char.toNat_inj]
    rfl
  rw [← hsign, ← toLower_mem_initials_iff]
  simp only [CharSet.mem_iff, chars, initials, List.mem_cons, List.not_mem_nil, or_false,
    exists_eq_or_imp, exists_eq_left]
  omega

/-! ### Four runs of digits -/

theorem isDottedQuad_iff :
    IsDottedQuad s ↔ ∃ runs : List Text, runs.length = 4 ∧ (∀ run ∈ runs, IsDigits run) ∧
      s = ['.'].intercalate runs := by
  constructor
  · rintro ⟨hlength, hdigits⟩
    exact ⟨s.splitOn '.', hlength, hdigits, (List.intercalate_splitOn '.').symm⟩
  · rintro ⟨runs, hlength, hdigits, rfl⟩
    have hdot : ∀ run ∈ runs, '.' ∉ run := fun run hrun => (hdigits run hrun).not_mem (by decide)
    have hne : runs ≠ [] := by
      rintro rfl
      cases hlength
    rw [IsDottedQuad, List.splitOn_intercalate '.' hdot hne]
    exact ⟨hlength, hdigits⟩

/-- A text whose lower case has digits and dots only has no capitals. -/
theorem isDottedQuad_lowerAscii_iff : IsDottedQuad (lowerAscii s) ↔ IsDottedQuad s := by
  constructor
  · intro h
    have hs : lowerAscii s = s := by
      apply lowerAscii_eq_self
      intro c hc
      have hcode : c.toLower.toNat ≤ 0x39 := by
        rcases h.mem_cases (List.mem_map_of_mem hc) with hdot | hdigit
        · rw [hdot]
          decide
        · exact (isDigit_iff.1 hdigit).2
      rw [toNat_toLower] at hcode
      split at hcode
      · omega
      · omega
    rw [hs] at h
    exact h
  · intro h
    rw [h.lowerAscii_eq]
    exact h

/-! ### Names -/

/-- The lower case of a text is a bucket name exactly when the text has the form of one. -/
theorem isLabel_lowerAscii_iff : IsLabel (lowerAscii s) ↔ IsName s := by
  have hlength : (lowerAscii s).length = s.length := List.length_map _
  have hchars : (∀ c ∈ lowerAscii s, c ∈ chars) ↔
      ∀ c ∈ s, c.isAlphanum = true ∨ c = '.' ∨ c = '-' := by
    rw [lowerAscii, List.forall_mem_map]
    exact forall₂_congr fun c _ => toLower_mem_chars_iff_isAlphanum
  have hhead : (lowerAscii s).head? = s.head?.map Char.toLower := List.head?_map
  constructor
  · rintro ⟨hlong, hall, ⟨d, hd, hinitial⟩, hquad⟩
    rw [hhead] at hd
    obtain ⟨c, hc, rfl⟩ := Option.map_eq_some_iff.1 hd
    rw [hlength] at hlong
    refine ⟨⟨List.length_pos_of_mem (List.mem_of_head? hc), hlong⟩, hchars.1 hall, ?_, ?_⟩
    · intro c' hc'
      rw [Option.mem_def, hc] at hc'
      cases hc'
      exact toLower_mem_initials_iff.1 hinitial
    · intro runs hruns hdigits hs
      exact hquad (isDottedQuad_lowerAscii_iff.2 (isDottedQuad_iff.2 ⟨runs, hruns, hdigits, hs⟩))
  · intro h
    obtain ⟨c, rest, rfl⟩ := List.exists_cons_of_length_pos h.length.1
    refine ⟨?_, hchars.2 h.chars, ⟨c.toLower, rfl, ?_⟩, ?_⟩
    · rw [hlength]
      exact h.length.2
    · exact toLower_mem_initials_iff.2 (h.initial c rfl)
    · intro hquad
      obtain ⟨runs, hruns, hdigits, hs⟩ := isDottedQuad_iff.1 (isDottedQuad_lowerAscii_iff.1 hquad)
      exact h.not_quad runs hruns hdigits hs

/-- All characters of a name take one byte. -/
theorem utf8Size_of_mem_chars (hs : ∀ c ∈ s, c ∈ chars) : utf8Size s = s.length := by
  induction s with
  | nil => rfl
  | cons c s ih =>
    have hc : c.utf8Size = 1 := by
      have hmem := hs c List.mem_cons_self
      simp only [CharSet.mem_iff, chars, List.mem_cons, List.not_mem_nil, or_false,
        exists_eq_or_imp, exists_eq_left] at hmem
      rw [Char.utf8Size_eq_one_iff, UInt32.le_iff_toNat_le]
      show c.toNat ≤ 127
      omega
    rw [utf8Size, hc, ih fun d hd => hs d (List.mem_cons_of_mem c hd), List.length_cons,
      Nat.add_comm]

/-- It makes no difference whether the limit counts characters or bytes: a text with more bytes than
characters is no name anyway. -/
theorem isLabel_iff_utf8Size :
    IsLabel s ↔ utf8Size s ≤ maxLength ∧ (∀ c ∈ s, c ∈ chars) ∧ (∃ c ∈ s.head?, c ∈ initials) ∧
      ¬IsDottedQuad s := by
  rw [IsLabel]
  constructor
  · rintro ⟨hlong, hall, hrest⟩
    rw [utf8Size_of_mem_chars hall]
    exact ⟨hlong, hall, hrest⟩
  · rintro ⟨hlong, hall, hrest⟩
    rw [utf8Size_of_mem_chars hall] at hlong
    exact ⟨hlong, hall, hrest⟩

/-- No white space is in a text of this form. -/
theorem IsName.trim_eq (h : IsName s) : trim s = s := by
  apply trim_eq_self
  intro c hc hblank
  have hlower : c.toLower ∈ lowerAscii s := List.mem_map_of_mem hc
  exact (isLabel_lowerAscii_iff.2 h).not_mem_blanks hlower (toLower_mem_blanks_iff.2 hblank)

/-! ### What does not count -/

theorem plausible_append_iff {front back : Text} (hfront : IsBlank front) (hback : IsBlank back) :
    Plausible (front ++ s ++ back) ↔ Plausible s := by
  rw [Plausible, trim_append hfront hback, Plausible]

theorem plausible_iff_of_alike (h : Alike s t) : Plausible s ↔ Plausible t := by
  rw [← plausible_lowerAscii_iff, h, plausible_lowerAscii_iff]

/-- **A text can name a bucket exactly when it is a name in white space**, the name in capitals or
small letters.  So neither the case of its ASCII letters nor white space around it makes a
difference. -/
theorem plausible_iff_name_in_blanks (s : Text) :
    (Plausible s ↔ ∃ front name back, IsBlank front ∧ IsName name ∧ IsBlank back ∧
      s = front ++ name ++ back) ∧
      (∀ t, Alike s t → (Plausible s ↔ Plausible t)) ∧
        ∀ front back, IsBlank front → IsBlank back →
          (Plausible (front ++ s ++ back) ↔ Plausible s) := by
  refine ⟨?_, fun _ h => plausible_iff_of_alike h,
    fun _ _ hfront hback => plausible_append_iff hfront hback⟩
  constructor
  · intro h
    obtain ⟨front, back, hfront, hback, hs⟩ := exists_eq_trim s
    exact ⟨front, trim s, back, hfront, isLabel_lowerAscii_iff.1 h, hback, hs⟩
  · rintro ⟨front, name, back, hfront, hname, hback, rfl⟩
    rw [plausible_append_iff hfront hback, Plausible, hname.trim_eq]
    exact isLabel_lowerAscii_iff.2 hname

/-- Capitals and small letters change places, and white space outside of ASCII stands around. -/
theorem plausible_myLogs :
    Alike "My.Logs".toList "mY.lOGS".toList ∧ IsBlank "\u3000".toList ∧ IsBlank "\n ".toList ∧
      Plausible "mY.lOGS".toList ∧
        Plausible ("\u3000".toList ++ "My.Logs".toList ++ "\n ".toList) := by
  have halike : Alike "My.Logs".toList "mY.lOGS".toList := by decide +kernel
  have hfront : IsBlank "\u3000".toList := by decide +kernel
  have hback : IsBlank "\n ".toList := by decide +kernel
  have hname : IsName "My.Logs".toList := isLabel_lowerAscii_iff.1 (by decide +kernel)
  obtain ⟨hiff, hcase, hpadding⟩ := plausible_iff_name_in_blanks "My.Logs".toList
  have hplausible : Plausible "My.Logs".toList :=
    hiff.2 ⟨[], _, [], by decide, hname, by decide, by rw [List.nil_append, List.append_nil]⟩
  exact ⟨halike, hfront, hback, (hcase _ halike).1 hplausible,
    (hpadding _ _ hfront hback).2 hplausible⟩

/-- Only four runs of digits are a quad, and none of them is empty. -/
example : ¬Plausible "1.2.3.4".toList ∧ Plausible "1.2.3".toList ∧ Plausible "1.2.3.4.5".toList ∧
    Plausible "1..3.4".toList := by decide +kernel

end BucketUrl.BucketName
