/-
BucketUrl/Text/Lemmas.lean

What the operations on text do: a cut is an equation `s = before ++ sep :: after` in which one side
is free of the separator, the pieces between separators are free of them, and lower-casing goes
character by character.

The last lemma is about results of reading, whatever is read.
-/
import BucketUrl.Text.Basic

namespace BucketUrl.Text

variable {sep : Char} {s t before after : Text}

/-! ### Cutting at a separator -/

theorem cut?_eq_none_iff : cut? sep s = none ↔ sep ∉ s := by
  induction s with
  | nil => simp [cut?]
  | cons c s ih =>
    by_cases h : c = sep
    · simp [cut?, h]
    · simp [cut?, h, ih, Ne.symm h]

theorem exists_cut?_of_mem (h : sep ∈ s) : ∃ before after, cut? sep s = some (before, after) := by
  cases hcut : cut? sep s with
  | none => exact absurd h (cut?_eq_none_iff.1 hcut)
  | some parts => exact ⟨parts.1, parts.2, rfl⟩

theorem cut?_append_cons (h : sep ∉ before) (after : Text) :
    cut? sep (before ++ sep :: after) = some (before, after) := by
  induction before with
  | nil => simp [cut?]
  | cons c before ih =>
    simp only [List.mem_cons, not_or] at h
    simp [cut?, Ne.symm h.1, ih h.2]

theorem cut?_eq_some_iff :
    cut? sep s = some (before, after) ↔ sep ∉ before ∧ s = before ++ sep :: after := by
  constructor
  · intro h
    induction s generalizing before with
    | nil => simp [cut?] at h
    | cons c s ih =>
      by_cases hc : c = sep
      · simp only [cut?, hc, if_true, Option.some.injEq, Prod.mk.injEq] at h
        obtain ⟨rfl, rfl⟩ := h
        simp [hc]
      · simp only [cut?, hc, if_false, Option.map_eq_some_iff, Prod.mk.injEq, Prod.exists] at h
        obtain ⟨before', after', h', rfl, rfl⟩ := h
        obtain ⟨hmem, rfl⟩ := ih h'
        simp [hmem, Ne.symm hc]
  · rintro ⟨h, rfl⟩
    exact cut?_append_cons h after

/-- What is added behind the first separator does not move it. -/
theorem cut?_append (h : cut? sep s = some (before, after)) (t : Text) :
    cut? sep (s ++ t) = some (before, after ++ t) := by
  obtain ⟨hbefore, rfl⟩ := cut?_eq_some_iff.1 h
  rw [List.append_assoc]
  exact cut?_append_cons hbefore (after ++ t)

/-- A separator behind a part without separator is the first one, or one that comes later. -/
theorem append_cons_cases {front rest : Text} (h : sep ∉ before)
    (heq : front ++ sep :: rest = before ++ sep :: after) :
    front = before ∧ rest = after ∨
      ∃ middle, front = before ++ sep :: middle ∧ after = middle ++ sep :: rest := by
  induction before generalizing front with
  | nil =>
    cases front with
    | nil => exact .inl ⟨rfl, List.tail_eq_of_cons_eq heq⟩
    | cons d front =>
      obtain ⟨rfl, rfl⟩ := List.cons.inj heq
      exact .inr ⟨front, rfl, rfl⟩
  | cons c before ih =>
    simp only [List.mem_cons, not_or] at h
    cases front with
    | nil => exact absurd (List.head_eq_of_cons_eq heq) h.1
    | cons d front =>
      obtain ⟨rfl, htail⟩ := List.cons.inj heq
      rcases ih h.2 htail with ⟨rfl, hrest⟩ | ⟨middle, rfl, hafter⟩
      · exact .inl ⟨rfl, hrest⟩
      · exact .inr ⟨middle, rfl, hafter⟩

theorem before_append {front : Text} (h : sep ∉ front) (rest : Text) :
    Text.before sep (front ++ rest) = front ++ Text.before sep rest := by
  have hall : ∀ c ∈ front, decide (c ≠ sep) = true := by
    intro c hc
    simp only [ne_eq, decide_eq_true_eq]
    rintro rfl
    exact h hc
  rw [Text.before, List.takeWhile_append_of_pos hall]
  rfl

theorem before_eq_self (h : sep ∉ s) : Text.before sep s = s := by
  have hs := before_append h []
  rw [List.append_nil] at hs
  exact hs.trans (List.append_nil s)

theorem before_append_cons {front : Text} (h : sep ∉ front) (rest : Text) :
    Text.before sep (front ++ sep :: rest) = front := by
  rw [before_append h]
  simp [Text.before]

/-- What stands before the first separator is the first part of the cut, or all. -/
theorem before_eq_fst_cut? (sep : Char) (s : Text) :
    Text.before sep s = ((cut? sep s).getD (s, [])).1 := by
  cases hcut : cut? sep s with
  | none => exact before_eq_self (cut?_eq_none_iff.1 hcut)
  | some parts =>
    obtain ⟨hfront, rfl⟩ := cut?_eq_some_iff.1 hcut
    exact before_append_cons hfront parts.2

theorem cutLast?_eq_none_iff : cutLast? sep s = none ↔ sep ∉ s := by
  induction s with
  | nil => simp [cutLast?]
  | cons c s ih =>
    cases h : cutLast? sep s with
    | none =>
      have := ih.1 h
      by_cases hc : c = sep
      · simp [cutLast?, h, hc]
      · simp [cutLast?, h, hc, Ne.symm hc, this]
    | some p =>
      have : sep ∈ s := by
        by_cases hm : sep ∈ s
        · exact hm
        · simp [ih.2 hm] at h
      simp [cutLast?, h, this]

theorem cutLast?_append_cons (before : Text) (h : sep ∉ after) :
    cutLast? sep (before ++ sep :: after) = some (before, after) := by
  induction before with
  | nil => simp [cutLast?, cutLast?_eq_none_iff.2 h]
  | cons c before ih => simp [cutLast?, ih]

theorem cutLast?_eq_some_iff :
    cutLast? sep s = some (before, after) ↔ sep ∉ after ∧ s = before ++ sep :: after := by
  constructor
  · intro h
    induction s generalizing before with
    | nil => simp [cutLast?] at h
    | cons c s ih =>
      cases hs : cutLast? sep s with
      | none =>
        by_cases hc : c = sep
        · simp only [cutLast?, hs, hc, if_true, Option.some.injEq, Prod.mk.injEq] at h
          obtain ⟨rfl, rfl⟩ := h
          simp [hc, cutLast?_eq_none_iff.1 hs]
        · simp [cutLast?, hs, hc] at h
      | some p =>
        obtain ⟨before', after'⟩ := p
        simp only [cutLast?, hs, Option.some.injEq, Prod.mk.injEq] at h
        obtain ⟨rfl, rfl⟩ := h
        obtain ⟨hmem, rfl⟩ := ih hs
        simp [hmem]
  · rintro ⟨h, rfl⟩
    exact cutLast?_append_cons before h

/-- A text that ends in another character still ends in it behind the last separator. -/
theorem mem_of_cutLast?_concat {c : Char} (hc : c ≠ sep)
    (h : cutLast? sep (s ++ [c]) = some (before, after)) : c ∈ after := by
  obtain ⟨-, heq⟩ := cutLast?_eq_some_iff.1 h
  rcases List.eq_nil_or_concat after with rfl | ⟨front, d, rfl⟩
  · have hlast := (List.append_inj' heq rfl).2
    exact absurd (List.singleton_inj.1 hlast) hc
  · rw [List.concat_eq_append, ← List.cons_append, ← List.append_assoc] at heq
    have hlast := (List.append_inj' heq rfl).2
    simp [List.singleton_inj.1 hlast]

theorem cutLast?_append (s : Text) (ht : sep ∉ t) :
    cutLast? sep (s ++ t) = (cutLast? sep s).map fun parts => (parts.1, parts.2 ++ t) := by
  cases hcut : cutLast? sep s with
  | none =>
    have hs : sep ∉ s ++ t := by simp [cutLast?_eq_none_iff.1 hcut, ht]
    rw [cutLast?_eq_none_iff.2 hs]
    rfl
  | some parts =>
    obtain ⟨hafter, rfl⟩ := cutLast?_eq_some_iff.1 hcut
    rw [List.append_assoc, List.cons_append, cutLast?_append_cons _ (by simp [hafter, ht])]
    rfl

theorem after?_eq_some_iff {front : Text} : after? front s = some t ↔ s = front ++ t := by
  induction front generalizing s with
  | nil => simp [after?]
  | cons a front ih =>
    cases s with
    | nil => simp [after?]
    | cons c s =>
      by_cases h : a = c
      · simp [after?, h, ih]
      · simp [after?, h, Ne.symm h]

theorem occurs_eq_true_iff {part : Text} : occurs part s = true ↔ part <:+: s := by
  induction s with
  | nil => simp [occurs]
  | cons c s ih => simp [occurs, ih, List.infix_cons_iff]

/-- A part without the separator lies on one side of it. -/
theorem infix_append_cons {part : Text} (h : sep ∉ part)
    (hpart : part <:+: before ++ sep :: after) : part <:+: before ∨ part <:+: after := by
  obtain ⟨front, rest, heq⟩ := hpart
  rcases List.append_eq_append_iff.1 heq with ⟨x, rfl, -⟩ | ⟨x, hx, hrest⟩
  · exact .inl ⟨front, x, rfl⟩
  rcases List.append_eq_append_iff.1 hx with ⟨y, rfl, rfl⟩ | ⟨y, rfl, rfl⟩
  · -- the part begins before the separator, so it ends there
    cases x with
    | nil => exact .inl ⟨front, [], by simp⟩
    | cons c x =>
      obtain ⟨rfl, -⟩ := List.cons.inj hrest
      exact absurd (List.mem_append_right y List.mem_cons_self) h
  · cases y with
    | nil =>
      cases part with
      | nil => exact .inl ⟨[], before, by simp⟩
      | cons c part =>
        obtain ⟨rfl, -⟩ := List.cons.inj hrest
        exact absurd List.mem_cons_self h
    | cons c y =>
      obtain ⟨-, rfl⟩ := List.cons.inj hrest
      exact .inr ⟨y, rest, rfl⟩

/-! ### Pieces between separators -/

theorem not_mem_of_mem_splitOn {piece : Text} (h : piece ∈ s.splitOn sep) : sep ∉ piece := by
  induction s generalizing piece with
  | nil =>
    rw [List.splitOn_nil, List.mem_singleton] at h
    rw [h]
    exact List.not_mem_nil
  | cons c s ih =>
    rw [List.splitOn_cons_eq_if_modifyHead] at h
    split at h
    · rcases List.mem_cons.1 h with rfl | h
      · exact List.not_mem_nil
      · exact ih h
    · next hc =>
      cases hs : s.splitOn sep with
      | nil =>
        rw [hs] at h
        cases h
      | cons front pieces =>
        rw [hs] at h ih
        rcases List.mem_cons.1 h with rfl | h
        · have hfront := ih List.mem_cons_self
          have hc : sep ≠ c := fun he => hc (by simp [he])
          simp [hc, hfront]
        · exact ih (List.mem_cons_of_mem _ h)

/-- Texts with a separator behind each are found again exactly when they have none of their own. -/
theorem splitOn_flatMap_concat_iff {α : Type} (f : α → Text) (xs : List α) :
    (xs.flatMap fun x => f x ++ [sep]).splitOn sep = xs.map f ++ [[]] ↔ ∀ x ∈ xs, sep ∉ f x := by
  constructor
  · intro h x hx
    apply not_mem_of_mem_splitOn (s := xs.flatMap fun x => f x ++ [sep])
    rw [h]
    exact List.mem_append_left _ (List.mem_map_of_mem hx)
  · intro h
    induction xs with
    | nil => rfl
    | cons x xs ih =>
      have hxs := ih fun y hy => h y (List.mem_cons_of_mem x hy)
      rw [List.flatMap_cons, List.append_assoc, List.singleton_append,
        List.splitOn_append_cons_self_of_not_mem (h x List.mem_cons_self), hxs]
      rfl

/-- What stands in texts with separators between them stands in one of the texts. -/
theorem mem_intercalate_iff {c : Char} (hc : c ≠ sep) (ss : List Text) :
    c ∈ List.intercalate [sep] ss ↔ c ∈ ss.flatten := by
  induction ss with
  | nil => rfl
  | cons s ss ih =>
    cases ss with
    | nil => simp
    | cons t ss =>
      rw [List.intercalate_cons_cons, List.flatten_cons, List.mem_append, List.mem_append,
        List.mem_append, ih, List.mem_singleton, or_iff_left hc]

/-! ### ASCII case -/

@[simp] theorem lowerAscii_nil : lowerAscii [] = [] := rfl

@[simp] theorem lowerAscii_cons (c : Char) (s : Text) :
    lowerAscii (c :: s) = c.toLower :: lowerAscii s := rfl

@[simp] theorem lowerAscii_append (s t : Text) :
    lowerAscii (s ++ t) = lowerAscii s ++ lowerAscii t :=
  List.map_append

/-- Only the capitals of ASCII move, each by 32 code points. -/
theorem toNat_toLower (c : Char) :
    c.toLower.toNat = if 0x41 ≤ c.toNat ∧ c.toNat ≤ 0x5A then c.toNat + 32 else c.toNat := by
  have hval : c.val.toNat = c.toNat := rfl
  have hiff : c.val ≥ 'A'.val ∧ c.val ≤ 'Z'.val ↔ 0x41 ≤ c.toNat ∧ c.toNat ≤ 0x5A := by
    simp [UInt32.le_iff_toNat_le, hval]
  by_cases h : 0x41 ≤ c.toNat ∧ c.toNat ≤ 0x5A
  · delta Char.toLower
    rw [if_pos h, dif_pos (hiff.2 h)]
    show (c.val + ('a'.val - 'A'.val)).toNat = c.toNat + 32
    have hstep : ('a'.val - 'A'.val).toNat = 32 := rfl
    rw [UInt32.toNat_add, hval]
    omega
  · delta Char.toLower
    rw [if_neg h, dif_neg fun h' => h (hiff.1 h')]

@[simp] theorem toLower_toLower (c : Char) : c.toLower.toLower = c.toLower := by
  apply Char.toNat_inj.1
  rw [toNat_toLower c.toLower, toNat_toLower c]
  split
  · rw [if_neg (by omega)]
  · rfl

/-- A sign that is no letter is the lower case of itself only. -/
theorem toLower_eq_iff {c d : Char} (hd : d.toNat < 0x41 ∨ 0x5A < d.toNat ∧ d.toNat < 0x61) :
    c.toLower = d ↔ c = d := by
  rw [← Char.toNat_inj, ← Char.toNat_inj, toNat_toLower]
  split
  · omega
  · rfl

@[simp] theorem lowerAscii_lowerAscii (s : Text) : lowerAscii (lowerAscii s) = lowerAscii s := by
  simp [lowerAscii]

theorem isDigit_iff {c : Char} : c.isDigit = true ↔ 0x30 ≤ c.toNat ∧ c.toNat ≤ 0x39 := by
  have hval : c.val.toNat = c.toNat := rfl
  simp [Char.isDigit, UInt32.le_iff_toNat_le, hval]

theorem isUpper_iff {c : Char} : c.isUpper = true ↔ 0x41 ≤ c.toNat ∧ c.toNat ≤ 0x5A := by
  have hval : c.val.toNat = c.toNat := rfl
  show decide ('A'.val ≤ c.val ∧ c.val ≤ 'Z'.val) = true ↔ _
  simp [UInt32.le_iff_toNat_le, hval]

theorem isAlphanum_iff {c : Char} :
    c.isAlphanum = true ↔ (0x41 ≤ c.toNat ∧ c.toNat ≤ 0x5A) ∨ (0x61 ≤ c.toNat ∧ c.toNat ≤ 0x7A) ∨
      0x30 ≤ c.toNat ∧ c.toNat ≤ 0x39 := by
  have hval : c.val.toNat = c.toNat := rfl
  have hlower : c.isLower = true ↔ 0x61 ≤ c.toNat ∧ c.toNat ≤ 0x7A := by
    show (decide ('a'.val ≤ c.val) && decide (c.val ≤ 'z'.val)) = true ↔ _
    simp [UInt32.le_iff_toNat_le, hval]
  show ((c.isUpper || c.isLower) || c.isDigit) = true ↔ _
  rw [Bool.or_eq_true, Bool.or_eq_true, isUpper_iff, hlower, isDigit_iff, or_assoc]

theorem isUpper_eq_false_of_toLower_eq {c : Char} (hc : c.toLower = c) : c.isUpper = false := by
  rw [Bool.eq_false_iff, ne_eq, isUpper_iff]
  intro hcapital
  have hnat := congrArg Char.toNat hc
  rw [toNat_toLower, if_pos hcapital] at hnat
  omega

theorem IsDigits.not_mem {c : Char} (hs : IsDigits s) (hc : c.isDigit = false) : c ∉ s := by
  intro h
  rw [hs.2 c h] at hc
  cases hc

/-- A text without capitals is its own lower case. -/
theorem lowerAscii_eq_self (h : ∀ c ∈ s, c.toNat < 0x41 ∨ 0x5A < c.toNat) : lowerAscii s = s := by
  have hfix : ∀ c ∈ s, c.toLower = id c := by
    intro c hc
    apply Char.toNat_inj.1
    have := h c hc
    rw [toNat_toLower, if_neg (by omega)]
    rfl
  exact (List.map_congr_left hfix).trans (List.map_id s)

theorem mem_lowerAscii_iff {d : Char} (hd : d.toNat < 0x41 ∨ 0x5A < d.toNat ∧ d.toNat < 0x61) :
    d ∈ lowerAscii s ↔ d ∈ s := by
  simp [lowerAscii, toLower_eq_iff hd]

/-- Lower-casing does not move the first of a sign that is no letter. -/
theorem cut?_lowerAscii (hsep : sep.toNat < 0x41 ∨ 0x5A < sep.toNat ∧ sep.toNat < 0x61) (s : Text) :
    cut? sep (lowerAscii s)
      = (cut? sep s).map fun parts => (lowerAscii parts.1, lowerAscii parts.2) := by
  cases hcut : cut? sep s with
  | none =>
    exact cut?_eq_none_iff.2
      ((not_congr (mem_lowerAscii_iff hsep)).2 (cut?_eq_none_iff.1 hcut))
  | some parts =>
    obtain ⟨hbefore, rfl⟩ := cut?_eq_some_iff.1 hcut
    rw [lowerAscii_append, lowerAscii_cons, (toLower_eq_iff hsep).2 rfl,
      cut?_append_cons ((not_congr (mem_lowerAscii_iff hsep)).2 hbefore)]
    rfl

/-- Nor the last of one. -/
theorem cutLast?_lowerAscii (hsep : sep.toNat < 0x41 ∨ 0x5A < sep.toNat ∧ sep.toNat < 0x61)
    (s : Text) :
    cutLast? sep (lowerAscii s)
      = (cutLast? sep s).map fun parts => (lowerAscii parts.1, lowerAscii parts.2) := by
  cases hcut : cutLast? sep s with
  | none =>
    exact cutLast?_eq_none_iff.2
      ((not_congr (mem_lowerAscii_iff hsep)).2 (cutLast?_eq_none_iff.1 hcut))
  | some parts =>
    obtain ⟨hafter, rfl⟩ := cutLast?_eq_some_iff.1 hcut
    rw [lowerAscii_append, lowerAscii_cons, (toLower_eq_iff hsep).2 rfl,
      cutLast?_append_cons _ ((not_congr (mem_lowerAscii_iff hsep)).2 hafter)]
    rfl

theorem before_lowerAscii (hsep : sep.toNat < 0x41 ∨ 0x5A < sep.toNat ∧ sep.toNat < 0x61)
    (s : Text) : Text.before sep (lowerAscii s) = lowerAscii (Text.before sep s) := by
  rw [before_eq_fst_cut?, before_eq_fst_cut?, cut?_lowerAscii hsep]
  cases cut? sep s with
  | none => rfl
  | some parts => rfl

end BucketUrl.Text

namespace BucketUrl

/-! ### Results of reading -/

variable {ε α β : Type} {f : α → β} {x : Except ε α} {b : β}

theorem map_eq_ok_iff : x.map f = .ok b ↔ ∃ a, x = .ok a ∧ f a = b := by
  cases x with
  | ok a => simp [Except.map]
  | error e => simp [Except.map]

theorem map_eq_error_iff {e : ε} : x.map f = .error e ↔ x = .error e := by
  cases x with
  | ok a => simp [Except.map]
  | error e' => simp [Except.map]

end BucketUrl
