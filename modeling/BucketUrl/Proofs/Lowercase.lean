/-
BucketUrl/Proofs/Lowercase.lean

What the Unicode lower case of a text keeps and what it changes.

A character is *settled* when lower-casing leaves it, wherever it stands.  The table of capitals
has no chains: the lower case of a character is never a capital again, since the images of one run
lie apart from every run or fall into its gaps (`avoids_of_mem`).  So all that `lowercase` writes
is settled, and a second pass changes nothing.

Main results: `lowercase` is idempotent (`lowercase_lowercase`), keeps nonempty texts nonempty
(`lowercase_eq_nil_iff`), brings in no slash (`slash_not_mem_lowercase`), and is the ASCII lower
case on texts of ASCII characters and white space (`lowercase_eq_lowerAscii`).
-/
import BucketUrl.Text.Blank
import BucketUrl.Text.Lemmas
import BucketUrl.Text.Lowercase

namespace BucketUrl.Text

variable {c d : Char} {s : Text} {r t : CapitalRun}

/-! ### The table of capitals -/

/-- No image of a capital of `r` is a capital of `t`: it lies before or behind them, or both runs
go in steps of two and never meet. -/
def CapitalRun.avoids (r t : CapitalRun) : Bool :=
  Nat.blt t.last r.image || Nat.blt (r.image + (r.last - r.first)) t.first ||
    ((Nat.beq r.first r.last || Nat.beq r.step 2) && Nat.beq t.step 2 &&
      Nat.beq ((r.image + t.first) % 2) 1)

theorem avoids_of_mem (hr : r ∈ capitals) (ht : t ∈ capitals) : r.avoids t = true := by
  have h : (capitals.all fun r => capitals.all r.avoids) = true := by decide +kernel
  exact List.all_eq_true.1 (List.all_eq_true.1 h r hr) t ht

/-- The images of a run lie above all signs of ASCII, apart from `İ`, and apart from the
surrogates. -/
theorem image_bounds : ∀ r ∈ capitals,
    0x61 ≤ r.image ∧ (r.image + (r.last - r.first) < 0x130 ∨ 0x130 < r.image) ∧
      (r.image + (r.last - r.first) < 0xD800 ∨
        0xDFFF < r.image ∧ r.image + (r.last - r.first) < 0x110000) := by
  decide +kernel

/-- Among the characters below `À`, the first run alone has capitals. -/
theorem first_of_mem : ∀ r ∈ capitals, r = ⟨0x41, 0x5A, 1, 0x61⟩ ∨ 0xC0 ≤ r.first := by
  decide +kernel

theorem blank_avoids_capitals : ∀ b ∈ blanks.ranges, ∀ r ∈ capitals,
    b.2 < r.first ∨ r.last < b.1 := by
  decide +kernel

/-- An image of a covered code point is covered by no run. -/
theorem not_covers_image {n : Nat} (hr : r ∈ capitals) (hn : r.Covers n) (ht : t ∈ capitals) :
    ¬t.Covers (r.image + (n - r.first)) := by
  have h := avoids_of_mem hr ht
  obtain ⟨h1, h2, h3⟩ := hn
  rintro ⟨h4, h5, h6⟩
  simp only [CapitalRun.avoids, Bool.or_eq_true, Bool.and_eq_true, Nat.blt_eq, Nat.beq_eq] at h
  rcases h with (h | h) | ⟨⟨h | h, ht2⟩, hp⟩
  -- the images lie behind all of `t`, or before
  · omega
  · omega
  -- or between its members: a single image, or images in steps of two
  · rw [ht2] at h6
    omega
  · rw [h] at h3
    rw [ht2] at h6
    omega

/-! ### Settled characters -/

/-- A character is settled when lower-casing leaves it, wherever it stands. -/
def IsSettled (c : Char) : Prop :=
  c ≠ 'Σ' ∧ lowerChar c = [c]

theorem lowerChar_of_covers (hc : c ≠ 'İ') (h : ∃ r ∈ capitals, r.Covers c.toNat) :
    ∃ r ∈ capitals, r.Covers c.toNat ∧
      lowerChar c = [Char.ofNat (r.image + (c.toNat - r.first))] := by
  obtain ⟨t, ht, htc⟩ := h
  rcases hf : capitals.find? (·.Covers c.toNat) with - | r
  · have := List.find?_eq_none.1 hf t ht
    simp [htc] at this
  · refine ⟨r, List.mem_of_find?_eq_some hf, by simpa using List.find?_some hf, ?_⟩
    simp [lowerChar, hc, hf]

theorem isSettled_of_not_covers (hc : c ≠ 'İ') (h : ∀ r ∈ capitals, ¬r.Covers c.toNat) :
    IsSettled c := by
  constructor
  · rintro rfl
    exact h ⟨0x3A3, 0x3AB, 1, 0x3C3⟩ (by decide) (by decide)
  · have hf : capitals.find? (·.Covers c.toNat) = none :=
      List.find?_eq_none.2 fun r hr => by simpa using h r hr
    simp [lowerChar, hc, hf]

theorem toNat_ofNat_image (hr : r ∈ capitals) (hc : r.Covers c.toNat) :
    (Char.ofNat (r.image + (c.toNat - r.first))).toNat = r.image + (c.toNat - r.first) := by
  obtain ⟨-, -, hb⟩ := image_bounds r hr
  obtain ⟨h1, h2, -⟩ := hc
  have hv : (r.image + (c.toNat - r.first)).isValidChar := by
    simp only [Nat.isValidChar]
    omega
  rw [Char.ofNat, dif_pos hv]
  rfl

/-- What `lowerChar` writes is one of the two signs that `İ` falls into, the image of a capital, or
the character itself. -/
theorem mem_lowerChar_cases (h : d ∈ lowerChar c) :
    (d = 'i' ∨ d = '\u0307') ∨
      (∃ r ∈ capitals, r.Covers c.toNat ∧ d.toNat = r.image + (c.toNat - r.first)) ∨
        d = c ∧ IsSettled c := by
  by_cases hc : c = 'İ'
  · subst hc
    exact .inl (by simpa [lowerChar] using h)
  by_cases hcov : ∃ r ∈ capitals, r.Covers c.toNat
  · obtain ⟨r, hr, hrc, heq⟩ := lowerChar_of_covers hc hcov
    rw [heq, List.mem_singleton] at h
    exact .inr (.inl ⟨r, hr, hrc, by rw [h, toNat_ofNat_image hr hrc]⟩)
  · have hs := isSettled_of_not_covers hc fun r hr hrc => hcov ⟨r, hr, hrc⟩
    rw [hs.2, List.mem_singleton] at h
    exact .inr (.inr ⟨h, hs⟩)

/-- What `lowerChar` writes is settled. -/
theorem isSettled_of_mem_lowerChar (h : d ∈ lowerChar c) : IsSettled d := by
  rcases mem_lowerChar_cases h with (rfl | rfl) | ⟨r, hr, hrc, hd⟩ | ⟨rfl, hs⟩
  · exact isSettled_of_not_covers (by decide) (by decide +kernel)
  · exact isSettled_of_not_covers (by decide) (by decide +kernel)
  · apply isSettled_of_not_covers
    · rintro rfl
      obtain ⟨-, hb, -⟩ := image_bounds r hr
      have h0 : 'İ'.toNat = 0x130 := rfl
      obtain ⟨h1, h2, -⟩ := hrc
      omega
    · intro t ht
      rw [hd]
      exact not_covers_image hr hrc ht
  · exact hs

theorem isSettled_small_sigma : IsSettled 'σ' ∧ IsSettled 'ς' :=
  ⟨isSettled_of_not_covers (by decide) (by decide +kernel),
    isSettled_of_not_covers (by decide) (by decide +kernel)⟩

theorem lowerChar_ne_nil (c : Char) : lowerChar c ≠ [] := by
  rw [lowerChar]
  split
  · simp
  · split <;> simp

/-! ### Whole texts -/

/-- A character of the lower case of a text stands for a sigma or for one of its characters. -/
theorem mem_lowercase_go {back : Text} (h : d ∈ lowercase.go back s) :
    d = 'σ' ∨ d = 'ς' ∨ ∃ c ∈ s, d ∈ lowerChar c := by
  induction s generalizing back with
  | nil => simp [lowercase.go] at h
  | cons c s ih =>
    have tail (h : d ∈ lowercase.go (c :: back) s) :
        d = 'σ' ∨ d = 'ς' ∨ ∃ c' ∈ c :: s, d ∈ lowerChar c' := by
      rcases ih h with h | h | ⟨c', hc', h⟩
      · exact .inl h
      · exact .inr (.inl h)
      · exact .inr (.inr ⟨c', List.mem_cons_of_mem _ hc', h⟩)
    rw [lowercase.go] at h
    split at h
    · rcases List.mem_cons.1 h with h | h
      · split at h
        · exact .inr (.inl h)
        · exact .inl h
      · exact tail h
    · rcases List.mem_append.1 h with h | h
      · exact .inr (.inr ⟨c, List.mem_cons_self, h⟩)
      · exact tail h

theorem lowercase_go_of_isSettled {back : Text} (h : ∀ c ∈ s, IsSettled c) :
    lowercase.go back s = s := by
  -- what stands before matters to a capital sigma only, and that is not settled
  induction s generalizing back with
  | nil => rfl
  | cons c s ih =>
    obtain ⟨hne, hc⟩ := h c List.mem_cons_self
    rw [lowercase.go, if_neg hne, hc, ih fun d hd => h d (List.mem_cons_of_mem _ hd)]
    rfl

theorem isSettled_of_mem_lowercase (h : d ∈ lowercase s) : IsSettled d := by
  rcases mem_lowercase_go h with rfl | rfl | ⟨c, -, h⟩
  · exact isSettled_small_sigma.1
  · exact isSettled_small_sigma.2
  · exact isSettled_of_mem_lowerChar h

/-- A second pass changes nothing. -/
theorem lowercase_lowercase (s : Text) : lowercase (lowercase s) = lowercase s :=
  lowercase_go_of_isSettled fun _ h => isSettled_of_mem_lowercase h

theorem lowercase_eq_nil_iff : lowercase s = [] ↔ s = [] := by
  cases s with
  | nil => simp [lowercase, lowercase.go]
  | cons c s =>
    rw [lowercase, lowercase.go]
    split <;> simp [lowerChar_ne_nil]

theorem slash_mem_lowerChar (h : '/' ∈ lowerChar c) : c = '/' := by
  rcases mem_lowerChar_cases h with (hd | hd) | ⟨r, hr, -, hd⟩ | ⟨hd, -⟩
  · exact absurd hd (by decide)
  · exact absurd hd (by decide)
  · -- all images lie above the slash
    obtain ⟨hlow, -⟩ := image_bounds r hr
    have h0 : '/'.toNat = 0x2F := rfl
    omega
  · exact hd.symm

/-- No slash comes in. -/
theorem slash_not_mem_lowercase (h : '/' ∉ s) : '/' ∉ lowercase s := by
  intro hl
  rcases mem_lowercase_go hl with hl | hl | ⟨c, hc, hl⟩
  · exact absurd hl (by decide)
  · exact absurd hl (by decide)
  · exact h (slash_mem_lowerChar hl ▸ hc)

/-! ### ASCII and white space -/

/-- A character of ASCII or a white space. -/
def IsPlain (c : Char) : Prop :=
  c.toNat < 0x80 ∨ c ∈ blanks

theorem not_covers_of_isPlain (h : IsPlain c) (hr : r ∈ capitals) :
    r.Covers c.toNat ↔ r = ⟨0x41, 0x5A, 1, 0x61⟩ ∧ 0x41 ≤ c.toNat ∧ c.toNat ≤ 0x5A := by
  constructor
  · rintro ⟨h1, h2, -⟩
    rcases first_of_mem r hr with rfl | hfirst
    · exact ⟨rfl, h1, h2⟩
    · rcases h with h | ⟨b, hb, hlo, hhi⟩
      · omega
      · have := blank_avoids_capitals b hb r hr
        omega
  · rintro ⟨rfl, h1, h2⟩
    exact ⟨h1, h2, Nat.mod_one _⟩

/-- The lower case of a plain character is its lower case in ASCII. -/
theorem lowerChar_of_isPlain (h : IsPlain c) : c ≠ 'Σ' ∧ lowerChar c = [c.toLower] := by
  have hsigma : c ≠ 'Σ' := by
    rintro rfl
    rcases h with h | h
    · exact absurd h (by decide)
    · exact absurd h (by decide)
  have hdot : c ≠ 'İ' := by
    rintro rfl
    rcases h with h | h
    · exact absurd h (by decide)
    · exact absurd h (by decide)
  refine ⟨hsigma, ?_⟩
  -- a capital of ASCII is covered by the first run alone, and nothing else is covered at all
  by_cases hc : 0x41 ≤ c.toNat ∧ c.toNat ≤ 0x5A
  · have hmem : (⟨0x41, 0x5A, 1, 0x61⟩ : CapitalRun) ∈ capitals := List.mem_cons_self
    obtain ⟨r, hr, hrc, heq⟩ :=
      lowerChar_of_covers hdot ⟨_, hmem, (not_covers_of_isPlain h hmem).2 ⟨rfl, hc⟩⟩
    obtain ⟨rfl, -⟩ := (not_covers_of_isPlain h hr).1 hrc
    rw [heq]
    congr 1
    apply Char.toNat_inj.1
    rw [toNat_ofNat_image hr hrc, toNat_toLower, if_pos hc]
    show 0x61 + (c.toNat - 0x41) = c.toNat + 32
    omega
  · have hs : IsSettled c :=
      isSettled_of_not_covers hdot fun r hr hrc => hc ((not_covers_of_isPlain h hr).1 hrc).2
    rw [hs.2]
    congr 1
    apply Char.toNat_inj.1
    rw [toNat_toLower, if_neg hc]

/-- On texts of ASCII characters and white space the two lower cases agree. -/
theorem lowercase_eq_lowerAscii (h : ∀ c ∈ s, IsPlain c) : lowercase s = lowerAscii s := by
  rw [lowercase]
  generalize [] = back
  induction s generalizing back with
  | nil => rfl
  | cons c s ih =>
    obtain ⟨hne, hc⟩ := lowerChar_of_isPlain (h c List.mem_cons_self)
    rw [lowercase.go, if_neg hne, hc, ih fun d hd => h d (List.mem_cons_of_mem _ hd)]
    rfl

end BucketUrl.Text
