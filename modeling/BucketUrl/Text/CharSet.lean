/-
BucketUrl/Text/CharSet.lean

Sets of characters, given as closed ranges of code points.  Character classes of the URI syntax
and properties of the Unicode standard are both written this way.
-/

namespace BucketUrl

/-- A set of characters: the union of closed ranges of code points. -/
structure CharSet where
  /-- The ranges, each with its first and its last code point. -/
  ranges : List (Nat × Nat)
deriving DecidableEq, Repr

namespace CharSet

/-- A character belongs to the set when one of the ranges holds its code point. -/
instance : Membership Char CharSet where
  mem s c := ∃ r ∈ s.ranges, r.1 ≤ c.toNat ∧ c.toNat ≤ r.2

instance (c : Char) (s : CharSet) : Decidable (c ∈ s) :=
  inferInstanceAs (Decidable (∃ r ∈ s.ranges, r.1 ≤ c.toNat ∧ c.toNat ≤ r.2))

theorem mem_iff {c : Char} {s : CharSet} :
    c ∈ s ↔ ∃ r ∈ s.ranges, r.1 ≤ c.toNat ∧ c.toNat ≤ r.2 :=
  Iff.rfl

/-- A set whose ranges lie within ranges of another is a part of it. -/
theorem mem_of_ranges {s t : CharSet}
    (h : ∀ r ∈ s.ranges, ∃ r' ∈ t.ranges, r'.1 ≤ r.1 ∧ r.2 ≤ r'.2) {c : Char} (hc : c ∈ s) :
    c ∈ t := by
  obtain ⟨r, hr, h1, h2⟩ := hc
  obtain ⟨r', hr', h3, h4⟩ := h r hr
  exact ⟨r', hr', by omega, by omega⟩

end CharSet

end BucketUrl
