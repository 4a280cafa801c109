/-
BucketUrl/Escape/Lemmas.lean

Decoding undoes encoding, for percent escapes and for form encoding.  Each rests on a lemma about
one character with an arbitrary text behind it.
-/
import BucketUrl.Escape.Form
import BucketUrl.Text.Lemmas
import BucketUrl.Text.Utf8.Lemmas
import Mathlib.Data.List.Induction

namespace BucketUrl

/-! ### Percent escapes -/

namespace Percent

theorem hexValue?_hexDigit : ∀ {n : Nat}, n < 16 → hexValue? (hexDigit n) = some n := by
  decide

theorem byte?_hexDigit (b : UInt8) :
    byte? (hexDigit (b.toNat / 16)) (hexDigit (b.toNat % 16)) = some b := by
  have hb := b.toNat_lt
  rw [byte?, hexValue?_hexDigit (by omega), hexValue?_hexDigit (by omega)]
  simp only [Option.some.injEq]
  rw [Nat.div_add_mod, UInt8.ofNat_toNat]

theorem decode_escapeByte_append (b : UInt8) (s : Text) :
    decode (escapeByte b ++ s) = b :: decode s := by
  simp only [escapeByte, List.cons_append, List.nil_append, decode, byte?_hexDigit]

theorem decode_flatMap_escapeByte_append (bytes : List UInt8) (s : Text) :
    decode (bytes.flatMap escapeByte ++ s) = bytes ++ decode s := by
  induction bytes with
  | nil => rfl
  | cons b bytes ih =>
    rw [List.flatMap_cons, List.append_assoc, decode_escapeByte_append, ih, List.cons_append]

theorem decode_cons_of_ne {c : Char} (h : c ≠ '%') (s : Text) :
    decode (c :: s) = String.utf8EncodeChar c ++ decode s := by
  rw [decode.eq_def]
  split
  · contradiction
  · simp_all
  · simp_all

/-- A text without `%` is decoded as it is, whatever follows it. -/
theorem decode_append_of_not_mem {s : Text} (h : '%' ∉ s) (t : Text) :
    decode (s ++ t) = Utf8.encode s ++ decode t := by
  induction s with
  | nil => rfl
  | cons c s ih =>
    have hc : c ≠ '%' := fun he => h (he ▸ List.mem_cons_self)
    rw [List.cons_append, decode_cons_of_ne hc, ih fun hs => h (List.mem_cons_of_mem c hs),
      ← List.append_assoc]
    rfl

/-- The decoded bytes behind a text without `%` are a text exactly when they are one by
themselves. -/
theorem decode_append_eq_ok_iff {s : Text} (h : '%' ∉ s) {t text : Text} :
    Utf8.decode (decode (s ++ t)) = .ok text ↔
      ∃ rest, Utf8.decode (decode t) = .ok rest ∧ text = s ++ rest := by
  rw [decode_append_of_not_mem h, Utf8.decode_encode_append_eq_ok_iff]

variable {safe : CharSet}

theorem decode_encodeChar_append (h : '%' ∉ safe) (c : Char) (s : Text) :
    decode (encodeChar safe c ++ s) = String.utf8EncodeChar c ++ decode s := by
  rw [encodeChar]
  split
  · next hc => exact decode_cons_of_ne (fun he => h (he ▸ hc)) s
  · exact decode_flatMap_escapeByte_append _ s

/-- Decoding undoes encoding, provided that `%` itself is escaped. -/
theorem decode_encode (h : '%' ∉ safe) (s : Text) : decode (encode safe s) = Utf8.encode s := by
  induction s with
  | nil => rfl
  | cons c s ih =>
    rw [encode, List.flatMap_cons, decode_encodeChar_append h, ← encode, ih]
    rfl

theorem mem_escapeByte {b : UInt8} {c : Char} (h : c ∈ escapeByte b) :
    c = '%' ∨ ∃ n < 16, c = hexDigit n := by
  have hb := b.toNat_lt
  simp only [escapeByte, List.mem_cons, List.not_mem_nil, or_false] at h
  rcases h with h | h | h
  · exact .inl h
  · exact .inr ⟨_, by omega, h⟩
  · exact .inr ⟨_, by omega, h⟩

/-- What is written are safe characters, percent signs and hexadecimal digits. -/
theorem mem_encode {s : Text} {c : Char} (h : c ∈ encode safe s) :
    c ∈ safe ∨ c = '%' ∨ ∃ n < 16, c = hexDigit n := by
  simp only [encode, encodeChar, List.mem_flatMap] at h
  obtain ⟨d, -, hd⟩ := h
  split at hd
  · next hs =>
    rw [List.mem_singleton] at hd
    exact .inl (hd ▸ hs)
  · obtain ⟨b, -, hb⟩ := List.mem_flatMap.1 hd
    exact .inr (mem_escapeByte hb)

end Percent

/-! ### Form encoding -/

namespace Form

theorem unplus_hexDigit :
    ∀ {n : Nat}, n < 16 → unplus (Percent.hexDigit n) = Percent.hexDigit n := by
  decide

/-- There are no plus signs in escapes. -/
theorem map_unplus_flatMap_escapeByte (bytes : List UInt8) :
    (bytes.flatMap Percent.escapeByte).map unplus = bytes.flatMap Percent.escapeByte := by
  induction bytes with
  | nil => rfl
  | cons b bytes ih =>
    have hb := b.toNat_lt
    rw [List.flatMap_cons, List.map_append, ih]
    simp only [Percent.escapeByte, List.map_cons, List.map_nil]
    rw [unplus_hexDigit (by omega), unplus_hexDigit (by omega)]
    rfl

theorem decode_map_encodeChar_append (c : Char) (s : Text) :
    Percent.decode ((encodeChar c).map unplus ++ s)
      = String.utf8EncodeChar c ++ Percent.decode s := by
  by_cases h : c = ' '
  · subst h
    exact Percent.decode_cons_of_ne (by decide) s
  · rw [encodeChar, if_neg h, Percent.encodeChar]
    split
    · next hc =>
      have hp : unplus c = c := if_neg (by rintro rfl; exact absurd hc (by decide))
      rw [List.map_singleton, hp]
      exact Percent.decode_cons_of_ne (by rintro rfl; exact absurd hc (by decide)) s
    · rw [map_unplus_flatMap_escapeByte, Percent.decode_flatMap_escapeByte_append]

/-- Reading a name or value undoes writing it. -/
theorem decodeText_encodeText (s : Text) : decodeText (encodeText s) = s := by
  suffices h : Percent.decode ((encodeText s).map unplus) = Utf8.encode s by
    rw [decodeText, h, Utf8.repair_encode]
  induction s with
  | nil => rfl
  | cons c s ih =>
    rw [encodeText, List.flatMap_cons, List.map_append, decode_map_encodeChar_append, ← encodeText,
      ih]
    rfl

/-- What is written are safe characters, plus and percent signs, and hexadecimal digits. -/
theorem mem_encodeText {c : Char} {s : Text} (h : c ∈ encodeText s) :
    c ∈ safe ∨ c = '+' ∨ c = '%' ∨ ∃ n < 16, c = Percent.hexDigit n := by
  simp only [encodeText, encodeChar, List.mem_flatMap] at h
  obtain ⟨d, -, hd⟩ := h
  split at hd
  · exact .inr (.inl (List.mem_singleton.1 hd))
  · have hd : c ∈ Percent.encode safe [d] := by simpa [Percent.encode] using hd
    rcases Percent.mem_encode hd with h | h
    · exact .inl h
    · exact .inr (.inr h)

/-- No separator occurs in a written name or value. -/
theorem not_mem_encodeText {c : Char} (hs : c ∉ safe) (hp : c ≠ '+') (hq : c ≠ '%')
    (hx : ∀ n < 16, c ≠ Percent.hexDigit n) (s : Text) : c ∉ encodeText s := by
  intro h
  rcases mem_encodeText h with h | h | h | ⟨n, hn, h⟩
  · exact hs h
  · exact hp h
  · exact hq h
  · exact hx n hn h

theorem ampersand_not_mem_encodeText (s : Text) : '&' ∉ encodeText s :=
  not_mem_encodeText (by decide) (by decide) (by decide) (by decide) s

theorem equals_not_mem_encodeText (s : Text) : '=' ∉ encodeText s :=
  not_mem_encodeText (by decide) (by decide) (by decide) (by decide) s

theorem readPair_writePair (p : Pair) : readPair (writePair p) = p := by
  rw [readPair, writePair, Text.cut?_append_cons (equals_not_mem_encodeText _)]
  simp only [decodeText_encodeText]

theorem ampersand_not_mem_writePair (p : Pair) : '&' ∉ writePair p := by
  simp [writePair, ampersand_not_mem_encodeText]

theorem writePair_ne_nil (p : Pair) : writePair p ≠ [] := by
  simp [writePair]

theorem write_cons_cons (p q : Pair) (ps : List Pair) :
    write (p :: q :: ps) = writePair p ++ '&' :: write (q :: ps) := by
  simp [write, List.intercalate]

theorem write_ne_nil {ps : List Pair} (h : ps ≠ []) : write ps ≠ [] := by
  cases ps with
  | nil => exact absurd rfl h
  | cons p ps =>
    cases ps with
    | nil => simpa [write] using writePair_ne_nil p
    | cons q ps => simp [write_cons_cons]

/-- One more pair behind written pairs is written as their last. -/
theorem append_write (ps : List Pair) (p : Pair) : append (write ps) p = write (ps ++ [p]) := by
  cases ps with
  | nil => simp [append, write]
  | cons q ps =>
    rw [append, if_neg (write_ne_nil (by simp))]
    induction ps generalizing q with
    | nil => simp [write]
    | cons r ps ih =>
      have ih := ih r
      rw [List.cons_append] at ih
      rw [List.cons_append, List.cons_append, write_cons_cons, write_cons_cons, List.append_assoc,
        List.cons_append, ih]

theorem mem_write {c : Char} {ps : List Pair} (h : c ∈ write ps) :
    c = '&' ∨ c = '=' ∨ ∃ s, c ∈ encodeText s := by
  have hpair {p : Pair} (h : c ∈ writePair p) : c = '&' ∨ c = '=' ∨ ∃ s, c ∈ encodeText s := by
    rcases List.mem_append.1 h with h | h
    · exact .inr (.inr ⟨_, h⟩)
    · rcases List.mem_cons.1 h with h | h
      · exact .inr (.inl h)
      · exact .inr (.inr ⟨_, h⟩)
  induction ps with
  | nil => simp [write] at h
  | cons p ps ih =>
    cases ps with
    | nil => exact hpair (by simpa [write] using h)
    | cons q ps =>
      rw [write_cons_cons] at h
      rcases List.mem_append.1 h with h | h
      · exact hpair h
      · rcases List.mem_cons.1 h with h | h
        · exact .inl h
        · exact ih h

/-- What stands on either side of an `&` is read by itself. -/
theorem read_append_ampersand (s t : Text) : read (s ++ '&' :: t) = read s ++ read t := by
  rw [read, List.splitOn_append_cons_self, List.filter_append, List.map_append]
  rfl

theorem read_writePair (p : Pair) : read (writePair p) = [p] := by
  rw [read, List.splitOn_eq_singleton (ampersand_not_mem_writePair p)]
  simp [writePair_ne_nil, readPair_writePair]

/-- One more pair is read behind those of the text, whatever the text ends in. -/
theorem read_append (s : Text) (p : Pair) : read (append s p) = read s ++ [p] := by
  rw [append]
  split
  · next hs =>
    rw [hs, read_writePair]
    rfl
  · rw [read_append_ampersand, read_writePair]

/-- Reading undoes writing. -/
theorem read_write (ps : List Pair) : read (write ps) = ps := by
  -- the induction goes from the last pair, which is the one that `append` writes
  induction ps using List.reverseRecOn with
  | nil => rfl
  | append_singleton ps p ih => rw [← append_write, read_append, ih]

end Form

end BucketUrl
