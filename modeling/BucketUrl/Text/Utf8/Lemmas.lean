/-
BucketUrl/Text/Utf8/Lemmas.lean

Both decoders give back every text that was encoded, and bytes behind those of a text are decoded
by themselves (`decode_encode_append_eq_ok_iff`).  All rests on `pieces_encodeChar_append`: the
bytes of a character are read as that character, whatever bytes follow.
-/
import BucketUrl.Text.Lemmas
import BucketUrl.Text.Utf8

namespace BucketUrl.Utf8

/-! ### Reading what was encoded -/

/-- The code point of a character lies below or above the surrogates. -/
theorem toNat_lt_or_le (c : Char) : c.toNat < 0xD800 ∨ (0xDFFF < c.toNat ∧ c.toNat < 0x110000) :=
  c.valid

theorem toNat_ofNat_of_lt {n : Nat} (h : n < 256) : (UInt8.ofNat n).toNat = n := by
  simp
  omega

theorem mem_range {r : ByteRange} {n : Nat} (h : n < 256) :
    UInt8.ofNat n ∈ r ↔ r.lo ≤ n ∧ n ≤ r.hi := by
  show _ ≤ (UInt8.ofNat n).toNat ∧ (UInt8.ofNat n).toNat ≤ _ ↔ _
  rw [toNat_ofNat_of_lt h]

/-- A byte with six bits behind the mark of a continuation byte is one. -/
theorem mem_tail {n : Nat} (h : n < 64) : UInt8.ofNat (n + 128) ∈ tail := by
  rw [mem_range (by omega)]
  simp only [tail]
  omega

/-- The first byte of two. -/
theorem lead?_two {n : Nat} (h1 : 0x7F < n) (h2 : n ≤ 0x7FF) :
    lead? (UInt8.ofNat (n / 64 % 32 + 192)) = some (n / 64, [tail]) := by
  simp only [lead?, toNat_ofNat_of_lt (n := n / 64 % 32 + 192) (by omega)]
  rw [if_neg (by omega), if_neg (by omega), if_pos (by omega)]
  simp only [Option.some.injEq, Prod.mk.injEq, and_true]
  omega

/-- The first byte of three, and the range of the second. -/
theorem lead?_three {n : Nat} (h1 : 0x7FF < n) (h2 : n ≤ 0xFFFF) (h : n < 0xD800 ∨ 0xDFFF < n) :
    ∃ r : ByteRange, lead? (UInt8.ofNat (n / 4096 % 16 + 224)) = some (n / 4096, [r, tail]) ∧
      UInt8.ofNat (n / 64 % 64 + 128) ∈ r := by
  simp only [lead?, mem_range (n := n / 64 % 64 + 128) (by omega),
    toNat_ofNat_of_lt (n := n / 4096 % 16 + 224) (by omega)]
  rw [if_neg (by omega), if_neg (by omega), if_neg (by omega)]
  split
  · refine ⟨⟨0xA0, 0xBF⟩, ?_⟩
    simp only [Option.some.injEq, Prod.mk.injEq, and_true]
    omega
  split
  · refine ⟨⟨0x80, 0x9F⟩, ?_⟩
    simp only [Option.some.injEq, Prod.mk.injEq, and_true]
    omega
  · rw [if_pos (by omega)]
    refine ⟨tail, ?_⟩
    simp only [Option.some.injEq, Prod.mk.injEq, and_true, tail]
    omega

/-- The first byte of four, and the range of the second. -/
theorem lead?_four {n : Nat} (h1 : 0xFFFF < n) (h2 : n < 0x110000) :
    ∃ r : ByteRange,
      lead? (UInt8.ofNat (n / 262144 % 8 + 240)) = some (n / 262144, [r, tail, tail]) ∧
      UInt8.ofNat (n / 4096 % 64 + 128) ∈ r := by
  simp only [lead?, mem_range (n := n / 4096 % 64 + 128) (by omega),
    toNat_ofNat_of_lt (n := n / 262144 % 8 + 240) (by omega)]
  rw [if_neg (by omega), if_neg (by omega), if_neg (by omega), if_neg (by omega),
    if_neg (by omega), if_neg (by omega)]
  split
  · refine ⟨⟨0x90, 0xBF⟩, ?_⟩
    simp only [Option.some.injEq, Prod.mk.injEq, and_true]
    omega
  split
  · refine ⟨tail, ?_⟩
    simp only [Option.some.injEq, Prod.mk.injEq, and_true, tail]
    omega
  · rw [if_pos (by omega)]
    refine ⟨⟨0x80, 0x8F⟩, ?_⟩
    simp only [Option.some.injEq, Prod.mk.injEq, and_true]
    omega

theorem piecesFrom_ready_ascii {b : UInt8} (bytes : List UInt8) (h : b.toNat < 0x80) :
    piecesFrom .ready (b :: bytes) = .char (Char.ofNat b.toNat) :: piecesFrom .ready bytes := by
  simp [piecesFrom, step, begin, enter, lead?, h]

theorem piecesFrom_ready_cons {b : UInt8} {bits : Nat} {next : ByteRange} {more : List ByteRange}
    (bytes : List UInt8) (h : lead? b = some (bits, next :: more)) :
    piecesFrom .ready (b :: bytes) = piecesFrom (.inside bits 1 next more) bytes := by
  simp [piecesFrom, step, begin, enter, h]

theorem piecesFrom_inside_cons {bits size : Nat} {next next' : ByteRange} {more : List ByteRange}
    {b : UInt8} (bytes : List UInt8) (h : b ∈ next) :
    piecesFrom (.inside bits size next (next' :: more)) (b :: bytes)
      = piecesFrom (.inside (bits * 64 + b.toNat % 64) (size + 1) next' more) bytes := by
  simp [piecesFrom, step, enter, h]

theorem piecesFrom_inside_last {bits size : Nat} {next : ByteRange} {b : UInt8}
    (bytes : List UInt8) (h : b ∈ next) :
    piecesFrom (.inside bits size next []) (b :: bytes)
      = .char (Char.ofNat (bits * 64 + b.toNat % 64)) :: piecesFrom .ready bytes := by
  simp [piecesFrom, step, enter, h]

/-- The bytes of a character are read as that character, whatever follows them. -/
theorem pieces_encodeChar_append (c : Char) (bytes : List UInt8) :
    pieces (String.utf8EncodeChar c ++ bytes) = .char c :: pieces bytes := by
  have hc := toNat_lt_or_le c
  have hof : Char.ofNat c.toNat = c := Char.ofNat_toNat c
  have bits {n : Nat} (h : n < 64) : (UInt8.ofNat (n + 128)).toNat % 64 = n := by
    rw [toNat_ofNat_of_lt (by omega)]
    omega
  have hval : c.val.toNat = c.toNat := rfl
  simp only [String.utf8EncodeChar, pieces, hval]
  generalize c.toNat = n at *
  subst hof
  split
  · have hb := toNat_ofNat_of_lt (n := n) (by omega)
    rw [List.singleton_append, piecesFrom_ready_ascii _ (by omega), hb]
  split
  · simp only [List.cons_append, List.nil_append]
    rw [piecesFrom_ready_cons _ (lead?_two (by omega) (by omega)),
      piecesFrom_inside_last _ (mem_tail (by omega)), bits (by omega)]
    congr 3
    omega
  split
  · simp only [List.cons_append, List.nil_append]
    obtain ⟨r, hr, hb⟩ := lead?_three (n := n) (by omega) (by omega) (by omega)
    rw [piecesFrom_ready_cons _ hr, piecesFrom_inside_cons _ hb,
      piecesFrom_inside_last _ (mem_tail (by omega)), bits (by omega), bits (by omega)]
    congr 3
    omega
  · simp only [List.cons_append, List.nil_append]
    obtain ⟨r, hr, hb⟩ := lead?_four (n := n) (by omega) (by omega)
    rw [piecesFrom_ready_cons _ hr, piecesFrom_inside_cons _ hb,
      piecesFrom_inside_cons _ (mem_tail (by omega)),
      piecesFrom_inside_last _ (mem_tail (by omega)), bits (by omega), bits (by omega),
      bits (by omega)]
    congr 3
    omega

/-- The bytes of a text are read as its characters, whatever follows them. -/
theorem pieces_encode_append (s : Text) (bytes : List UInt8) :
    pieces (encode s ++ bytes) = s.map .char ++ pieces bytes := by
  induction s with
  | nil => rfl
  | cons c s ih =>
    rw [encode, List.flatMap_cons, List.append_assoc, pieces_encodeChar_append, ← encode, ih]
    rfl

theorem pieces_encode (s : Text) : pieces (encode s) = s.map .char := by
  have h := pieces_encode_append s []
  rw [List.append_nil] at h
  exact h.trans (List.append_nil _)

theorem collect_map_char (index : Nat) (s : Text) : collect index (s.map .char) = .ok s := by
  induction s generalizing index with
  | nil => rfl
  | cons c s ih =>
    rw [List.map_cons, collect, ih]
    rfl

/-- Only pieces that are all characters spell out a text. -/
theorem collect_eq_ok_iff {index : Nat} {ps : List Piece} {s : Text} :
    collect index ps = .ok s ↔ ps = s.map .char := by
  constructor
  · intro h
    induction ps generalizing index s with
    | nil =>
      cases h
      rfl
    | cons p ps ih =>
      cases p with
      | char c =>
        rw [collect] at h
        obtain ⟨t, ht, rfl⟩ := map_eq_ok_iff.1 h
        rw [ih ht]
        rfl
      | broken size => cases h
      | unfinished size => cases h
  · rintro rfl
    exact collect_map_char index s

theorem decode_eq_ok_iff {bytes : List UInt8} {s : Text} :
    decode bytes = .ok s ↔ pieces bytes = s.map .char :=
  collect_eq_ok_iff

/-- Bytes behind the bytes of a text are a text exactly when they are one by themselves. -/
theorem decode_encode_append_eq_ok_iff (s : Text) {bytes : List UInt8} {t : Text} :
    decode (encode s ++ bytes) = .ok t ↔ ∃ rest, decode bytes = .ok rest ∧ t = s ++ rest := by
  simp only [decode_eq_ok_iff, pieces_encode_append]
  constructor
  · intro h
    obtain ⟨front, rest, rfl, hfront, hrest⟩ := List.map_eq_append_iff.1 h.symm
    have hinj : Function.Injective Piece.char := fun _ _ h => Piece.char.inj h
    exact ⟨rest, hrest.symm, by rw [List.map_inj_right hinj |>.1 hfront]⟩
  · rintro ⟨rest, hrest, rfl⟩
    rw [hrest, List.map_append]

/-- Strict decoding undoes encoding. -/
theorem decode_encode (s : Text) : decode (encode s) = .ok s := by
  rw [decode, pieces_encode, collect_map_char]

/-- Lenient decoding undoes encoding. -/
theorem repair_encode (s : Text) : repair (encode s) = s := by
  rw [repair, pieces_encode, List.map_map]
  exact List.map_id s

end BucketUrl.Utf8
