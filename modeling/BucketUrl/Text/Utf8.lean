/-
BucketUrl/Text/Utf8.lean

UTF-8: encoding, strict decoding that says where the bytes fail, and lenient decoding that puts
the replacement character in the place of what cannot be read.

Both decoders read one list of pieces.  A piece is a character, a maximal run of bytes that begins
a character and is then broken off, or such a run at the very end of the bytes.  The bytes that may
follow a lead byte are given as ranges, so overlong forms, surrogates and code points above
`U+10FFFF` are broken off at their second byte.
-/
import BucketUrl.Text.Basic

namespace BucketUrl.Utf8

/-- The UTF-8 bytes of a text. -/
def encode (s : Text) : List UInt8 :=
  s.flatMap String.utf8EncodeChar

/-! ### Reading pieces -/

/-- What is found in a sequence of bytes, from the left. -/
inductive Piece where
  /-- The bytes of a character. -/
  | char (c : Char)
  /-- This many bytes begin a character, and the byte after them cannot go on with it; or a single
  byte that begins no character. -/
  | broken (size : Nat)
  /-- This many bytes begin a character, and the sequence ends. -/
  | unfinished (size : Nat)
deriving DecidableEq, Repr

/-- A closed range of bytes. -/
structure ByteRange where
  /-- The least byte. -/
  lo : Nat
  /-- The greatest byte. -/
  hi : Nat
deriving DecidableEq, Repr

instance : Membership UInt8 ByteRange where
  mem r b := r.lo ≤ b.toNat ∧ b.toNat ≤ r.hi

instance (b : UInt8) (r : ByteRange) : Decidable (b ∈ r) :=
  inferInstanceAs (Decidable (r.lo ≤ b.toNat ∧ b.toNat ≤ r.hi))

/-- Any continuation byte. -/
def tail : ByteRange where
  lo := 0x80
  hi := 0xBF

/-- What a first byte stands for: the bits that it gives to the code point, and the bytes that must
follow it.  `none` if no character begins with that byte. -/
def lead? (b : UInt8) : Option (Nat × List ByteRange) :=
  let n := b.toNat
  if n < 0x80 then some (n, [])
  else if n < 0xC2 then none
  else if n < 0xE0 then some (n - 0xC0, [tail])
  else if n = 0xE0 then some (0, [⟨0xA0, 0xBF⟩, tail])
  else if n = 0xED then some (0xD, [⟨0x80, 0x9F⟩, tail])
  else if n < 0xF0 then some (n - 0xE0, [tail, tail])
  else if n = 0xF0 then some (0, [⟨0x90, 0xBF⟩, tail, tail])
  else if n < 0xF4 then some (n - 0xF0, [tail, tail, tail])
  else if n = 0xF4 then some (4, [⟨0x80, 0x8F⟩, tail, tail])
  else none

/-- The state of the reader between two bytes. -/
inductive State where
  /-- Between two pieces. -/
  | ready
  /-- Inside a character: the bits read so far, the number of bytes they took, what the next byte
  must be, and what those after it must be. -/
  | inside (bits size : Nat) (next : ByteRange) (more : List ByteRange)
deriving DecidableEq, Repr

/-- The pieces that are complete, and the state, once the bits of a character are known up to the
bytes that must still follow. -/
def enter (bits size : Nat) : List ByteRange → List Piece × State
  | [] => ([.char (Char.ofNat bits)], .ready)
  | next :: more => ([], .inside bits size next more)

/-- Reads a byte between two pieces. -/
def begin (b : UInt8) : List Piece × State :=
  match lead? b with
  | some (bits, more) => enter bits 1 more
  | none => ([.broken 1], .ready)

/-- Reads a byte.  One that cannot go on with the character begins the next piece. -/
def step : State → UInt8 → List Piece × State
  | .ready, b => begin b
  | .inside bits size next more, b =>
    if b ∈ next then enter (bits * 64 + b.toNat % 64) (size + 1) more
    else (.broken size :: (begin b).1, (begin b).2)

/-- The pieces of the bytes, for a reader in the given state. -/
def piecesFrom : State → List UInt8 → List Piece
  | .ready, [] => []
  | .inside _ size _ _, [] => [.unfinished size]
  | st, b :: bytes => (step st b).1 ++ piecesFrom (step st b).2 bytes

/-- The pieces of the bytes. -/
def pieces (bytes : List UInt8) : List Piece :=
  piecesFrom .ready bytes

/-! ### Strict decoding -/

/-- Why bytes are no text. -/
inductive Fault where
  /-- After `index` good bytes come `size` bytes that are no character. -/
  | invalid (index size : Nat)
  /-- After `index` good bytes a character begins, and the bytes end inside it. -/
  | incomplete (index : Nat)
deriving DecidableEq, Repr

/-- The text that the pieces spell out, or the first fault.  `index` bytes stand before them. -/
def collect (index : Nat) : List Piece → Except Fault Text
  | [] => .ok []
  | .char c :: ps => (collect (index + c.utf8Size) ps).map (c :: ·)
  | .broken size :: _ => .error (.invalid index size)
  | .unfinished _ :: _ => .error (.incomplete index)

/-- The text with these bytes, or where they fail. -/
def decode (bytes : List UInt8) : Except Fault Text :=
  collect 0 (pieces bytes)

/-- A description of the fault. -/
def Fault.message : Fault → Text
  | .invalid index size =>
    s!"invalid utf-8 sequence of {size} bytes from index {index}".toList
  | .incomplete index => s!"incomplete utf-8 byte sequence from index {index}".toList

/-! ### Lenient decoding -/

/-- The character that a piece is read as: `U+FFFD` for all that is no character. -/
def Piece.repaired : Piece → Char
  | .char c => c
  | .broken _ => '\uFFFD'
  | .unfinished _ => '\uFFFD'

/-- The text with these bytes, where each piece that is no character becomes one `U+FFFD`. -/
def repair (bytes : List UInt8) : Text :=
  (pieces bytes).map Piece.repaired

end BucketUrl.Utf8
