/-
BucketUrl/Escape/Percent.lean

Percent escapes: a byte is written as `%` and two hexadecimal digits.

Encoding escapes the UTF-8 bytes of every character outside a given safe set, with digits in upper
case.  Decoding takes digits of either case, and leaves a `%` without two digits alone.
-/
import BucketUrl.Text.CharSet
import BucketUrl.Text.Utf8

namespace BucketUrl.Percent

/-! ### Hexadecimal digits -/

/-- The upper-case hexadecimal digit of a number below 16. -/
def hexDigit (n : Nat) : Char :=
  if n < 10 then Char.ofNat ('0'.toNat + n) else Char.ofNat ('A'.toNat + (n - 10))

/-- The value of a hexadecimal digit of either case. -/
def hexValue? (c : Char) : Option Nat :=
  if c.isDigit then some (c.toNat - '0'.toNat)
  else if 'A' ≤ c ∧ c ≤ 'F' then some (c.toNat - 'A'.toNat + 10)
  else if 'a' ≤ c ∧ c ≤ 'f' then some (c.toNat - 'a'.toNat + 10)
  else none

/-! ### Encoding -/

/-- The escape of a byte. -/
def escapeByte (b : UInt8) : Text :=
  ['%', hexDigit (b.toNat / 16), hexDigit (b.toNat % 16)]

/-- A character as it is if it is safe, else the escapes of its bytes. -/
def encodeChar (safe : CharSet) (c : Char) : Text :=
  if c ∈ safe then [c] else (String.utf8EncodeChar c).flatMap escapeByte

/-- The text with every character outside the safe set escaped. -/
def encode (safe : CharSet) (s : Text) : Text :=
  s.flatMap (encodeChar safe)

/-! ### Decoding -/

/-- The byte that an escape with these two digits stands for. -/
def byte? (high low : Char) : Option UInt8 :=
  match hexValue? high, hexValue? low with
  | some h, some l => some (UInt8.ofNat (16 * h + l))
  | _, _ => none

/-- The bytes of the text in UTF-8, with each escape replaced by its byte. -/
def decode : Text → List UInt8
  | [] => []
  | '%' :: high :: low :: s =>
    match byte? high low with
    | some b => b :: decode s
    | none => String.utf8EncodeChar '%' ++ decode (high :: low :: s)
  | c :: s => String.utf8EncodeChar c ++ decode s

end BucketUrl.Percent
