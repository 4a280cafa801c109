/-
BucketUrl/Escape/Form.lean

Form encoding: a list of names with values, written as `name=value&name=value`.

Reading never fails.  Empty pieces are skipped, a piece without `=` has an empty value, and bytes
that are no text are repaired.  Writing escapes all but ASCII letters, digits and `*-._`, and writes
a space as `+`.
-/
import BucketUrl.Escape.Percent

namespace BucketUrl.Form

/-- A name with its value. -/
structure Pair where
  /-- The name. -/
  name : Text
  /-- The value, empty if none was given. -/
  value : Text
deriving DecidableEq, Repr

/-! ### Reading -/

/-- A plus sign as the space that it stands for. -/
def unplus (c : Char) : Char :=
  if c = '+' then ' ' else c

/-- The text that a written name or value stands for. -/
def decodeText (s : Text) : Text :=
  Utf8.repair (Percent.decode (s.map unplus))

/-- The pair that a piece between two `&` stands for. -/
def readPair (piece : Text) : Pair :=
  match Text.cut? '=' piece with
  | some (name, value) => ⟨decodeText name, decodeText value⟩
  | none => ⟨decodeText piece, []⟩

/-- The pairs that a text stands for. -/
def read (s : Text) : List Pair :=
  ((s.splitOn '&').filter (· ≠ [])).map readPair

/-! ### Writing -/

/-- The characters that stand for themselves. -/
def safe : CharSet where
  ranges := [(0x2A, 0x2A), (0x2D, 0x2E), (0x30, 0x39), (0x41, 0x5A), (0x5F, 0x5F), (0x61, 0x7A)]

/-- A character as it is written in a name or value. -/
def encodeChar (c : Char) : Text :=
  if c = ' ' then ['+'] else Percent.encodeChar safe c

/-- A name or value as it is written. -/
def encodeText (s : Text) : Text :=
  s.flatMap encodeChar

/-- A pair as it is written. -/
def writePair (p : Pair) : Text :=
  encodeText p.name ++ '=' :: encodeText p.value

/-- The pairs as one text. -/
def write (ps : List Pair) : Text :=
  List.intercalate ['&'] (ps.map writePair)

/-- The text with one more pair written behind it. -/
def append (s : Text) (p : Pair) : Text :=
  if s = [] then writePair p else s ++ '&' :: writePair p

end BucketUrl.Form
