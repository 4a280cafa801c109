/-
BucketUrl/Uri/Authority.lean

The authority of a URI: the text between `://` and the path, with an optional user-info before an
`@`, a host, and an optional port after a `:`.

An authority is checked in one pass.  Square brackets may enclose one address, and at most one
colon may stand outside of them and of the user-info.  Percent signs may occur only in the
user-info and between brackets.  The host is looked for after the last `@`, and the port after the
last `:` of the whole text.
-/
import BucketUrl.Text.CharSet
import BucketUrl.Uri.Fault

namespace BucketUrl.Uri

/-- The characters that end an authority. -/
def IsDelimiter (c : Char) : Prop :=
  c = '/' ∨ c = '?' ∨ c = '#'

instance (c : Char) : Decidable (IsDelimiter c) :=
  inferInstanceAs (Decidable (_ ∨ _ ∨ _))

namespace Authority

/-! ### The check -/

/-- The characters of an authority: ASCII letters and digits, `%`, and the signs that a URI may use
without escaping, brackets included. -/
def chars : CharSet where
  ranges :=
    [(0x21, 0x21), (0x24, 0x2E), (0x30, 0x3B), (0x3D, 0x3D), (0x40, 0x5B), (0x5D, 0x5D),
     (0x5F, 0x5F), (0x61, 0x7A), (0x7E, 0x7E)]

/-- How many of the two brackets have been seen. -/
inductive Bracket where
  /-- No bracket. -/
  | unseen
  /-- The opening one. -/
  | opened
  /-- Both. -/
  | closed
deriving DecidableEq, Repr

/-- What the check remembers of the characters before. -/
structure Scan where
  /-- The colons since the last `@` or `]`. -/
  colons : Nat := 0
  /-- The brackets. -/
  bracket : Bracket := .unseen
  /-- Whether there was a `%` since the last `@` or `]`. -/
  percent : Bool := false
deriving DecidableEq, Repr

/-- The most colons that may follow each other before the next `@` or `]`. -/
def maxColons : Nat := 8

/-- Checks one character. -/
def Scan.step (st : Scan) (c : Char) : Except Fault Scan :=
  if c ∉ chars then .error .badChar
  else if c = ':' then
    if st.colons < maxColons then .ok { st with colons := st.colons + 1 } else .error .badAuthority
  else if c = '[' then
    if st.bracket = .unseen ∧ st.percent = false then .ok { st with bracket := .opened }
    else .error .badAuthority
  else if c = ']' then
    if st.bracket = .opened then .ok { colons := 0, bracket := .closed, percent := false }
    else .error .badAuthority
  else if c = '@' then .ok { st with colons := 0, percent := false }
  else if c = '%' then .ok { st with percent := true }
  else .ok st

/-- Checks the characters from left to right. -/
def Scan.run (st : Scan) : Text → Except Fault Scan
  | [] => .ok st
  | c :: s =>
    match st.step c with
    | .ok st' => st'.run s
    | .error e => .error e

/-- What must hold at the end: the bracket is closed, there is one colon at most, no `%` is left
over, and the text does not end in `@`. -/
def Scan.Complete (st : Scan) (auth : Text) : Prop :=
  st.bracket ≠ .opened ∧ st.colons ≤ 1 ∧ auth.getLast? ≠ some '@' ∧ st.percent = false

instance (st : Scan) (auth : Text) : Decidable (st.Complete auth) :=
  inferInstanceAs (Decidable (_ ∧ _ ∧ _ ∧ _))

/-- Checks a whole authority. -/
def check (auth : Text) : Except Fault Unit :=
  match ({} : Scan).run auth with
  | .ok st => if st.Complete auth then .ok () else .error .badAuthority
  | .error e => .error e

/-- The authority at the beginning of a text, up to the first delimiter, and what follows it.  The
authority may be empty, but something must be there. -/
def read (s : Text) : Except Fault (Text × Text) :=
  if s = [] then .error .empty
  else
    let auth := s.takeWhile (¬IsDelimiter ·)
    match check auth with
    | .ok () => .ok (auth, s.dropWhile (¬IsDelimiter ·))
    | .error e => .error e

/-! ### Host and port -/

/-- What follows the user-info, that is, the last `@`. -/
def afterUserInfo (auth : Text) : Text :=
  match Text.cutLast? '@' auth with
  | some (_, rest) => rest
  | none => auth

/-- The host of a text without user-info: through the first `]` if it begins with `[`, else up to
the first `:`. -/
def hostOf : Text → Text
  | '[' :: s =>
    match Text.cut? ']' s with
    | some (inner, _) => '[' :: inner ++ [']']
    | none => '[' :: s
  | s => Text.before ':' s

/-- The host of an authority. -/
def host (auth : Text) : Text :=
  hostOf (afterUserInfo auth)

/-- The greatest port. -/
def maxPort : Nat := 65535

/-- The text without a plus sign at its beginning. -/
def unsigned : Text → Text
  | '+' :: s => s
  | s => s

/-- A text is a port when it is a run of digits, perhaps behind a plus sign, for a number of at
most 16 bits. -/
def IsPort (s : Text) : Prop :=
  Text.IsDigits (unsigned s) ∧ Text.digitsValue (unsigned s) ≤ maxPort

instance (s : Text) : Decidable (IsPort s) :=
  inferInstanceAs (Decidable (_ ∧ _))

/-- The port of an authority as it is written, if what follows the last `:` is one. -/
def port? (auth : Text) : Option Text :=
  match Text.cutLast? ':' auth with
  | some (_, port) => if IsPort port then some port else none
  | none => none

/-- The host of an authority, with its port behind a colon if it has one. -/
def hostPort (auth : Text) : Text :=
  match port? auth with
  | some port => host auth ++ ':' :: port
  | none => host auth

end Authority

end BucketUrl.Uri
