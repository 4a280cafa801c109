/-
BucketUrl/Json/Reader.lean

Reading JSON text: all spellings of the values in `Json`, with blanks between their parts and with
every escape that a string may hold.

The text is cut into tokens, and a machine puts the value together, one token at a time.  It keeps
the objects that are still open on a stack.  An escape by code stands for a unit of UTF-16, so what
is read in a string are pieces, and two of them may make one character.
-/
import BucketUrl.Escape.Percent
import BucketUrl.Json

namespace BucketUrl.Json

/-! ### Strings -/

/-- The character that a letter behind a backslash stands for. -/
def unescapeLetter? (c : Char) : Option Char :=
  if c = '\x22' then some '\x22'
  else if c = '\x5c' then some '\x5c'
  else if c = '/' then some '/'
  else if c = 'b' then some '\x08'
  else if c = 'f' then some '\x0c'
  else if c = 'n' then some '\n'
  else if c = 'r' then some '\r'
  else if c = 't' then some '\t'
  else none

/-- The number that four hexadecimal digits write. -/
def code? (a b c d : Char) : Option Nat :=
  match Percent.hexValue? a, Percent.hexValue? b, Percent.hexValue? c, Percent.hexValue? d with
  | some a, some b, some c, some d => some (((a * 16 + b) * 16 + c) * 16 + d)
  | _, _, _, _ => none

/-- A piece of a string: a character, or a unit of UTF-16 that is given by its code. -/
inductive Piece where
  /-- A character. -/
  | char (c : Char)
  /-- A unit of UTF-16. -/
  | unit (n : Nat)
deriving DecidableEq, Repr

/-- The unit is the first half of a character. -/
def IsFirstHalf (n : Nat) : Prop :=
  0xD800 ≤ n ∧ n < 0xDC00

instance (n : Nat) : Decidable (IsFirstHalf n) :=
  inferInstanceAs (Decidable (_ ∧ _))

/-- The unit is the second half of a character. -/
def IsSecondHalf (n : Nat) : Prop :=
  0xDC00 ≤ n ∧ n < 0xE000

instance (n : Nat) : Decidable (IsSecondHalf n) :=
  inferInstanceAs (Decidable (_ ∧ _))

/-- The character with these two halves. -/
def joinHalves (n m : Nat) : Char :=
  Char.ofNat (0x10000 + (n - 0xD800) * 0x400 + (m - 0xDC00))

/-- The text of the pieces, unless a half is left alone. -/
def joinPieces : List Piece → Option Text
  | [] => some []
  | .char c :: ps => (joinPieces ps).map (c :: ·)
  | .unit n :: ps =>
    if IsFirstHalf n then
      match ps with
      | .unit m :: ps => if IsSecondHalf m then (joinPieces ps).map (joinHalves n m :: ·) else none
      | _ => none
    else if IsSecondHalf n then none
    else (joinPieces ps).map (Char.ofNat n :: ·)

/-! ### Tokens -/

/-- A token of JSON text. -/
inductive Token where
  /-- The beginning of an object. -/
  | opening
  /-- The end of an object. -/
  | closing
  /-- The sign between a name and its value. -/
  | colon
  /-- The sign between two members. -/
  | comma
  /-- A truth value. -/
  | flag (b : Bool)
  /-- A string. -/
  | string (s : Text)
deriving DecidableEq, Repr

/-- The characters that may stand between tokens. -/
def blanks : List Char :=
  [' ', '\t', '\n', '\r']

mutual

/-- The tokens of a text. -/
def tokens? : Text → Option (List Token)
  | [] => some []
  | '\x7b' :: s => (tokens? s).map (.opening :: ·)
  | '\x7d' :: s => (tokens? s).map (.closing :: ·)
  | ':' :: s => (tokens? s).map (.colon :: ·)
  | ',' :: s => (tokens? s).map (.comma :: ·)
  | 't' :: 'r' :: 'u' :: 'e' :: s => (tokens? s).map (.flag true :: ·)
  | 'f' :: 'a' :: 'l' :: 's' :: 'e' :: s => (tokens? s).map (.flag false :: ·)
  | '\x22' :: s => (string? s).bind fun r => (joinPieces r.1).map fun text => .string text :: r.2
  | c :: s => if c ∈ blanks then tokens? s else none

/-- The pieces of the string that a text is inside of, and the tokens behind it. -/
def string? : Text → Option (List Piece × List Token)
  | [] => none
  | '\x22' :: s => (tokens? s).map fun ts => ([], ts)
  | '\x5c' :: 'u' :: a :: b :: c :: d :: s =>
    (code? a b c d).bind fun n => (string? s).map fun r => (.unit n :: r.1, r.2)
  | '\x5c' :: c :: s =>
    (unescapeLetter? c).bind fun c => (string? s).map fun r => (.char c :: r.1, r.2)
  | c :: s => if c.toNat < 0x20 then none else (string? s).map fun r => (.char c :: r.1, r.2)

end

/-! ### Values -/

/-- An object that is still open: the members that were read, and the name of the one whose value
comes next. -/
structure OpenObject where
  /-- The members that were read. -/
  members : List (Text × Json)
  /-- The name of the next member. -/
  name : Text
deriving Repr

/-- What the machine expects, and the objects around it from the inside out. -/
inductive Expecting where
  /-- A value. -/
  | value (stack : List OpenObject)
  /-- The name of the first member of an object, or its end. -/
  | first (stack : List OpenObject)
  /-- The name of another member. -/
  | next (members : List (Text × Json)) (stack : List OpenObject)
  /-- The colon behind a name. -/
  | colon (members : List (Text × Json)) (name : Text) (stack : List OpenObject)
  /-- What may follow a value. -/
  | behind (j : Json) (stack : List OpenObject)
deriving Repr

/-- One step of the machine. -/
def Expecting.step : Expecting → Token → Option Expecting
  | .value stack, .flag b => some (.behind (.bool b) stack)
  | .value stack, .string s => some (.behind (.string s) stack)
  | .value stack, .opening => some (.first stack)
  | .first stack, .closing => some (.behind (.object []) stack)
  | .first stack, .string s => some (.colon [] s stack)
  | .next members stack, .string s => some (.colon members s stack)
  | .colon members s stack, .colon => some (.value (⟨members, s⟩ :: stack))
  | .behind j (o :: stack), .comma => some (.next (o.members ++ [(o.name, j)]) stack)
  | .behind j (o :: stack), .closing => some (.behind (.object (o.members ++ [(o.name, j)])) stack)
  | _, _ => none

/-- The run of the machine on a list of tokens. -/
def Expecting.run : Expecting → List Token → Option Expecting
  | e, [] => some e
  | e, t :: ts => (e.step t).bind (run · ts)

/-- The value that the tokens spell. -/
def ofTokens? (ts : List Token) : Option Json :=
  match (Expecting.value []).run ts with
  | some (.behind j []) => some j
  | _ => none

/-- The value that a text spells. -/
def read (s : Text) : Option Json :=
  (tokens? s).bind ofTokens?

/-! ### Members -/

/-- The value of the first member with this name, if it is an object with such a member. -/
def member? (name : Text) : Json → Option Json
  | .object members => members.lookup name
  | _ => none

/-- The text of a member. -/
def text? (name : Text) (j : Json) : Option Text :=
  match j.member? name with
  | some (.string s) => some s
  | _ => none

/-- The truth value of a member. -/
def flag? (name : Text) (j : Json) : Option Bool :=
  match j.member? name with
  | some (.bool b) => some b
  | _ => none

/-- The names of the members of an object, in order. -/
def names : Json → List Text
  | .object members => members.map Prod.fst
  | _ => []

end BucketUrl.Json
