/-
BucketUrl/Json.lean

JSON values of the kinds that a report needs, and their compact text.

In a string the quote, the backslash and the controls below `U+0020` are escaped, five of them by
a letter and the others by their code; everything else stands for itself.
-/
import BucketUrl.Text.Basic

namespace BucketUrl

/-- A JSON value: a truth value, a string, or an object with its members in order. -/
inductive Json where
  /-- A truth value. -/
  | bool (b : Bool)
  /-- A string. -/
  | string (s : Text)
  /-- An object. -/
  | object (members : List (Text × Json))
deriving Repr

namespace Json

/-! ### Strings -/

/-- The letter that stands for a character behind a backslash. -/
def escapeLetter? (c : Char) : Option Char :=
  if c = '\x22' then some '\x22'
  else if c = '\x5c' then some '\x5c'
  else if c = '\x08' then some 'b'
  else if c = '\x0c' then some 'f'
  else if c = '\n' then some 'n'
  else if c = '\r' then some 'r'
  else if c = '\t' then some 't'
  else none

/-- The code of a control as it is written behind a backslash. -/
def escapeCode (c : Char) : Text :=
  ['u', '0', '0', Nat.digitChar (c.toNat / 16), Nat.digitChar (c.toNat % 16)]

/-- A character as it is written in a string. -/
def escapeChar (c : Char) : Text :=
  match escapeLetter? c with
  | some letter => ['\x5c', letter]
  | none => if c.toNat < 0x20 then '\x5c' :: escapeCode c else [c]

/-- A string with its quotes. -/
def quote (s : Text) : Text :=
  '\x22' :: s.flatMap escapeChar ++ ['\x22']

/-! ### Values -/

mutual

/-- The compact text of a value. -/
def render : Json → Text
  | .bool true => "true".toList
  | .bool false => "false".toList
  | .string s => quote s
  | .object members => '\x7b' :: renderMembers members ++ ['\x7d']

/-- The members of an object, with commas between them. -/
def renderMembers : List (Text × Json) → Text
  | [] => []
  | [member] => renderMember member
  | member :: members => renderMember member ++ ',' :: renderMembers members

/-- A name and its value. -/
def renderMember : Text × Json → Text
  | (name, value) => quote name ++ ':' :: render value

end

end Json

end BucketUrl
