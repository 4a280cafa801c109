/-
BucketUrl/Text/Basic.lean

Text as a list of characters, and the few operations on it that every other module uses: ASCII
case, cutting at a separator, runs of digits, and the size in UTF-8.

Lists keep every function a recursion on its argument.  `String` is used only at the edge of the
program and for constants.
-/

namespace BucketUrl

/-- A text is the list of its characters. -/
abbrev Text := List Char

namespace Text

/-! ### Questions about characters -/

-- A question about the characters of a text asks these and not every character there is.
instance (priority := high) decidableForallMem (p : Char → Prop) [DecidablePred p] (s : Text) :
    Decidable (∀ c ∈ s, p c) :=
  List.decidableBAll p s

instance (priority := high) decidableExistsMem (p : Char → Prop) [DecidablePred p]
    (o : Option Char) : Decidable (∃ c ∈ o, p c) :=
  Option.decidableExistsMem o

/-! ### ASCII case -/

/-- The text with its ASCII letters in lower case; every other character stays. -/
def lowerAscii (s : Text) : Text :=
  s.map Char.toLower

/-- Two texts are alike when they differ at most in the case of ASCII letters. -/
def Alike (s t : Text) : Prop :=
  s.lowerAscii = t.lowerAscii

instance (s t : Text) : Decidable (Alike s t) :=
  inferInstanceAs (Decidable (s.lowerAscii = t.lowerAscii))

/-! ### Cutting at a separator -/

/-- The parts before and after the first `sep`, or `none` if the text has no `sep`. -/
def cut? (sep : Char) : Text → Option (Text × Text)
  | [] => none
  | c :: s => if c = sep then some ([], s) else (cut? sep s).map fun p => (c :: p.1, p.2)

/-- The parts before and after the last `sep`, or `none` if the text has no `sep`. -/
def cutLast? (sep : Char) : Text → Option (Text × Text)
  | [] => none
  | c :: s =>
    match cutLast? sep s with
    | some (before, after) => some (c :: before, after)
    | none => if c = sep then some ([], s) else none

/-- What stands before the first `sep`: the whole text if there is none. -/
def before (sep : Char) (s : Text) : Text :=
  s.takeWhile (· ≠ sep)

/-- What is left of `s` after the text `front` at its beginning, or `none` if `s` does not begin
with `front`. -/
def after? : Text → Text → Option Text
  | [], s => some s
  | _ :: _, [] => none
  | a :: front, c :: s => if a = c then after? front s else none

/-- Whether the text `part` occurs in a text without a gap. -/
def occurs (part : Text) : Text → Bool
  | [] => part.isEmpty
  | c :: s => part.isPrefixOf (c :: s) || occurs part s

/-! ### Digits and sizes -/

/-- A nonempty run of ASCII digits. -/
def IsDigits (s : Text) : Prop :=
  s ≠ [] ∧ ∀ c ∈ s, c.isDigit = true

instance (s : Text) : Decidable s.IsDigits :=
  inferInstanceAs (Decidable (s ≠ [] ∧ ∀ c ∈ s, c.isDigit = true))

/-- The number that a run of decimal digits writes. -/
def digitsValue (s : Text) : Nat :=
  s.foldl (fun n c => 10 * n + (c.toNat - '0'.toNat)) 0

/-- The number of bytes of the text in UTF-8. -/
def utf8Size : Text → Nat
  | [] => 0
  | c :: s => c.utf8Size + utf8Size s

end Text

end BucketUrl
