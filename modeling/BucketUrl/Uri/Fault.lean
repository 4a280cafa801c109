/-
BucketUrl/Uri/Fault.lean

The reasons for which a text is no URI, and how they are worded.
-/
import BucketUrl.Text.Basic

namespace BucketUrl.Uri

/-- Why a text is no URI. -/
inductive Fault where
  /-- The text has more bytes than a URI may have. -/
  | tooLong
  /-- The text, or what should be its authority, is empty. -/
  | empty
  /-- A character stands where it is not allowed. -/
  | badChar
  /-- The brackets, colons, `@` or `%` of the authority are out of order. -/
  | badAuthority
  /-- The parts do not make up one of the forms of a URI. -/
  | badForm
  /-- The scheme is too long. -/
  | schemeTooLong
deriving DecidableEq, Repr

/-- A description of the fault. -/
def Fault.message : Fault → Text
  | .tooLong => "uri too long".toList
  | .empty => "empty string".toList
  | .badChar => "invalid uri character".toList
  | .badAuthority => "invalid authority".toList
  | .badForm => "invalid format".toList
  | .schemeTooLong => "scheme too long".toList

end BucketUrl.Uri
