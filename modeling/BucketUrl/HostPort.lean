/-
BucketUrl/HostPort.lean

Hosts with an optional port behind a colon, and the name that is left without the port.

Here a port is any run of digits, however large.  A host in square brackets loses its brackets
together with its port, and keeps them if it has none.
-/
import BucketUrl.Text.Basic

namespace BucketUrl.HostPort

/-- The address in the brackets of a text that has just been opened by `[`, if a port follows the
closing bracket; the text with its brackets if nothing follows; `none` in all other cases. -/
def bracketed? (s : Text) : Option Text :=
  match Text.cut? ']' s with
  | some (_, []) => some ('[' :: s)
  | some (inner, ':' :: port) => if Text.IsDigits port then some inner else none
  | _ => none

/-- The text up to its last colon if digits follow that, else all of it. -/
def beforePort (s : Text) : Text :=
  match Text.cutLast? ':' s with
  | some (name, port) => if Text.IsDigits port then name else s
  | none => s

/-- The host without its port. -/
def name : Text → Text
  | '[' :: s => (bracketed? s).getD (beforePort ('[' :: s))
  | s => beforePort s

end BucketUrl.HostPort
