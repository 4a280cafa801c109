/-
BucketUrl/Uri/Parser.lean

Reading a URI from text.

A text that begins with `/` is a path, and one that begins with a scheme and `://` is an absolute
URI.  Anything else must be an authority alone, or the asterisk.
-/
import BucketUrl.Uri.Basic

namespace BucketUrl.Uri

/-! ### Path and query -/

/-- The characters of a path.  All characters beyond ASCII are allowed. -/
def pathChars : CharSet where
  ranges :=
    [(0x21, 0x22), (0x24, 0x3B), (0x3D, 0x3D), (0x40, 0x5F), (0x61, 0x7E), (0x80, 0x10FFFF)]

/-- The characters of a query.  All characters beyond ASCII are allowed. -/
def queryChars : CharSet where
  ranges := [(0x21, 0x21), (0x24, 0x3B), (0x3D, 0x3D), (0x3F, 0x7E), (0x80, 0x10FFFF)]

/-- A path and an optional query. -/
structure Target where
  /-- The path, not empty. -/
  path : Text
  /-- The query, if there was a question mark. -/
  query : Option Text
deriving DecidableEq, Repr

/-- The target that a text without fragment spells, whatever its characters: the path ends at the
first question mark, and an empty path stands for `/`. -/
def Target.split (s : Text) : Target :=
  match Text.cut? '?' s with
  | some (path, query) => ⟨if path = [] then ['/'] else path, some query⟩
  | none => ⟨if s = [] then ['/'] else s, none⟩

/-- All characters of the target may stand where they do. -/
def Target.Allowed (t : Target) : Prop :=
  (∀ c ∈ t.path, c ∈ pathChars) ∧ ∀ c ∈ t.query.getD [], c ∈ queryChars

instance (t : Target) : Decidable t.Allowed :=
  inferInstanceAs
    (Decidable ((∀ c ∈ t.path, c ∈ pathChars) ∧ ∀ c ∈ t.query.getD [], c ∈ queryChars))

/-- Reads path and query.  All from a `#` on is dropped unseen. -/
def Target.read (s : Text) : Except Fault Target :=
  let t := Target.split (Text.before '#' s)
  if t.Allowed then .ok t else .error .badChar

/-! ### Scheme -/

/-- The characters of a scheme: ASCII letters, digits and `+-.~`. -/
def schemeChars : CharSet where
  ranges := [(0x2B, 0x2B), (0x2D, 0x2E), (0x30, 0x39), (0x41, 0x5A), (0x61, 0x7A), (0x7E, 0x7E)]

/-- The most characters of a scheme. -/
def maxScheme : Nat := 64

/-- What follows `name` and `://`, if the text begins so in any ASCII case. -/
def afterScheme? (name s : Text) : Option Text :=
  let mark := name ++ "://".toList
  if Text.Alike (s.take mark.length) mark then some (s.drop mark.length) else none

/-- The scheme of a text and what follows its `://`, or `none` if the text has no scheme.

`http` and `https` are recognised in any case and given in lower case; other schemes stay as they
are written.  A scheme may be empty, but then something must follow. -/
def readScheme (s : Text) : Except Fault (Option (Text × Text)) :=
  match afterScheme? "http".toList s with
  | some rest => .ok (some ("http".toList, rest))
  | none =>
    match afterScheme? "https".toList s with
    | some rest => .ok (some ("https".toList, rest))
    | none =>
      let scheme := s.takeWhile (· ∈ schemeChars)
      match Text.after? "://".toList (s.dropWhile (· ∈ schemeChars)) with
      | none => .ok none
      | some rest =>
        if scheme = [] ∧ rest = [] then .ok none
        else if maxScheme < scheme.length then .error .schemeTooLong
        else .ok (some (scheme, rest))

/-! ### The whole URI -/

/-- The most bytes of a URI. -/
def maxBytes : Nat := 65534

/-- Reads a text that must be an authority from end to end. -/
def readAuthorityForm (s : Text) : Except Fault Uri :=
  match Authority.read s with
  | .ok (auth, []) => .ok (.authority auth)
  | .ok (_, _ :: _) => .error .badForm
  | .error e => .error e

/-- Reads what follows a scheme and `://`. -/
def readAbsoluteForm (scheme s : Text) : Except Fault Uri :=
  match Authority.read s with
  | .ok ([], _) => .error .badForm
  | .ok (auth, rest) => (Target.read rest).map fun t => .absolute scheme auth t.path t.query
  | .error e => .error e

/-- Reads a URI that is not too long. -/
def parseShort : Text → Except Fault Uri
  | [] => .error .empty
  | ['*'] => .ok .asterisk
  | ['?'] => .error .badChar
  | ['#'] => .error .badChar
  | '/' :: s => (Target.read ('/' :: s)).map fun t => .origin t.path t.query
  | s =>
    match readScheme s with
    | .ok (some (scheme, rest)) => readAbsoluteForm scheme rest
    | .ok none => readAuthorityForm s
    | .error e => .error e

/-- Reads a URI. -/
def parse (s : Text) : Except Fault Uri :=
  if maxBytes < s.utf8Size then .error .tooLong else parseShort s

end BucketUrl.Uri
