/-
BucketUrl/Uri/Basic.lean

URIs, by the four forms that a request target can have, with their parts and their written form.
-/
import BucketUrl.Uri.Authority

namespace BucketUrl

/-- A URI in one of the forms of a request target. -/
inductive Uri where
  /-- The target `*`. -/
  | asterisk
  /-- A path with an optional query. -/
  | origin (path : Text) (query : Option Text)
  /-- An authority alone. -/
  | authority (auth : Text)
  /-- A scheme, an authority, a path that is not empty, and an optional query. -/
  | absolute (scheme auth path : Text) (query : Option Text)
deriving DecidableEq, Repr

namespace Uri

/-- The scheme, if there is one. -/
def scheme? : Uri → Option Text
  | .absolute scheme _ _ _ => some scheme
  | _ => none

/-- The authority, if there is one. -/
def authority? : Uri → Option Text
  | .authority auth => some auth
  | .absolute _ auth _ _ => some auth
  | _ => none

/-- The path as it is written, without decoding escapes. -/
def path : Uri → Text
  | .asterisk => ['*']
  | .origin path _ => path
  | .authority _ => []
  | .absolute _ _ path _ => path

/-- The query as it is written, if there is one; it may be empty. -/
def query? : Uri → Option Text
  | .origin _ query => query
  | .absolute _ _ _ query => query
  | _ => none

/-- The host with its port, empty if there is no authority. -/
def hostPort (u : Uri) : Text :=
  match u.authority? with
  | some auth => Authority.hostPort auth
  | none => []

/-- A query with its question mark. -/
def printQuery : Option Text → Text
  | some query => '?' :: query
  | none => []

/-- The URI as text. -/
def print : Uri → Text
  | .asterisk => ['*']
  | .origin path query => path ++ printQuery query
  | .authority auth => auth
  | .absolute scheme auth path query =>
    scheme ++ "://".toList ++ auth ++ path ++ printQuery query

end Uri

end BucketUrl
