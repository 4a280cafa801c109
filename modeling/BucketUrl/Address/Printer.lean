/-
BucketUrl/Address/Printer.lean

The canonical URL of an address.

A bucket stands in the path only where it is not part of the host, and a key is written only
behind a bucket.  Slashes in a bucket or a key stay; controls, the characters that a URI path may
not hold or that end it, and all characters beyond ASCII are escaped.
-/
import BucketUrl.Address.Basic
import BucketUrl.Address.Error
import BucketUrl.Uri.Parser
import BucketUrl.VersionQuery

namespace BucketUrl.Address

/-- The ASCII characters that stand for themselves in a bucket or a key. -/
def safe : CharSet where
  ranges :=
    [(0x21, 0x21), (0x24, 0x24), (0x26, 0x3B), (0x3D, 0x3D), (0x40, 0x5A), (0x5F, 0x5F),
     (0x61, 0x7A), (0x7E, 0x7E)]

/-- A slash and the escaped name behind it; nothing for an empty name. -/
def printName (name : Text) : Text :=
  if name = [] then [] else '/' :: Percent.encode safe name

/-- The path of the canonical URL. -/
def printPath (a : Address) : Text :=
  if a.bucket = [] then []
  else (if a.pathStyle then printName a.bucket else []) ++ printName a.key

/-- The query of the canonical URL, without its question mark. -/
def query (a : Address) : Text :=
  VersionQuery.join ⟨a.version, a.params⟩

/-- The query with its question mark; nothing for an empty query. -/
def printQuery (a : Address) : Text :=
  if a.query = [] then [] else '?' :: a.query

/-- The canonical URL. -/
def canonical (a : Address) : Text :=
  a.scheme ++ "://".toList ++ a.host ++ a.printPath ++ a.printQuery

/-- The canonical URL as a URI, or why it is none. -/
def toUri (a : Address) : Except Error Uri :=
  match Uri.parse a.canonical with
  | .ok u => .ok u
  | .error fault => .error (.invalidUri fault)

end BucketUrl.Address
