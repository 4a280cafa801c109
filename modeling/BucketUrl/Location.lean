/-
BucketUrl/Location.lean

What of a URI decides whether and how it addresses a bucket: its scheme, its host and its decoded
path.
-/
import BucketUrl.Escape.Percent
import BucketUrl.HostPort
import BucketUrl.Scheme
import BucketUrl.Uri.Basic

namespace BucketUrl

/-- The parts of a URI that decide what it addresses. -/
structure Location where
  /-- The scheme as it is written, empty if there is none. -/
  scheme : Text
  /-- The host with its port in lower case, empty if there is none. -/
  host : Text
  /-- The decoded path, without the slash at its beginning. -/
  path : Text
deriving DecidableEq, Repr

namespace Location

/-- The text without a slash at its beginning. -/
def dropSlash : Text → Text
  | '/' :: s => s
  | s => s

/-- The location of a URI, or the reason for which its decoded path is no text. -/
def ofUri (u : Uri) : Except Utf8.Fault Location :=
  (Utf8.decode (Percent.decode u.path)).map fun path =>
    { scheme := u.scheme?.getD []
      host := u.hostPort.lowerAscii
      path := dropSlash path }

/-- The scheme, if it is one under which buckets are addressed. -/
def scheme? (l : Location) : Option Scheme :=
  Scheme.ofText? l.scheme

/-- The host without its port. -/
def hostName (l : Location) : Text :=
  HostPort.name l.host

/-- The path up to its first slash. -/
def firstSegment (l : Location) : Text :=
  Text.before '/' l.path

end Location

end BucketUrl
