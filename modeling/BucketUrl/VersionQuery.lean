/-
BucketUrl/VersionQuery.lean

The version of an object in the query of its URL.

The parameter `versionId`, in any ASCII case, gives the version.  Of several the first counts, and
all are taken out of the query; the other parameters are kept in order and written anew.
-/
import BucketUrl.Escape.Form

namespace BucketUrl

/-- A query, taken apart into a version and the other parameters. -/
structure VersionQuery where
  /-- The version, empty if there is none. -/
  version : Text
  /-- The other parameters in form encoding. -/
  params : Text
deriving DecidableEq, Repr

namespace VersionQuery

/-- The name of the parameter that gives the version. -/
def key : Text := "versionId".toList

/-- A parameter gives the version when it has that name in any ASCII case. -/
def IsVersion (p : Form.Pair) : Prop :=
  Text.Alike p.name key

instance (p : Form.Pair) : Decidable (IsVersion p) :=
  inferInstanceAs (Decidable (Text.Alike _ _))

/-- Takes a query apart. -/
def split (query : Text) : VersionQuery where
  version := (((Form.read query).find? (IsVersion ·)).map (·.value)).getD []
  params := Form.write ((Form.read query).filter (¬IsVersion ·))

/-- The query with these parts: the version comes last, and an empty one is left out. -/
def join (q : VersionQuery) : Text :=
  if q.version = [] then q.params else Form.append q.params ⟨key, q.version⟩

end VersionQuery

end BucketUrl
