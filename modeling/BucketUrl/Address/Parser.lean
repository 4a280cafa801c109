/-
BucketUrl/Address/Parser.lean

Reading an address from a URI or from text.
-/
import BucketUrl.Address.Layout
import BucketUrl.VersionQuery

namespace BucketUrl.Address

/-- The address with the version and the parameters of a query. -/
def withQuery (query : Text) (a : Address) : Address :=
  { a with
    version := (VersionQuery.split query).version
    params := (VersionQuery.split query).params }

/-- The address of a location, without the query. -/
def ofLocation (l : Location) : Except Error Address :=
  match Layout.ofLocation l with
  | .ok layout => layout.address l
  | .error e => .error e

/-- The address that a URI stands for, or why it stands for none. -/
def ofUri (u : Uri) : Except Error Address :=
  match Location.ofUri u with
  | .ok l => (ofLocation l).map (withQuery (u.query?.getD []))
  | .error fault => .error (.invalidUrl (.undecodable u.path fault))

/-- The address that a text stands for, or why it stands for none. -/
def parse (s : Text) : Except Error Address :=
  match Uri.parse s with
  | .ok u => ofUri u
  | .error fault => .error (.invalidUrl (.notUri s fault))

end BucketUrl.Address
