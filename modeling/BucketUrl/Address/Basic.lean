/-
BucketUrl/Address/Basic.lean

Addresses of an object, a bucket or a whole service on S3 or a compatible store.
-/
import BucketUrl.Text.Basic

namespace BucketUrl

/-- What a URL addresses.  A part that is absent is empty. -/
structure Address where
  /-- The scheme as it is written. -/
  scheme : Text
  /-- The host with its port, in lower case. -/
  host : Text
  /-- The host without the bucket; empty where the scheme needs no host. -/
  endpoint : Text := []
  /-- The bucket. -/
  bucket : Text := []
  /-- The key of the object. -/
  key : Text := []
  /-- The version of the object. -/
  version : Text := []
  /-- The region that an Amazon host names. -/
  region : Text := []
  /-- The other parameters of the query, in form encoding. -/
  params : Text := []
  /-- Whether the bucket is part of the path and not of the host. -/
  pathStyle : Bool := false
  /-- Whether an Amazon host answers under both versions of the Internet protocol. -/
  dualStack : Bool := false
deriving DecidableEq, Repr

namespace Address

/-! ### Kinds -/

/-- The level of what is addressed. -/
inductive Kind where
  /-- A whole service. -/
  | service
  /-- A bucket. -/
  | bucket
  /-- An object. -/
  | object
deriving DecidableEq, Repr

/-- The name of the level. -/
def Kind.name : Kind → Text
  | .service => "service".toList
  | .bucket => "bucket".toList
  | .object => "object".toList

/-- The level of an address: a key makes it an object only where there is a bucket. -/
def kind (a : Address) : Kind :=
  if a.bucket = [] then .service else if a.key = [] then .bucket else .object

theorem kind_eq_service_iff {a : Address} : a.kind = .service ↔ a.bucket = [] := by
  rw [kind]
  split
  · next hbucket => exact iff_of_true rfl hbucket
  · next hbucket =>
    refine iff_of_false (fun h => ?_) hbucket
    split at h
    · cases h
    · cases h

/-- The address has a host and no bucket. -/
def IsService (a : Address) : Prop :=
  a.host ≠ [] ∧ a.bucket = []

instance (a : Address) : Decidable a.IsService :=
  inferInstanceAs (Decidable (_ ∧ _))

/-- The address has a bucket and no key. -/
def IsBucket (a : Address) : Prop :=
  a.bucket ≠ [] ∧ a.key = []

instance (a : Address) : Decidable a.IsBucket :=
  inferInstanceAs (Decidable (_ ∧ _))

/-- The address has a key. -/
def IsObject (a : Address) : Prop :=
  a.key ≠ []

instance (a : Address) : Decidable a.IsObject :=
  inferInstanceAs (Decidable (_ ≠ _))

/-- The address has a key that ends in a slash. -/
def IsDirectory (a : Address) : Prop :=
  a.IsObject ∧ a.key.getLast? = some '/'

instance (a : Address) : Decidable a.IsDirectory :=
  inferInstanceAs (Decidable (_ ∧ _))

end Address

end BucketUrl
