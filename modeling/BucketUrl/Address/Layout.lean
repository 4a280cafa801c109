/-
BucketUrl/Address/Layout.lean

The layouts of a URL: where its bucket, its key and its endpoint are to be found.

An Amazon host decides the layout by itself, whatever the scheme.  All other locations must first
be recognised; then the scheme decides, and after it the path.
-/
import BucketUrl.Address.Basic
import BucketUrl.Address.Error
import BucketUrl.Text.Lowercase

namespace BucketUrl

/-- Where bucket, key and endpoint are to be found. -/
inductive Layout where
  /-- An Amazon host.  If it begins with a bucket, the path is the key; else the path holds both. -/
  | amazon (parts : AmazonHost)
  /-- The host is the bucket and the path is the key. -/
  | s3Scheme
  /-- Another host; the path holds bucket and key. -/
  | path
  /-- Another host, which begins with a bucket, before an endpoint; the path is empty. -/
  | host (bucket endpoint : Text)
  /-- Another host without a bucket; the path is empty. -/
  | service
deriving DecidableEq, Repr

namespace Layout

/-! ### The choice of a layout -/

/-- The layout of a host that is no Amazon host, under an empty path. -/
def ofBareHost (l : Location) : Layout :=
  match Text.cut? '.' l.hostName, Text.cut? '.' l.host with
  | some (bucket, _), some (_, endpoint) =>
    if BucketName.Plausible bucket then .host bucket endpoint else .service
  | _, _ => .service

/-- The layout of a recognised location whose host is no Amazon host. -/
def ofOtherHost (scheme : Scheme) (l : Location) : Layout :=
  if scheme = .s3 then .s3Scheme else if l.path ≠ [] then .path else ofBareHost l

/-- The layout of a location, or why there is none. -/
def ofLocation (l : Location) : Except Address.Error Layout :=
  match l.scheme? with
  | none => .error (.invalidUrl (.unsupportedScheme l.scheme))
  | some scheme =>
    if l.host = [] then .error (.invalidUrl .emptyHost)
    else match AmazonHost.ofHost? l.host with
      | some parts => .ok (.amazon parts)
      | none =>
        if l.finding.accepted then .ok (ofOtherHost scheme l)
        else .error (.invalidUrl (.unrecognized l.host l.finding))

/-! ### Bucket, key and endpoint -/

/-- The parts of a path before and after its first slash. -/
def splitPath (path : Text) : Text × Text :=
  (Text.cut? '/' path).getD (path, [])

/-- The address of a location without the query. -/
def bare (l : Location) : Address where
  scheme := l.scheme
  host := l.host

/-- The address whose bucket and key are in the path.  A key needs a bucket. -/
def fromPath (l : Location) : Except Address.Error Address :=
  let (bucket, key) := splitPath l.path
  if bucket = [] ∧ key ≠ [] then .error (.invalidUrl (.emptyBucket l.host key))
  else .ok { bare l with
    endpoint := l.host
    bucket := Text.lowercase bucket
    key := key
    pathStyle := true }

/-- The address with what an Amazon host says about itself. -/
def onAmazon (parts : AmazonHost) (a : Address) : Address :=
  { a with region := parts.region?.getD [], dualStack := parts.isDualStack }

/-- The address whose bucket stands at the beginning of an Amazon host, before the endpoint. -/
def fromAmazonHost (parts : AmazonHost) (bucket : Text) (l : Location) : Address :=
  { bare l with
    endpoint := (Text.after? parts.bucketPart l.host).getD l.host
    bucket := bucket
    key := l.path }

/-- The address of a location in this layout, without the query. -/
def address (l : Location) : Layout → Except Address.Error Address
  | .amazon parts =>
    match parts.bucket? with
    | some bucket => .ok (onAmazon parts (fromAmazonHost parts bucket l))
    | none => (fromPath l).map (onAmazon parts)
  | .s3Scheme => .ok { bare l with bucket := l.host, key := l.path }
  | .path => fromPath l
  | .host bucket endpoint => .ok { bare l with endpoint := endpoint, bucket := bucket }
  | .service => .ok { bare l with endpoint := l.host }

end Layout

end BucketUrl
