/-
BucketUrl/AmazonHost.lean

Hosts of Amazon S3, which are recognised by their marker: an optional bucket and a dot, `s3`, a dot
or a hyphen, and two labels with a dot between them.  Anything may follow, but the text
`amazonaws.com` must occur somewhere.

A bucket may itself contain dots and markers.  Where a host can be read in several ways, the
longest bucket wins.
-/
import BucketUrl.HostPort
import BucketUrl.Text.CharSet

namespace BucketUrl

/-- The parts of a host of Amazon S3. -/
structure AmazonHost where
  /-- What stands before the marker and its dot, if anything does. -/
  bucket? : Option Text
  /-- The label behind the marker: a region, `dualstack`, or the beginning of the domain. -/
  near : Text
  /-- The characters of the label after that. -/
  far : Text
deriving DecidableEq, Repr

namespace AmazonHost

/-! ### Reading -/

/-- The characters of the labels behind the marker. -/
def labelChars : CharSet where
  ranges := [(0x2D, 0x2D), (0x30, 0x39), (0x61, 0x7A)]

/-- The longest run of label characters at the beginning of a text. -/
def label (s : Text) : Text :=
  s.takeWhile (· ∈ labelChars)

/-- The two labels that follow a marker. -/
def readLabels (s : Text) : Option (Text × Text) :=
  match s.dropWhile (· ∈ labelChars) with
  | '.' :: rest =>
    if label s ≠ [] ∧ label rest ≠ [] then some (label s, label rest) else none
  | _ => none

/-- The two labels of a text that begins with the marker. -/
def readMarker : Text → Option (Text × Text)
  | 's' :: '3' :: '.' :: s => readLabels s
  | 's' :: '3' :: '-' :: s => readLabels s
  | _ => none

/-- The last dot with a marker behind it: what stands before that dot, and the labels.  No line
feed may stand before the dot. -/
def readLastMarker : Text → Option (Text × Text × Text)
  | [] => none
  | c :: s =>
    if c = '\n' then none
    else match readLastMarker s with
      | some (bucket, labels) => some (c :: bucket, labels)
      | none => if c = '.' then (readMarker s).map fun labels => ([], labels) else none

/-- Reads a text with a bucket, which has at least one character before the dot. -/
def readWithBucket : Text → Option AmazonHost
  | [] => none
  | c :: s =>
    if c = '\n' then none
    else (readLastMarker s).map fun (bucket, near, far) => ⟨some (c :: bucket), near, far⟩

/-- Reads a text without a bucket. -/
def readWithoutBucket (s : Text) : Option AmazonHost :=
  (readMarker s).map fun (near, far) => ⟨none, near, far⟩

/-- Reads a host name, with the longest bucket that is possible. -/
def readName (s : Text) : Option AmazonHost :=
  (readWithBucket s).or (readWithoutBucket s)

/-- The domain that must occur in the host. -/
def domain : Text := "amazonaws.com".toList

/-- Reads a host with an optional port. -/
def ofHost? (host : Text) : Option AmazonHost :=
  if Text.occurs domain (HostPort.name host) then readName (HostPort.name host) else none

/-! ### What the parts say -/

/-- The label of hosts that answer under both versions of the Internet protocol. -/
def dualStackLabel : Text := "dualstack".toList

/-- The label with which the domain begins. -/
def domainLabel : Text := "amazonaws".toList

/-- Whether the host is one of those that answer under both versions of the protocol. -/
def isDualStack (a : AmazonHost) : Bool :=
  a.near = dualStackLabel

/-- The region, if the host names one: the label behind the marker and behind `dualstack`, unless
the domain begins there. -/
def region? (a : AmazonHost) : Option Text :=
  let region := if a.isDualStack then a.far else a.near
  if region = domainLabel then none else some region

/-- The text at the beginning of the host that names the bucket, with its dot; empty if there is
none. -/
def bucketPart (a : AmazonHost) : Text :=
  match a.bucket? with
  | some bucket => bucket ++ ['.']
  | none => []

end AmazonHost

end BucketUrl
