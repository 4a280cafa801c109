/-
BucketUrl/Trail/Event.lean

The events that tell how a URL was recognised or read as an address, and their wording.
-/
import BucketUrl.Address.Layout

namespace BucketUrl

/-- A step of recognition or of reading. -/
inductive Event where
  /-- The rules were asked about a host. -/
  | found (host : Text) (finding : Finding)
  /-- A layout was chosen for a host. -/
  | laidOut (host : Text) (layout : Layout)
  /-- The URL was rejected. -/
  | rejected (reason : Rejection)
  /-- The URL was read. -/
  | parsed (address : Address)
deriving DecidableEq, Repr

namespace Event

/-! ### Wording -/

/-- The value of a field of an event. -/
inductive Field where
  /-- A text. -/
  | text (s : Text)
  /-- A truth value. -/
  | flag (b : Bool)
deriving DecidableEq, Repr

/-- The message for a finding. -/
def findingMessage : Finding → Text
  | .settled _ _ => "S3 URL detection settled".toList
  | .unsettled => "no detection rule recognized the URL".toList

/-- The fields for a finding about a host. -/
def findingFields (host : Text) : Finding → List (Text × Field)
  | .settled rule accepted =>
    [("rule".toList, .text rule.name), ("verdict".toList, .flag accepted),
     ("host".toList, .text host)]
  | .unsettled => [("host".toList, .text host)]

/-- The message for a layout. -/
def layoutMessage : Layout → Text
  | .amazon parts =>
    if parts.bucket?.isSome then "AWS virtual-hosted-style URL".toList
    else "AWS path-style URL".toList
  | .s3Scheme => "s3 scheme URL".toList
  | .path => "S3-compatible path-style URL".toList
  | .host _ _ => "S3-compatible virtual-hosted-style URL".toList
  | .service => "S3-compatible service endpoint".toList

/-- The message for a rejection. -/
def rejectionMessage : Rejection → Text
  | .notUri _ _ => "rejected URL that is not a valid URI".toList
  | .undecodable _ _ => "rejected URL with non UTF-8 path".toList
  | .unsupportedScheme _ => "rejected URL with unsupported scheme".toList
  | .emptyHost => "rejected URL with empty host".toList
  | .unrecognized _ finding => findingMessage finding
  | .emptyBucket _ _ => "rejected path-style URL with empty bucket".toList

/-- The fields for a rejection. -/
def rejectionFields : Rejection → List (Text × Field)
  | .notUri url fault => [("url".toList, .text url), ("error".toList, .text fault.message)]
  | .undecodable path fault =>
    [("path".toList, .text path), ("error".toList, .text fault.message)]
  | .unsupportedScheme scheme => [("scheme".toList, .text scheme)]
  | .emptyHost => []
  | .unrecognized host finding => findingFields host finding
  | .emptyBucket host key => [("host".toList, .text host), ("key".toList, .text key)]

/-- The message of an event. -/
def message : Event → Text
  | .found _ finding => findingMessage finding
  | .laidOut _ layout => layoutMessage layout
  | .rejected reason => rejectionMessage reason
  | .parsed _ => "parsed S3 URL".toList

/-- The fields of an event, in order, each with its name. -/
def fields : Event → List (Text × Field)
  | .found host finding => findingFields host finding
  | .laidOut host _ => [("host".toList, .text host)]
  | .rejected reason => rejectionFields reason
  | .parsed a =>
    [("host".toList, .text a.host), ("bucket".toList, .text a.bucket), ("key".toList, .text a.key),
     ("path_style".toList, .flag a.pathStyle)]

end Event

end BucketUrl
