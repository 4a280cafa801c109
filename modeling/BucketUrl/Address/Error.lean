/-
BucketUrl/Address/Error.lean

The errors of reading an address and of rebuilding its URL, and how they are worded.

There are two.  Whatever is wrong with a URL, a user is told the same; the reason is kept for the
log.  An address that cannot be rebuilt is reported with what is wrong with its canonical URL.
-/
import BucketUrl.Recognition

namespace BucketUrl

/-! ### Rejections -/

/-- Why something is no address. -/
inductive Rejection where
  /-- The text is no URI. -/
  | notUri (url : Text) (fault : Uri.Fault)
  /-- The path, once decoded, is no text. -/
  | undecodable (path : Text) (fault : Utf8.Fault)
  /-- The scheme is none under which buckets are addressed. -/
  | unsupportedScheme (scheme : Text)
  /-- There is no host. -/
  | emptyHost
  /-- The rules of recognition do not accept the URI. -/
  | unrecognized (host : Text) (finding : Finding)
  /-- The path has a key and no bucket. -/
  | emptyBucket (host key : Text)
deriving DecidableEq, Repr

/-! ### Errors -/

namespace Address

/-- What goes wrong with an address. -/
inductive Error where
  /-- Something is no address, for this reason. -/
  | invalidUrl (reason : Rejection)
  /-- The canonical URL of an address is no URI. -/
  | invalidUri (fault : Uri.Fault)
deriving DecidableEq, Repr

namespace Error

/-- What a user is told about something that is no address. -/
def invalidUrlMessage : Text :=
  ("Invalid S3 URL. Supported forms are standard virtual-hosted-style or path-style URLs " ++
    "defined by AWS, e.g. https://bucket.s3.amazonaws.com or https://s3.amazonaws.com/bucket, " ++
    "S3-compatible endpoints such as http://minio.local:9000/bucket, or " ++
    "s3://bucket/key").toList

/-- What a user is told. -/
def message : Error → Text
  | .invalidUrl _ => invalidUrlMessage
  | .invalidUri fault => "invalid URI: ".toList ++ fault.message

end Error

end Address

end BucketUrl
