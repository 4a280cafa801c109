/-
BucketUrl/Inspection.lean

What there is to say about one URL: whether it is recognised, and its address or the error of
reading one.  An inspection is written as one line of words or as one JSON object.
-/
import BucketUrl.Address.Parser
import BucketUrl.Address.Printer
import BucketUrl.Json

namespace BucketUrl

/-- What there is to say about a URL. -/
structure Inspection where
  /-- The URL. -/
  url : Text
  /-- Whether it is recognised. -/
  isS3 : Bool
  /-- Its address, or the error. -/
  result : Except Address.Error Address
deriving Repr

namespace Inspection

/-- Inspects a URL. -/
def ofUrl (url : Text) : Inspection where
  url := url
  isS3 := Text.isS3 url
  result := Address.parse url

/-- Whether the URL has an address. -/
def accepted (i : Inspection) : Bool :=
  match i.result with
  | .ok _ => true
  | .error _ => false

/-! ### Words -/

/-- A name with a value, as one word. -/
def word (name : String) (value : Text) : Text :=
  name.toList ++ '=' :: value

/-- A name with a value as one word, or no word for an empty value. -/
def optionalWord (name : String) (value : Text) : List Text :=
  if value = [] then [] else [word name value]

/-- The word if the flag is set. -/
def flagWord (name : String) (flag : Bool) : List Text :=
  if flag then [name.toList] else []

/-- The words for an address. -/
def addressWords (a : Address) : List Text :=
  [word "kind" a.kind.name] ++ optionalWord "endpoint" a.endpoint ++ optionalWord "bucket" a.bucket
    ++ optionalWord "key" a.key ++ optionalWord "region" a.region
    ++ optionalWord "version" a.version ++ optionalWord "params" a.params
    ++ flagWord "path-style" a.pathStyle ++ flagWord "dual-stack" a.dualStack
    ++ [word "canonical" a.canonical]

/-- The words for a result. -/
def resultWords : Except Address.Error Address → List Text
  | .ok a => addressWords a
  | .error e => [word "error" ('\x22' :: e.message ++ ['\x22'])]

/-- The inspection as one line of words. -/
def text (i : Inspection) : Text :=
  List.intercalate [' ']
    (i.url :: word "s3" (if i.isS3 then "true".toList else "false".toList) :: resultWords i.result)

/-! ### JSON -/

/-- The object for an address. -/
def addressJson (a : Address) : Json :=
  .object
    [("scheme".toList, .string a.scheme),
     ("host".toList, .string a.host),
     ("endpoint".toList, .string a.endpoint),
     ("bucketName".toList, .string a.bucket),
     ("objectKey".toList, .string a.key),
     ("version".toList, .string a.version),
     ("region".toList, .string a.region),
     ("unparsedParams".toList, .string a.params),
     ("isPathStyle".toList, .bool a.pathStyle),
     ("isDualStack".toList, .bool a.dualStack),
     ("kind".toList, .string a.kind.name),
     ("canonical".toList, .string a.canonical)]

/-- The member for a result. -/
def resultMember : Except Address.Error Address → Text × Json
  | .ok a => ("parts".toList, addressJson a)
  | .error e => ("error".toList, .string e.message)

/-- The inspection as a JSON object. -/
def json (i : Inspection) : Json :=
  .object [("url".toList, .string i.url), ("isS3".toList, .bool i.isS3), resultMember i.result]

end Inspection

end BucketUrl
