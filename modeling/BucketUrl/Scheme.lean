/-
BucketUrl/Scheme.lean

The three schemes under which a bucket can be addressed.
-/
import BucketUrl.Text.Basic

namespace BucketUrl

/-- A scheme under which a bucket can be addressed. -/
inductive Scheme where
  /-- Plain HTTP. -/
  | http
  /-- HTTP over TLS. -/
  | https
  /-- The scheme that names a bucket where other schemes have a host. -/
  | s3
deriving DecidableEq, Repr

namespace Scheme

/-- The scheme in lower case. -/
def text : Scheme → Text
  | .http => "http".toList
  | .https => "https".toList
  | .s3 => "s3".toList

/-- The scheme that a text stands for, in any ASCII case. -/
def ofText? (s : Text) : Option Scheme :=
  [http, https, s3].find? fun scheme => Text.Alike s scheme.text

/-- Only the letters of a scheme count, not their case. -/
theorem ofText?_congr {s t : Text} (h : Text.Alike s t) : ofText? s = ofText? t := by
  have hsame : (fun scheme : Scheme => decide (Text.Alike s scheme.text))
      = fun scheme => decide (Text.Alike t scheme.text) :=
    funext fun scheme => decide_eq_decide.2 (by rw [Text.Alike, Text.Alike, h])
  rw [ofText?, ofText?, hsame]

end Scheme

end BucketUrl
