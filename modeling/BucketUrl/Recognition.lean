/-
BucketUrl/Recognition.lean

Recognising a URI that addresses S3 or a compatible store.

Six rules are asked in order.  Each accepts, rejects or passes; the first that does not pass
settles the matter, and a location on which all pass is not recognised.
-/
import BucketUrl.AmazonHost
import BucketUrl.BucketName
import BucketUrl.Location
import BucketUrl.Uri.Parser

namespace BucketUrl

/-! ### Rules -/

/-- A rule of recognition. -/
inductive Rule where
  /-- The scheme that names a bucket is accepted. -/
  | s3Scheme
  /-- Any other scheme but HTTP, with or without TLS, is rejected. -/
  | httpScheme
  /-- An empty host is rejected. -/
  | emptyHost
  /-- A host of Amazon S3 is accepted. -/
  | amazonHost
  /-- A path that begins with a bucket name is accepted. -/
  | pathBucket
  /-- A host that begins with a bucket name and a dot is accepted, unless it belongs to a store of
  another kind. -/
  | hostBucket
deriving DecidableEq, Repr

namespace Rule

/-- The rules in the order in which they are asked. -/
def all : List Rule :=
  [s3Scheme, httpScheme, emptyHost, amazonHost, pathBucket, hostBucket]

/-- The name of the rule in a record of events. -/
def name : Rule → Text
  | .s3Scheme => "s3_scheme".toList
  | .httpScheme => "http_scheme".toList
  | .emptyHost => "empty_host".toList
  | .amazonHost => "aws_host".toList
  | .pathBucket => "path_style_bucket".toList
  | .hostBucket => "virtual_host_bucket".toList

/-- The domains of Azure storage, which is not compatible with S3. -/
def azureDomains : List Text :=
  [".blob.core.windows.net".toList, ".file.core.windows.net".toList,
   ".dfs.core.windows.net".toList]

/-- The text without a dot at its end. -/
def dropRootDot (s : Text) : Text :=
  if s.getLast? = some '.' then s.dropLast else s

/-- A host belongs to Azure storage; a dot at its end does not count. -/
def IsAzureHost (host : Text) : Prop :=
  ∃ domain ∈ azureDomains, domain <:+ dropRootDot host

instance (host : Text) : Decidable (IsAzureHost host) :=
  inferInstanceAs (Decidable (∃ domain ∈ azureDomains, domain <:+ dropRootDot host))

/-- What the rule says to a location: accept, reject, or nothing. -/
def verdict? (l : Location) : Rule → Option Bool
  | .s3Scheme => if l.scheme? = some .s3 then some true else none
  | .httpScheme =>
    if l.scheme? = some .http ∨ l.scheme? = some .https then none else some false
  | .emptyHost => if l.host = [] then some false else none
  | .amazonHost => if (AmazonHost.ofHost? l.host).isSome then some true else none
  | .pathBucket => if BucketName.Plausible l.firstSegment then some true else none
  | .hostBucket =>
    match Text.cut? '.' l.hostName with
    | none => none
    | some (label, _) =>
      if IsAzureHost l.hostName then some false
      else if BucketName.Plausible label then some true
      else none

end Rule

/-! ### Findings -/

/-- What the rules say together. -/
inductive Finding where
  /-- The rule that settled the matter, and whether it accepted. -/
  | settled (rule : Rule) (accepted : Bool)
  /-- All rules passed. -/
  | unsettled
deriving DecidableEq, Repr

/-- Whether the location is accepted. -/
def Finding.accepted : Finding → Bool
  | .settled _ accepted => accepted
  | .unsettled => false

/-- Asks the given rules in order. -/
def Location.ask (l : Location) : List Rule → Finding
  | [] => .unsettled
  | rule :: rules =>
    match rule.verdict? l with
    | some accepted => .settled rule accepted
    | none => l.ask rules

/-- Asks all rules. -/
def Location.finding (l : Location) : Finding :=
  l.ask Rule.all

/-! ### Recognition -/

/-- Whether a URI addresses S3 or a compatible store. -/
def Uri.isS3 (u : Uri) : Bool :=
  match Location.ofUri u with
  | .ok l => l.finding.accepted
  | .error _ => false

/-- Whether a text is a URI that addresses S3 or a compatible store. -/
def Text.isS3 (s : Text) : Bool :=
  match Uri.parse s with
  | .ok u => u.isS3
  | .error _ => false

end BucketUrl
