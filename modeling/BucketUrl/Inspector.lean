/-
BucketUrl/Inspector.lean

The run of the inspector on a list of URLs: one line for each URL, in order, and an exit code.

Nothing is inspected when the settings are wrong, when the log filter is wrong, or when no URL is
given; these are checked in this order.  Which texts are log filters is up to the log, and here a
function that is given says what is wrong with a text, if anything is.
-/
import BucketUrl.Inspection
import BucketUrl.Settings

namespace BucketUrl.Inspector

/-! ### Failures -/

/-- Why a run fails before it inspects anything. -/
inductive Failure where
  /-- The settings are wrong. -/
  | badSettings (fault : Settings.Fault)
  /-- The log filter is wrong, and the log says why. -/
  | badLogFilter (filter causes : Text)
  /-- There is no URL. -/
  | noUrl
deriving DecidableEq, Repr

/-- What a user is told. -/
def Failure.message : Failure → Text
  | .badSettings fault => fault.message
  | .badLogFilter filter causes =>
    "invalid log level filter: ".toList ++ filter ++ "\n\nCaused by:\n".toList ++ causes
  | .noUrl => "usage: s3url-inspect <url>...".toList

/-! ### Output -/

/-- An inspection in the given form, without the end of the line. -/
def line : OutputForm → Inspection → Text
  | .text, i => i.text
  | .json, i => i.json.render

/-- The lines for a list of URLs. -/
def output (form : OutputForm) (urls : List Text) : Text :=
  urls.flatMap fun url => line form (.ofUrl url) ++ ['\n']

/-- The number of URLs without an address. -/
def rejected (urls : List Text) : Nat :=
  urls.countP fun url => !(Inspection.ofUrl url).accepted

/-! ### The run -/

/-- What a run leaves behind. -/
structure Outcome where
  /-- The exit code. -/
  exitCode : Nat
  /-- What was written. -/
  stdout : Text
  /-- Why nothing was inspected, if nothing was. -/
  failure : Option Failure := none
deriving DecidableEq, Repr

/-- The outcome of a run that fails before it inspects anything. -/
def Outcome.failed (failure : Failure) : Outcome where
  exitCode := 1
  stdout := []
  failure := some failure

/-- Inspects the URLs. -/
def inspect (settings : Settings) (urls : List Text) : Outcome where
  exitCode := if settings.strict ∧ 0 < rejected urls then 1 else 0
  stdout := output settings.output urls

/-- Sets up the log.  A filter of the environment is taken whatever is in it, for what is wrong
there is left out; only the one of the settings can be refused. -/
def startLog (causes? : Text → Option Text) (env : Environment) (settings : Settings) :
    Except Failure Unit :=
  if env.logFilter.isSome then .ok ()
  else match causes? settings.logLevel with
    | none => .ok ()
    | some causes => .error (.badLogFilter settings.logLevel causes)

/-- Runs the inspector on the URLs, in an environment. -/
def run (causes? : Text → Option Text) (env : Environment) (urls : List Text) : Outcome :=
  match Settings.ofEnvironment env with
  | .error fault => .failed (.badSettings fault)
  | .ok settings =>
    match startLog causes? env settings with
    | .error failure => .failed failure
    | .ok () => if urls = [] then .failed .noUrl else inspect settings urls

end BucketUrl.Inspector
