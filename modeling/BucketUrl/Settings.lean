/-
BucketUrl/Settings.lean

The settings of the inspector, which come from variables of the environment.
-/
import BucketUrl.Text.Basic

namespace BucketUrl

/-! ### Environment -/

/-- The variables that are read, each absent if it is not set or its value is no text. -/
structure Environment where
  /-- The variable `LOG_LEVEL`. -/
  logLevel : Option Text := none
  /-- The variable `RUST_LOG`, a filter for the log that is used in place of the level. -/
  logFilter : Option Text := none
  /-- The variable `S3URL_OUTPUT`. -/
  output : Option Text := none
  /-- The variable `S3URL_STRICT`. -/
  strict : Option Text := none
deriving DecidableEq, Repr

/-! ### Settings -/

/-- The form of the output. -/
inductive OutputForm where
  /-- A line of words for each URL. -/
  | text
  /-- A JSON object on a line for each URL. -/
  | json
deriving DecidableEq, Repr

namespace OutputForm

/-- The name of the form. -/
def name : OutputForm → Text
  | .text => "text".toList
  | .json => "json".toList

/-- The form with this name, in any ASCII case. -/
def ofName? (s : Text) : Option OutputForm :=
  [text, json].find? fun form => Text.Alike s form.name

end OutputForm

/-- The settings of the inspector. -/
structure Settings where
  /-- The filter for the log, unless the environment has one. -/
  logLevel : Text := "warn".toList
  /-- The form of the output. -/
  output : OutputForm := .text
  /-- Whether a rejected URL makes the whole run fail. -/
  strict : Bool := false
deriving DecidableEq, Repr

namespace Settings

/-- The text means yes: it is `1`, or `true` in any ASCII case. -/
def IsYes (s : Text) : Prop :=
  s = ['1'] ∨ Text.Alike s "true".toList

instance (s : Text) : Decidable (IsYes s) :=
  inferInstanceAs (Decidable (_ ∨ _))

/-- What is wrong with an environment. -/
inductive Fault where
  /-- It asks for a form of output that does not exist. -/
  | unknownOutput (name : Text)
deriving DecidableEq, Repr

/-- A description of the fault. -/
def Fault.message : Fault → Text
  | .unknownOutput name =>
    "unknown output format: ".toList ++ name ++ " (expected `text` or `json`)".toList

/-- The form of the output that a variable asks for, words if it is not set. -/
def readOutput : Option Text → Except Fault OutputForm
  | none => .ok .text
  | some name =>
    match OutputForm.ofName? name with
    | some form => .ok form
    | none => .error (.unknownOutput name)

/-- The settings for an environment, or what is wrong with it. -/
def ofEnvironment (env : Environment) : Except Fault Settings :=
  (readOutput env.output).map fun output =>
    { logLevel := env.logLevel.getD "warn".toList
      output := output
      strict := env.strict.any (IsYes ·) }

end Settings

end BucketUrl
