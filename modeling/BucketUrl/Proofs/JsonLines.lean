/-
BucketUrl/Proofs/JsonLines.lean

The JSON lines of the inspector, read back.

An object is written on one line whatever is in its strings, and reading undoes writing.  So the
output is taken apart into one line for each URL, a line says all that there is to say about its
URL (`IsReport`), and the URLs that are counted as rejected are those whose line has an error.

Main result: `json_lines`.
-/
import BucketUrl.Json.Lemmas
import BucketUrl.Proofs.OutputLines
import Mathlib.Data.List.Forall2

namespace BucketUrl

open Text

/-! ### Reading an inspection back -/

/-- The address whose parts an object gives. -/
def Json.address? (parts : Json) : Option Address := do
  return {
    scheme := ← parts.text? "scheme".toList
    host := ← parts.text? "host".toList
    endpoint := ← parts.text? "endpoint".toList
    bucket := ← parts.text? "bucketName".toList
    key := ← parts.text? "objectKey".toList
    version := ← parts.text? "version".toList
    region := ← parts.text? "region".toList
    params := ← parts.text? "unparsedParams".toList
    pathStyle := ← parts.flag? "isPathStyle".toList
    dualStack := ← parts.flag? "isDualStack".toList }

/-- The object gives the address, with its level and its canonical URL. -/
structure IsParts (a : Address) (parts : Json) : Prop where
  /-- No two members share a name. -/
  names : parts.names.Nodup
  /-- The address can be read back. -/
  address : parts.address? = some a
  /-- There is its level. -/
  kind : parts.text? "kind".toList = some a.kind.name
  /-- There is its canonical URL. -/
  canonical : parts.text? "canonical".toList = some a.canonical

/-- The object says what there is to say about the URL. -/
structure IsReport (url : Text) (report : Json) : Prop where
  /-- No two members share a name. -/
  names : report.names.Nodup
  /-- There is the URL. -/
  given : report.text? "url".toList = some url
  /-- There is the verdict of recognition. -/
  verdict : report.flag? "isS3".toList = some (Text.isS3 url)
  /-- A URL with an address has its parts and no error. -/
  parts : ∀ a, Address.parse url = .ok a → report.member? "error".toList = none ∧
    ∃ parts, report.member? "parts".toList = some parts ∧ IsParts a parts
  /-- A URL without one has an error and no parts. -/
  error : ∀ e, Address.parse url = .error e →
    report.text? "error".toList = some e.message ∧ report.member? "parts".toList = none

namespace Inspection

theorem isParts_addressJson (a : Address) : IsParts a (addressJson a) where
  names := by
    show List.Nodup ["scheme".toList, "host".toList, "endpoint".toList, "bucketName".toList,
      "objectKey".toList, "version".toList, "region".toList, "unparsedParams".toList,
      "isPathStyle".toList, "isDualStack".toList, "kind".toList, "canonical".toList]
    decide +kernel
  address := rfl
  kind := rfl
  canonical := rfl

theorem isReport_json (url : Text) : IsReport url (ofUrl url).json where
  names := by
    show List.Nodup ["url".toList, "isS3".toList, (resultMember (Address.parse url)).1]
    cases Address.parse url with
    | ok a =>
      show List.Nodup ["url".toList, "isS3".toList, "parts".toList]
      decide
    | error e =>
      show List.Nodup ["url".toList, "isS3".toList, "error".toList]
      decide
  given := rfl
  verdict := rfl
  parts a hparse := by
    rw [json, ofUrl, hparse]
    exact ⟨rfl, addressJson a, rfl, isParts_addressJson a⟩
  error e hparse := by
    rw [json, ofUrl, hparse]
    exact ⟨rfl, rfl⟩

end Inspection

/-! ### The lines -/

/-- The line is an object with an error. -/
def HasError (line : Text) : Prop :=
  ∃ report, Json.read line = some report ∧ "error".toList ∈ report.names

instance (line : Text) : Decidable (HasError line) :=
  decidable_of_iff ((Json.read line).any (fun report => "error".toList ∈ report.names) = true) <| by
    rw [Option.any_eq_true]
    simp only [HasError, decide_eq_true_eq]

theorem exists_hasError_iff (lines : List Text) :
    (∃ line ∈ lines, HasError line) ↔ 0 < lines.countP (HasError ·) := by
  rw [List.countP_pos_iff]
  simp only [decide_eq_true_eq]

namespace Inspector

theorem read_line_json (url : Text) :
    Json.read (line .json (.ofUrl url)) = some (Inspection.ofUrl url).json :=
  Json.read_render _

/-- The line for a URL has an error exactly if the URL has no address. -/
theorem hasError_line_iff (url : Text) :
    HasError (line .json (.ofUrl url)) ↔ (Inspection.ofUrl url).accepted = false := by
  have hnames : (Inspection.ofUrl url).json.names
      = ["url".toList, "isS3".toList, (Inspection.resultMember (Address.parse url)).1] := rfl
  have herror : HasError (line .json (.ofUrl url)) ↔
      "error".toList ∈ (Inspection.ofUrl url).json.names := by
    simp only [HasError, read_line_json, Option.some.injEq, exists_eq_left']
  have hresult : (Inspection.ofUrl url).result = Address.parse url := rfl
  rw [herror, hnames, Inspection.accepted, hresult]
  cases Address.parse url with
  | ok a =>
    show "error".toList ∈ ["url".toList, "isS3".toList, "parts".toList] ↔ true = false
    decide
  | error e =>
    show "error".toList ∈ ["url".toList, "isS3".toList, "error".toList] ↔ false = false
    decide

/-- The URLs that are rejected are counted by the errors in their lines. -/
theorem rejected_eq_countP (urls : List Text) :
    rejected urls = (urls.map fun url => line .json (.ofUrl url)).countP (HasError ·) := by
  rw [rejected, List.countP_map]
  refine List.countP_congr fun url _ => ?_
  simp [hasError_line_iff]

/-! ### The run -/

variable {causes? : Text → Option Text} {env : Environment} {settings : Settings}
  {urls : List Text}

/-- The run gets as far as the URLs: the settings are in order, the log takes their filter or the
environment has one, and there is a URL. -/
structure Starts (causes? : Text → Option Text) (env : Environment) (settings : Settings)
    (urls : List Text) : Prop where
  read : Settings.ofEnvironment env = .ok settings
  log : env.logFilter.isSome = true ∨ causes? settings.logLevel = none
  given : urls ≠ []

theorem startLog_eq_ok_iff :
    startLog causes? env settings = .ok () ↔
      env.logFilter.isSome = true ∨ causes? settings.logLevel = none := by
  rw [startLog]
  by_cases hfilter : env.logFilter.isSome = true
  · simp [hfilter]
  · cases hcauses : causes? settings.logLevel with
    | none => simp
    | some causes => simp [hfilter]

/-- A run that gets as far as the URLs inspects them. -/
theorem run_eq_inspect (h : Starts causes? env settings urls) :
    run causes? env urls = inspect settings urls := by
  have hlog : startLog causes? env settings = .ok () := startLog_eq_ok_iff.2 h.log
  simp only [run, h.read, hlog, if_neg h.given]

/-- A run that does not get so far fails. -/
theorem exists_run_eq_failed (h : ∀ settings, ¬Starts causes? env settings urls) :
    ∃ failure, run causes? env urls = .failed failure := by
  rw [run]
  cases hsettings : Settings.ofEnvironment env with
  | error fault => exact ⟨_, rfl⟩
  | ok settings =>
    dsimp only
    cases hlog : startLog causes? env settings with
    | error failure => exact ⟨failure, rfl⟩
    | ok started =>
      have hurls : urls = [] := by
        by_contra hne
        exact h settings ⟨hsettings, startLog_eq_ok_iff.1 hlog, hne⟩
      exact ⟨.noUrl, if_pos hurls⟩

theorem exitCode_inspect (settings : Settings) (urls : List Text) :
    (inspect settings urls).exitCode = 1 ↔ settings.strict = true ∧ 0 < rejected urls := by
  show (if settings.strict ∧ 0 < rejected urls then 1 else 0) = 1 ↔ _
  split
  · next h => simp [h]
  · next h => simp [h]

/-- **The output in JSON has one line for each URL**, in order, and the line says what there is to
say about the URL.  The URLs that are rejected are as many as the lines with an error.  Whatever the
log takes for a filter, a run that gets as far as the URLs writes these lines and has the exit code
1 exactly if it is strict and there is a line with an error; any other run writes nothing and has
that exit code too. -/
theorem json_lines (urls : List Text) :
    ∃ lines : List Text,
      (output .json urls).splitOn '\n' = lines ++ [[]] ∧
      List.Forall₂ (fun url line => ∃ report, Json.read line = some report ∧ IsReport url report)
        urls lines ∧
      rejected urls = lines.countP (HasError ·) ∧
      ∀ (causes? : Text → Option Text) (env : Environment),
        (∀ settings, Starts causes? env settings urls → settings.output = .json →
          (run causes? env urls).stdout = output .json urls ∧
          ((run causes? env urls).exitCode = 1 ↔
            settings.strict = true ∧ ∃ line ∈ lines, HasError line)) ∧
        ((∀ settings, ¬Starts causes? env settings urls) →
          (run causes? env urls).stdout = [] ∧ (run causes? env urls).exitCode = 1) := by
  refine ⟨urls.map fun url => line .json (.ofUrl url), ?_, ?_, rejected_eq_countP urls, ?_⟩
  · exact (output_lines_iff .json urls).2 fun url _ => Json.lineFeed_not_mem_render _
  · rw [List.forall₂_map_right_iff, List.forall₂_same]
    exact fun url _ => ⟨_, read_line_json url, Inspection.isReport_json url⟩
  · intro causes? env
    constructor
    · intro settings hstarts hform
      rw [run_eq_inspect hstarts]
      refine ⟨?_, ?_⟩
      · rw [inspect, hform]
      · rw [exitCode_inspect, rejected_eq_countP, exists_hasError_iff]
    · intro hfails
      obtain ⟨failure, hrun⟩ := exists_run_eq_failed hfails
      rw [hrun]
      exact ⟨rfl, rfl⟩

/-- A strict run on two URLs fails for the line of the second one. -/
theorem strict_run_of_rejected :
    ∃ (causes? : Text → Option Text) (env : Environment) (settings : Settings) (lines : List Text),
      Starts causes? env settings ["s3://b/k".toList, "mailto".toList] ∧ settings.output = .json ∧
        lines.countP (HasError ·) = 1 ∧
          (run causes? env ["s3://b/k".toList, "mailto".toList]).exitCode = 1 := by
  obtain ⟨lines, -, -, hcount, hrun⟩ := json_lines ["s3://b/k".toList, "mailto".toList]
  have hone : lines.countP (HasError ·) = 1 := by
    rw [← hcount]
    decide +kernel
  have hstarts : Starts (fun filter => if filter = "off".toList then none else some [])
      { logLevel := some "off".toList, output := some "json".toList, strict := some ['1'] }
      { logLevel := "off".toList, output := .json, strict := true }
      ["s3://b/k".toList, "mailto".toList] :=
    ⟨rfl, .inr (if_pos rfl), List.cons_ne_nil _ _⟩
  have hexit := ((hrun _ _).1 _ hstarts rfl).2
  refine ⟨_, _, _, lines, hstarts, rfl, hone, hexit.2 ⟨rfl, ?_⟩⟩
  rw [exists_hasError_iff, hone]
  exact Nat.one_pos

/-- The filter of the environment is taken in place of one that the log refuses. -/
example : (run (fun _ => some "why".toList) {} ["s3://b".toList]).failure
      = some (.badLogFilter "warn".toList "why".toList) ∧
    (run (fun _ => some "why".toList) { logFilter := some [] } ["s3://b".toList]).failure
      = none := by
  decide +kernel

end Inspector

end BucketUrl
