import Survey.Replay.Options
import Survey.Replay.Failure
import Survey.Logging.Filter
import Survey.Engine.Script
import Survey.Engine.ConfigToml
import Survey.Schema.Json
import Survey.Catalog
import Survey.Host.Files

/-!
# Replaying a script from the command line

The command loads the engine settings (when a file is named), the questionnaire (a schema
file when one exists under that name, else a bundled questionnaire of that id) and the
script (none when no file is named), in that order, stopping at the first that fails. It then
runs the script through an engine and prints, on standard output, the blocks visited, each
recorded total with its outcome, and the summary: a `[section]` header whenever the section
changes, and each question's title with the lines of its answer indented beneath it.

A rejected page prints each of its errors, prefixed by the block, and fails. Log records go to
standard error as they happen, in compact or JSON lines, those the `RUST_LOG` filter allows.
The exit status is 0 on success, 1 on failure and 2 for a command line that is refused.
-/

namespace Survey

namespace Replay

/-- What a run of the command printed, and how it ended. -/
structure Outcome where
  status : Nat
  stdout : String
  stderr : String
  deriving DecidableEq, Repr

/-- How the command shows what differs from run to run: the time stamp of a log line and the
id of a session. -/
structure Presentation where
  stamp : String
  showSession : SessionId → String

/-- The engine settings: those of the file named, or the defaults. -/
def loadConfig (path : Option String) (files : FileView) : Except Failure EngineConfig :=
  match path with
  | none => .ok EngineConfig.default
  | some p =>
    match files.read p with
    | .error r => .error ⟨(ConfigError.unreadable p r.message).message, [r.message]⟩
    | .ok text =>
      match EngineConfig.ofToml text with
      | .ok c => .ok c
      | .error (.invalid detail) => .error ⟨(ConfigError.invalid detail).message, [detail]⟩
      | .error e => .error (.plain e.message)

/-- The causes behind a schema that does not load: the error, and the JSON error under it. -/
def schemaCauses (e : SchemaError) : List String :=
  match e with
  | .json detail => [e.message, detail]
  | _ => [e.message]

/-- The questionnaire: from the schema file of that name when there is one, else bundled. -/
def loadSchema (name : String) (files : FileView) : Except Failure Questionnaire :=
  if files.isFile name then
    match files.read name with
    | .error r => .error ⟨"failed to read schema " ++ name, [r.message]⟩
    | .ok text =>
      match Questionnaire.ofJsonText text with
      | .ok q => .ok q
      | .error e => .error ⟨"invalid schema " ++ name, schemaCauses e⟩
  else
    match Catalog.byId name with
    | some (.ok q) => .ok q
    | some (.error e) => .error ⟨"bundled schema '" ++ name ++ "' failed to load", schemaCauses e⟩
    | none => .error (.plain ("no schema file or bundled questionnaire named '" ++ name ++ "'"))

/-- The script: from the file named, or empty. -/
def loadScript (path : Option String) (files : FileView) : Except Failure Script :=
  match path with
  | none => .ok Script.empty
  | some p =>
    match files.read p with
    | .error r => .error ⟨"failed to read script " ++ p, [r.message]⟩
    | .ok text =>
      match decodeText Script.decoder text with
      | .ok s => .ok s
      | .error detail => .error ⟨"invalid script " ++ p, ["Invalid script: " ++ detail, detail]⟩

/-- The record the command logs before replaying. -/
def openingRecord (questionnaire : String) (pages : Nat) : Logging.Record :=
  ⟨.info, "census_form_replay", "replaying script",
    [("questionnaire", .text questionnaire), ("pages", .count pages)]⟩

/-- Run a script, then read the session's state and summary. -/
def replay (s : Script) : EngineM (Except ScriptStop (ScriptRun × Session × List SummaryRow)) := do
  match ← s.run with
  | .error stop => return .error stop
  | .ok run =>
    let state ← Engine.session run.session
    let rows ← Engine.summary run.session
    return .ok (run, state, rows)

/-- The lines of a text: split at line feeds, a carriage return before a line feed dropped,
and no last line after a final line feed. -/
def textLines (s : String) : List String :=
  let pieces := s.splitOn "\n"
  pieces.zipIdx.filterMap fun (p, i) =>
    if i + 1 == pieces.length then (if p.isEmpty then none else some p)
    else some (if p.endsWith "\r" then String.ofList p.toList.dropLast else p)

/-- An outcome's name. -/
def outcomeName : CalculationOutcome → String
  | .matches => "Matches"
  | .pending => "Pending"
  | .mismatch => "Mismatch"

/-- The recorded totals, one line each. -/
def totalLines (totals : CalculatedTotals) : String :=
  String.join (totals.totals.map fun (rule, t) =>
    "Total '" ++ rule ++ "': " ++ t.total.render ++ " (" ++ outcomeName t.outcome ++ ")\n")

/-- The summary: a header when the section changes, then each title with its answer's lines
indented beneath it. -/
def summaryText (rows : List SummaryRow) (placeholder : String) : String :=
  (rows.foldl (fun (acc : String × Option SectionId) row =>
    let header := if acc.2 == some row.location.section then "" else
      "\n[" ++ row.location.section ++ "]\n"
    let body := String.join ((textLines (row.value.text placeholder)).map fun l => "    " ++ l ++ "\n")
    (acc.1 ++ header ++ row.title ++ "\n" ++ body, some row.location.section)) ("", none)).1

/-- Run the command with the options read, the environment `env` and the files `files`. -/
def execute (o : Options) (env : String → Option String) (files : FileView) (look : Presentation) :
    Outcome :=
  let filter := Logging.Filter.ofSetting (env "RUST_LOG")
  let line (r : Logging.Record) : String :=
    if filter.allows r then
      (if o.logJson then r.jsonLine look.stamp else r.compactLine look.stamp)
    else ""
  let failed (logs : String) (f : Failure) : Outcome := ⟨1, "", logs ++ f.render⟩
  let loaded : Except Failure (EngineConfig × Questionnaire × Script) := do
    let config ← loadConfig o.config files
    let q ← loadSchema o.schema files
    let script ← loadScript o.script files
    pure (config, q, script)
  match loaded with
  | .error f => failed "" f
  | .ok (config, q, script) =>
    let opening := line (openingRecord q.id script.pages.length)
    let (result, engine) := (Engine.create q config .empty).run (replay script)
    let logs := opening ++ String.join (engine.log.map fun e => line (.ofEvent look.showSession e))
    match result with
    | .error e => failed logs (.plain (e.message look.showSession))
    | .ok (.error (.rejected block errors)) =>
      failed (logs ++ String.join (errors.map fun err => block ++ ": " ++ err.message ++ "\n"))
        (.plain ("block '" ++ block ++ "' was rejected"))
    | .ok (.error (.stalled block)) =>
      failed logs (.plain ("Routing returned to block '" ++ block ++ "'"))
    | .ok (.ok (run, state, rows)) =>
      let out := "Path: " ++ " -> ".intercalate (run.visited.map (·.block)) ++ "\n" ++
        totalLines state.totals ++ summaryText rows config.noAnswerText
      if run.completed then ⟨0, out, logs⟩
      else ⟨1, out, logs ++ (Failure.plain "script stopped before the summary").render⟩

/-- Run the command line `args` with the environment `env` and the files `files`. -/
def runCommand (args : List String) (env : String → Option String) (files : FileView)
    (look : Presentation) : Outcome :=
  match Invocation.ofArgs args (env configVariable) with
  | .help => ⟨0, helpText (env configVariable), ""⟩
  | .refused e => ⟨2, "", e.render⟩
  | .run o => execute o env files look

end Replay

end Survey
