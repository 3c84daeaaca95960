import Survey.Engine.Config
import Survey.Toml.Report
import Survey.Text.Quoted

/-!
# Engine settings written as TOML

A settings document sets any of the three settings at its top level, in any order; the first
entry that is not a setting, or whose value is of the wrong kind, is refused, pointing at its
key or its value. A setting given as a table that only dotted keys or headers implied is
pointed at by its key.

Kinds are named as a type mismatch names them: a string with its text quoted, an integer,
float or boolean with its value, an array or array of tables as a sequence, and a table, an
inline table or a date as a map.
-/

namespace Survey

/-- Why engine settings could not be loaded. -/
inductive ConfigError where
  /-- The file could not be read, for the reason given. -/
  | unreadable (path : String) (reason : String)
  /-- The text is not a valid settings document; the TOML error as shown. -/
  | invalid (detail : String)
  deriving DecidableEq, Repr

namespace ConfigError

/-- The error's qualified name. -/
def kindName : ConfigError → String
  | .unreadable .. => "ConfigError::Io"
  | .invalid _ => "ConfigError::Toml"

/-- The error's message. -/
def message : ConfigError → String
  | .unreadable path reason => "Failed to read config file '" ++ path ++ "': " ++ reason
  | .invalid detail => "Invalid engine config: " ++ detail

end ConfigError

namespace Toml

/-- What an item is, as a type mismatch names it. -/
def Item.unexpected : Item → String
  | .scalar (.string t) _ => "string " ++ quotedText t
  | .scalar (.integer i) _ => "integer `" ++ toString i ++ "`"
  | .scalar (.float f) _ => "floating point `" ++ f.withPoint ++ "`"
  | .scalar (.boolean b) _ => "boolean `" ++ (if b then "true" else "false") ++ "`"
  | .scalar .datetime _ | .inline .. | .table .. => "map"
  | .array .. | .tables .. => "sequence"

end Toml

namespace EngineConfig

/-- A setting's value of the wrong kind. -/
def mismatch (key : Toml.Key) (item : Toml.Item) (expected : String) : Toml.ReadError :=
  ⟨"invalid type: " ++ item.unexpected ++ ", expected " ++ expected, some ((item.span?).getD key.span)⟩

/-- Apply one top-level entry of a settings document. -/
def setEntry (c : EngineConfig) : Toml.Key × Toml.Item → Except Toml.ReadError EngineConfig
  | (key, item) =>
    match key.name, item with
    | "no_answer_text", .scalar (.string t) _ => .ok { c with noAnswerText := t }
    | "no_answer_text", _ => .error (mismatch key item "a string")
    | "invalidate_skipped_answers", .scalar (.boolean b) _ => .ok { c with invalidateSkippedAnswers := b }
    | "invalidate_skipped_answers", _ => .error (mismatch key item "a boolean")
    | "clear_exclusive_on_keystroke", .scalar (.boolean b) _ => .ok { c with clearExclusiveOnKeystroke := b }
    | "clear_exclusive_on_keystroke", _ => .error (mismatch key item "a boolean")
    | other, _ => .error ⟨unknownFieldMessage other fieldNames, some key.span⟩

/-- Settings read from a TOML document. -/
def ofToml (text : String) : Except ConfigError EngineConfig :=
  let settings := do
    let root ← Toml.readDocument text
    root.entries.foldlM setEntry default
  settings.mapError fun e => .invalid (e.render text)

end EngineConfig

end Survey
