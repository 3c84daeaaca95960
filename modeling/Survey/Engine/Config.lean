import Survey.Summary.Format
import Survey.Json.Decode
import Survey.Json.Write

/-!
# Engine settings

Three switches, each with a default, so an empty settings document is valid:

* `noAnswerText` — the placeholder shown for an unanswered question ("No answer provided");
* `invalidateSkippedAnswers` — wipe the answers of every block a routing change skips, rather
  than only those of blocks marked to be wiped (off);
* `clearExclusiveOnKeystroke` — treat every keystroke in a sibling field as committed, so the
  exclusive answer is cleared at once (off).

Unknown settings are refused.
-/

namespace Survey

/-- Engine-wide behaviour switches. -/
structure EngineConfig where
  noAnswerText : String
  invalidateSkippedAnswers : Bool
  clearExclusiveOnKeystroke : Bool
  deriving DecidableEq, Repr

namespace EngineConfig

/-- The defaults. -/
def default : EngineConfig := ⟨noAnswerProvided, false, false⟩

/-- The names of the settings, in order. -/
def fieldNames : List String :=
  ["no_answer_text", "invalidate_skipped_answers", "clear_exclusive_on_keystroke"]

/-- The settings as JSON. -/
def toJson (c : EngineConfig) : Json :=
  .object [("no_answer_text", .string c.noAnswerText),
    ("invalidate_skipped_answers", .bool c.invalidateSkippedAnswers),
    ("clear_exclusive_on_keystroke", .bool c.clearExclusiveOnKeystroke)]

/-- Settings read from an object of any of the three, the rest defaulting. -/
def decoder : Decoder EngineConfig :=
  Decoder.record "struct EngineConfig"
    [Field.of "no_answer_text" true Decoder.string fun c v => { c with noAnswerText := v },
     Field.of "invalidate_skipped_answers" true Decoder.bool
       fun c v => { c with invalidateSkippedAnswers := v },
     Field.of "clear_exclusive_on_keystroke" true Decoder.bool
       fun c v => { c with clearExclusiveOnKeystroke := v }]
    default .ok true

end EngineConfig

end Survey
