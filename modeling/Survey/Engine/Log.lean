import Survey.Engine.Session
import Survey.Text.Quoted

/-!
# Engine events

The engine reports what it does as a list of events, each with a level and the part of the
engine it comes from. `LogEvent.message` gives an event's text, naming sessions through a
function so that a caller can choose how a session is shown.

Values inside messages that are not plain text (a destination, a list of slots) are written in
a debugging notation: `Block(Location { section: SectionId("s"), block: BlockId("b") })`,
`Summary`, `[SlotId("a"), SlotId("b")]`.
-/

namespace Survey

/-- How much an event matters, from the most to the least. -/
inductive LogLevel where
  | error
  | warn
  | info
  | debug
  | trace
  deriving DecidableEq, Repr

namespace LogLevel

/-- The level's name in capitals. -/
def name : LogLevel → String
  | .error => "ERROR"
  | .warn => "WARN"
  | .info => "INFO"
  | .debug => "DEBUG"
  | .trace => "TRACE"

/-- The level's rank: 1 for errors up to 5 for traces. -/
def rank : LogLevel → Nat
  | .error => 1
  | .warn => 2
  | .info => 3
  | .debug => 4
  | .trace => 5

end LogLevel

/-- Something the engine did. -/
inductive LogEvent where
  | serving (questionnaire : String) (blocks : Nat)
  | started (id : SessionId)
  | resumed (id : SessionId)
  | closed (id : SessionId)
  | submitting (id : SessionId) (block : BlockId) (edits : Nat)
  | rejected (id : SessionId) (block : BlockId) (errors : Nat)
  | routed (id : SessionId) (block : BlockId) (next : Next)
  | reopened (id : SessionId) (block : BlockId)
  | totalMismatch (rule : RuleId) (total target : Decimal)
  | overflowed (rule : RuleId) (slot : SlotId)
  | exclusivityCleared (question : QuestionId) (slots : List SlotId)
  | invalidated (count : Nat) (block : BlockId)
  | commitFailed (id : SessionId) (error : String)
  | routeChosen (block : BlockId) (next : Option Next)
  deriving Repr

/-- A named text in debugging notation: `Name("text")`. -/
def debugWrapped (name text : String) : String := name ++ "(" ++ quotedText text ++ ")"

/-- A location in debugging notation. -/
def Location.debugText (l : Location) : String :=
  "Location \x7b section: " ++ debugWrapped "SectionId" l.section ++ ", block: " ++
    debugWrapped "BlockId" l.block ++ " \x7d"

/-- A destination in debugging notation. -/
def Next.debugText : Next → String
  | .block l => "Block(" ++ l.debugText ++ ")"
  | .summary => "Summary"

/-- An optional destination in debugging notation. -/
def optionalNextDebug : Option Next → String
  | some n => "Some(" ++ n.debugText ++ ")"
  | none => "None"

namespace LogEvent

/-- The event's level. -/
def level : LogEvent → LogLevel
  | .serving .. | .started _ | .resumed _ | .closed _ => .info
  | .rejected .. | .totalMismatch .. | .overflowed .. | .commitFailed .. => .warn
  | .submitting .. | .routed .. | .reopened .. | .exclusivityCleared .. | .invalidated .. => .debug
  | .routeChosen .. => .trace

/-- The part of the engine the event comes from. -/
def target : LogEvent → String
  | .totalMismatch .. => "census_form::engine"
  | .overflowed .. => "census_form::calculated"
  | .exclusivityCleared .. => "census_form::exclusivity"
  | .routeChosen .. => "census_form::routing"
  | _ => "census_form::engine"

/-- The event's text, sessions shown by `showId`. -/
def message (showId : SessionId → String) : LogEvent → String
  | .serving q n => "Serving questionnaire '" ++ q ++ "' (" ++ toString n ++ " blocks)"
  | .started id => "Started session " ++ showId id
  | .resumed id => "Resumed session " ++ showId id
  | .closed id => "Closed session " ++ showId id
  | .submitting id b n =>
    "Session " ++ showId id ++ ": submitting block '" ++ b ++ "' with " ++ toString n ++ " edit(s)"
  | .rejected id b n =>
    "Session " ++ showId id ++ ": block '" ++ b ++ "' rejected with " ++ toString n ++ " error(s)"
  | .routed id b next => "Session " ++ showId id ++ ": block '" ++ b ++ "' routes to " ++ next.debugText
  | .reopened id b => "Session " ++ showId id ++ ": block '" ++ b ++ "' changed, needs submitting again"
  | .totalMismatch r total target =>
    "Calculation '" ++ r ++ "' totals " ++ total.render ++ ", target " ++ target.render
  | .overflowed r slot =>
    "Calculation '" ++ r ++ "' overflowed adding answer '" ++ slot ++ "'; contribution ignored"
  | .exclusivityCleared q slots =>
    "Exclusivity on question '" ++ q ++ "' cleared [" ++
      ", ".intercalate (slots.map (debugWrapped "SlotId")) ++ "]"
  | .invalidated n b => "Invalidated " ++ toString n ++ " answer(s) of skipped block '" ++ b ++ "'"
  | .commitFailed id e => "Failed to commit session " ++ showId id ++ ": " ++ e
  | .routeChosen b next => "Block '" ++ b ++ "' routes to " ++ optionalNextDebug next

end LogEvent

end Survey
