import Survey.Engine.Session

/-!
# Engine errors and validation errors

`EngineError` is what stops an engine operation: an unknown session, block, section or
calculation, a block off the routing path, a slot outside the block, a refused answer, a
snapshot that does not fit, or a failing session store.

`ValidationError` is not an error of the engine but a rule the respondent must fix before
moving on: a mandatory question left unanswered, a total that misses its target, a number out
of its slot's range, or text longer than its slot allows. A submission lists them, and is
accepted when there are none.
-/

namespace Survey

/-- Why an engine operation failed. -/
inductive EngineError where
  | unknownSession (id : SessionId)
  | unknownBlock (id : BlockId)
  | unknownSection (id : SectionId)
  | unknownRule (id : RuleId)
  | blockNotOnPath (id : BlockId)
  | slotNotInBlock (slot : SlotId) (block : BlockId)
  | answer (error : AnswerError)
  | snapshotVersion (found expected : Nat)
  | questionnaireMismatch (found expected : String)
  /-- The session store failed, for the reason given. -/
  | persistence (reason : String)
  deriving Repr

namespace EngineError

/-- The error's qualified name. -/
def kindName : EngineError → String
  | .unknownSession _ => "EngineError::UnknownSession"
  | .unknownBlock _ => "EngineError::UnknownBlock"
  | .unknownSection _ => "EngineError::UnknownSection"
  | .unknownRule _ => "EngineError::UnknownRule"
  | .blockNotOnPath _ => "EngineError::BlockNotOnPath"
  | .slotNotInBlock .. => "EngineError::SlotNotInBlock"
  | .answer e => "AnswerError::" ++ e.kindName
  | .snapshotVersion .. => "EngineError::SnapshotVersion"
  | .questionnaireMismatch .. => "EngineError::QuestionnaireMismatch"
  | .persistence _ => "EngineError::Persistence"

/-- The error's message, sessions shown by `showId`. -/
def message (showId : SessionId → String) : EngineError → String
  | .unknownSession id => "Unknown session: " ++ showId id
  | .unknownBlock id => "Unknown block: " ++ id
  | .unknownSection id => "Unknown section: " ++ id
  | .unknownRule id => "Unknown calculation: " ++ id
  | .blockNotOnPath id => "Block '" ++ id ++ "' is not on the routing path"
  | .slotNotInBlock slot block => "Answer '" ++ slot ++ "' does not belong to block '" ++ block ++ "'"
  | .answer e => e.message
  | .snapshotVersion found expected =>
    "Snapshot version " ++ toString found ++ " is not supported (expected " ++ toString expected ++ ")"
  | .questionnaireMismatch found expected =>
    "Snapshot belongs to questionnaire '" ++ found ++ "', not '" ++ expected ++ "'"
  | .persistence reason => "Session store failed: " ++ reason

end EngineError

/-- A rule the respondent must fix before moving on. -/
inductive ValidationError where
  | mandatoryUnanswered (question : QuestionId)
  | totalMismatch (rule : RuleId) (total target : Decimal) (comparison : Comparison)
  | outOfRange (slot : SlotId) (value : Decimal) (min max : Option Decimal)
  | tooLong (slot : SlotId) (maxLength : Nat)
  deriving Repr

namespace ValidationError

/-- The error's message. -/
def message : ValidationError → String
  | .mandatoryUnanswered q => "Question '" ++ q ++ "' must be answered"
  | .totalMismatch _ total target _ =>
    "Calculated total " ++ total.render ++ " does not meet the target of " ++ target.render
  | .outOfRange slot value _ _ => "Answer '" ++ slot ++ "' is out of range: " ++ value.render
  | .tooLong slot maxLength =>
    "Answer '" ++ slot ++ "' is longer than " ++ toString maxLength ++ " characters"

/-- The error as JSON, tagged by `error`. -/
def toJson : ValidationError → Json
  | .mandatoryUnanswered q =>
    .object [("error", .string "mandatory_unanswered"), ("question", .string q)]
  | .totalMismatch rule total target comparison =>
    .object [("error", .string "total_mismatch"), ("rule", .string rule), ("total", total.toJson),
      ("target", target.toJson), ("comparison", .string comparison.name)]
  | .outOfRange slot value min max =>
    .object [("error", .string "out_of_range"), ("slot", .string slot), ("value", value.toJson),
      ("min", optionalJson Decimal.toJson min), ("max", optionalJson Decimal.toJson max)]
  | .tooLong slot maxLength =>
    .object [("error", .string "too_long"), ("slot", .string slot), ("max_length", .ofNat maxLength)]

end ValidationError

/-- The result of submitting a block: the errors (none when accepted) and where to go next
(none when rejected). -/
structure Submission where
  errors : List ValidationError
  next : Option Next
  deriving Repr

/-- Whether the submission was accepted. -/
def Submission.isAccepted (s : Submission) : Bool := s.errors.isEmpty

end Survey
