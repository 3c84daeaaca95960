import Survey.Answer.Store

/-!
# Edits

An edit is a change to one slot: set it to a value, or clear it. An edit made while the field
still has focus is a keystroke, kept only as a draft; one made when focus leaves the field (or
when the page is submitted) is a commit. Drafts are kept per slot until committed or dropped.
-/

namespace Survey

/-- A change to one slot. -/
inductive Edit where
  | set (value : AnswerValue)
  | clear
  deriving Repr, Inhabited

/-- When an edit happens, relative to the field losing focus. -/
inductive EditPhase where
  /-- The field still has focus: the value is only a draft. -/
  | keystroke
  /-- Focus left the field, or the page was submitted. -/
  | commit
  deriving DecidableEq, Repr

/-- Uncommitted edits, by slot. -/
abbrev Drafts := Entries Edit

end Survey
