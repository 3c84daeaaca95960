import Survey.Answer.Edit
import Survey.Exclusive.Transition

/-!
# Applying edits to a question

`applyEdit` applies one edit to a slot of a question while keeping the question's exclusivity
invariant (see `transition`). A keystroke on a slot other than the exclusive one is checked and
kept as a draft, leaving the answers alone; the exclusive slot is a checkbox, so every edit to
it takes effect at once, and ticking it drops the drafts of the other slots. After the edit,
the transition's effect clears what it must (answers and drafts), and the slots whose answers
were cleared are reported. On error nothing changes.

Questions without an exclusive slot go through the same steps and never clear anything.
-/

namespace Survey

/-- The result of applying one edit. -/
structure Applied where
  /-- Slots emptied as a side effect. -/
  cleared : List SlotId
  /-- The group state after the edit. -/
  state : GroupState
  /-- Whether the edit was only kept as a draft. -/
  drafted : Bool
  deriving Repr

/-- The answers and drafts a question's edits act on. -/
structure Entry where
  answers : AnswerStore
  drafts : Drafts
  deriving Repr, Inhabited

namespace Question

/-- Whether a slot other than the exclusive one has an answer. -/
def othersAnswered (q : Question) (answers : AnswerStore) : Bool :=
  q.nonExclusiveAnswers.any fun s => answers.contains s.id

/-- The group state read from the answers. -/
def groupState (q : Question) (answers : AnswerStore) : GroupState :=
  if (q.exclusiveAnswer?.any fun s => answers.contains s.id) then .exclusiveSet
  else if q.othersAnswered answers then .othersSet
  else .unset

/-- Clear the answers of the given slots, with their drafts, giving the slots that held one. -/
def clearAll (entry : Entry) : List AnswerSlot → List SlotId × Entry
  | [] => ([], entry)
  | s :: rest =>
    let drafts := entry.drafts.erase s.id
    let (old, answers) := entry.answers.clear s.id
    let (cleared, entry) := clearAll ⟨answers, drafts⟩ rest
    (if old.isSome then s.id :: cleared else cleared, entry)

/-- Carry out a transition's effect. -/
def perform (q : Question) (effect : Effect) (entry : Entry) : List SlotId × Entry :=
  match effect with
  | .keep => ([], entry)
  | .clearOthers => clearAll entry q.nonExclusiveAnswers
  | .clearExclusive =>
    match q.exclusiveAnswer? with
    | some x =>
      let (old, answers) := entry.answers.clear x.id
      (if old.isSome then [x.id] else [], { entry with answers })
    | none => ([], entry)

/-- The change an edit makes before its side effects, and the event it is for the group. -/
def editStep (q : Question) (target : AnswerSlot) (edit : Edit) (phase : EditPhase)
    (entry : Entry) : Except AnswerError (GroupEvent × Entry) :=
  let slot := target.id
  if target.kind.isExclusive then
    match edit with
    | .set value => do
      let (_, answers) ← entry.answers.set target value
      let drafts := q.nonExclusiveAnswers.foldl (fun ds s => ds.erase s.id) entry.drafts
      pure (.exclusiveSet, ⟨answers, drafts⟩)
    | .clear => pure (.exclusiveCleared, { entry with answers := (entry.answers.clear slot).2 })
  else
    match edit, phase with
    | .set value, .keystroke => do
      target.check value
      pure (.otherDrafted, { entry with drafts := entry.drafts.insert slot (.set value) })
    | .clear, .keystroke => pure (.otherDrafted, { entry with drafts := entry.drafts.insert slot .clear })
    | .set value, .commit => do
      let (_, answers) ← entry.answers.set target value
      pure (.otherCommitted, ⟨answers, entry.drafts.erase slot⟩)
    | .clear, .commit =>
      let answers := (entry.answers.clear slot).2
      pure (.otherCleared (q.othersAnswered answers), ⟨answers, entry.drafts.erase slot⟩)

/-- Apply an edit to one of the question's slots. -/
def applyEdit (q : Question) (slot : SlotId) (edit : Edit) (phase : EditPhase) (entry : Entry) :
    Except AnswerError (Applied × Entry) := do
  let target ← match q.answer? slot with
    | some t => pure t
    | none => throw (.unknownSlot slot)
  let before := q.groupState entry.answers
  let (event, entry) ← q.editStep target edit phase entry
  let (state, effect) := transition before event
  let (cleared, entry) := q.perform effect entry
  pure (⟨cleared, state, event == .otherDrafted⟩, entry)

/-- Commit a slot's pending draft, as when focus leaves the field; none without a draft. -/
def commitDraft (q : Question) (slot : SlotId) (entry : Entry) :
    Except AnswerError (Option Applied × Entry) :=
  match entry.drafts.lookup slot with
  | none => pure (none, entry)
  | some edit => do
    let (applied, entry) ← q.applyEdit slot edit .commit entry
    pure (some applied, entry)

end Question

end Survey
