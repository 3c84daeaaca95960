import Survey.Engine.Config
import Survey.Engine.Log
import Survey.Engine.Error
import Survey.Engine.Store
import Survey.Summary.Rows

/-!
# The engine

The engine runs respondent sessions against one questionnaire. Its state holds the live
sessions, the session store, and the events reported so far. Every operation is a step of
`EngineM`, which may fail with an `EngineError`; the state reached before a failure is kept,
as are the events.

Submitting a block (`Engine.submitBlock`) is the heart of it:

1. the drafts of the shown questions that have no edit in the submission are committed;
2. the edits are applied as commits, exclusive slots last, so that the exclusivity rules
   clear what they must;
3. the block is validated against the routing path of the new answers: mandatory questions,
   ranges (except for calculation sources), lengths, then totals, which are recorded;
4. a rejected submission replaces the live session (so a mismatched total stays on display)
   and un-submits the block, without committing anything;
5. an accepted one marks the block submitted, wipes the answers of skipped blocks where that is
   asked for, picks where to go next (the next block on the path, else the first block not yet
   submitted, else the summary), and commits the session to the store; if that commit fails
   the live session is left as it was.

Edits between submissions (`Engine.edit`, `Engine.blur`) change only the live session; a
committed change to a submitted block un-submits it.
-/

namespace Survey

/-- The state of an engine. -/
structure Engine where
  questionnaire : Questionnaire
  config : EngineConfig
  store : SnapshotStore
  sessions : List (SessionId × Session)
  /-- The serial of the next session id to hand out. -/
  nextSerial : Nat
  /-- The events reported so far, oldest first. -/
  log : List LogEvent
  deriving Repr

/-- An engine operation. -/
abbrev EngineM := ExceptT EngineError (StateM Engine)

namespace Engine

/-- An engine serving a questionnaire, with its opening event. -/
def create (q : Questionnaire) (config : EngineConfig) (store : SnapshotStore) : Engine :=
  ⟨q, config, store, [], 0, [.serving q.id q.locations.length]⟩

/-- Run an operation. -/
def run (e : Engine) (op : EngineM α) : Except EngineError α × Engine := (op.run).run e

/-- Report an event. -/
def emit (event : LogEvent) : EngineM Unit := modify fun e => { e with log := e.log ++ [event] }

/-- The questionnaire served. -/
def served : EngineM Questionnaire := do pure (← get).questionnaire

/-- A fresh session id, never handed out before. -/
def freshId : EngineM SessionId := do
  let e ← get
  set { e with nextSerial := e.nextSerial + 1 }
  pure ⟨e.nextSerial⟩

/-- A live session. -/
def session (id : SessionId) : EngineM Session := do
  match (← get).sessions.find? (·.1 == id) with
  | some (_, s) => pure s
  | none => throw (.unknownSession id)

/-- Replace or add a live session. -/
def putSession (id : SessionId) (s : Session) : EngineM Unit :=
  modify fun e =>
    if e.sessions.any (·.1 == id) then
      { e with sessions := e.sessions.map fun (k, v) => if k == id then (k, s) else (k, v) }
    else { e with sessions := e.sessions ++ [(id, s)] }

/-- The routing path for some answers, reporting the routing rules that decided it. -/
def pathFor (answers : AnswerStore) : EngineM RoutingPath := do
  let q ← served
  let path := q.routingPath answers
  for (block, next) in q.routeChoices answers path do
    emit (.routeChosen block next)
  pure path

/-- Commit a session's snapshot to the store. -/
def commitSession (id : SessionId) (s : Session) : EngineM Unit := do
  let e ← get
  match e.store.commit id (.ofSession e.questionnaire.id s) with
  | .ok store => set { e with store }
  | .error reason => do
    emit (.commitFailed id reason)
    throw (.persistence reason)

/-- Start a session and commit its empty snapshot. -/
def startSession : EngineM SessionId := do
  let id ← freshId
  commitSession id .empty
  putSession id .empty
  emit (.started id)
  pure id

/-- Load a session from the store, replacing any live copy; drafts are lost. -/
def resumeSession (id : SessionId) : EngineM Unit := do
  let e ← get
  let snapshot ← match e.store.load id with
    | .error reason => throw (.persistence reason)
    | .ok none => throw (.unknownSession id)
    | .ok (some s) => pure s
  if snapshot.version != snapshotVersion then
    throw (.snapshotVersion snapshot.version snapshotVersion)
  if snapshot.questionnaire != e.questionnaire.id then
    throw (.questionnaireMismatch snapshot.questionnaire e.questionnaire.id)
  putSession id snapshot.session
  emit (.resumed id)

/-- Drop a session from memory, then from the store. -/
def closeSession (id : SessionId) : EngineM Unit := do
  let _ ← session id
  modify fun e => { e with sessions := e.sessions.filter (·.1 != id) }
  let e ← get
  match e.store.remove id with
  | .error reason => throw (.persistence reason)
  | .ok store => set { e with store }
  emit (.closed id)

/-- The first question of a list that holds a slot. -/
def owningQuestion (questions : List Question) (slot : SlotId) : Option Question :=
  questions.find? fun q => (q.answer? slot).isSome

/-- The block holding a slot and the question it is shown in, for the session's answers. -/
def editableQuestion (s : Session) (slot : SlotId) : EngineM (Block × Question) := do
  let q ← served
  let block ← match q.blockOf? slot with
    | some b => pure b
    | none => throw (.answer (.unknownSlot slot))
  let path ← pathFor s.answers
  if !path.contains block.id then throw (.blockNotOnPath block.id)
  match owningQuestion (block.questionsFor (q.onPath s.answers path)) slot with
  | some question => pure (block, question)
  | none => throw (.slotNotInBlock slot block.id)

/-- Apply an edit to a question's slot, reporting what exclusivity cleared. -/
def enforce (question : Question) (slot : SlotId) (edit : Edit) (phase : EditPhase)
    (entry : Entry) : EngineM (Applied × Entry) :=
  match question.applyEdit slot edit phase entry with
  | .error e => throw (.answer e)
  | .ok (applied, entry) => do
    if !applied.cleared.isEmpty then emit (.exclusivityCleared question.id applied.cleared)
    pure (applied, entry)

/-- Commit a slot's draft, if it has one. -/
def commitDraft (question : Question) (slot : SlotId) (entry : Entry) :
    EngineM (Option Applied × Entry) :=
  match entry.drafts.lookup slot with
  | none => pure (none, entry)
  | some edit => do
    let (applied, entry) ← enforce question slot edit .commit entry
    pure (some applied, entry)

/-- Un-submit a block whose answers changed outside a submission. -/
def reopen (id : SessionId) (s : Session) (block : BlockId) : EngineM Session := do
  let (was, progress) := s.progress.forget block
  if was then emit (.reopened id block)
  pure { s with progress }

/-- The session with the answers and drafts of an entry. -/
def Session.withEntry (s : Session) (entry : Entry) : Session :=
  { s with answers := entry.answers, drafts := entry.drafts }

/-- Apply a field-level edit. Keystrokes on a slot other than the exclusive one are kept as
drafts, unless the engine treats every keystroke as committed. -/
def edit (id : SessionId) (slot : SlotId) (change : Edit) (phase : EditPhase) : EngineM Applied := do
  let s ← session id
  let (block, question) ← editableQuestion s slot
  let phase := if (← get).config.clearExclusiveOnKeystroke then .commit else phase
  let (applied, entry) ← enforce question slot change phase ⟨s.answers, s.drafts⟩
  let s := Session.withEntry s entry
  let s ← if !applied.drafted || !applied.cleared.isEmpty then reopen id s block.id else pure s
  putSession id s
  pure applied

/-- Commit a slot's draft, as when focus leaves the field. -/
def blur (id : SessionId) (slot : SlotId) : EngineM (Option Applied) := do
  let s ← session id
  let (block, question) ← editableQuestion s slot
  let (applied, entry) ← commitDraft question slot ⟨s.answers, s.drafts⟩
  let s := Session.withEntry s entry
  let s ← if applied.isSome then reopen id s block.id else pure s
  putSession id s
  pure applied

/-- Commit the pending drafts of shown questions that the submission does not edit. -/
def commitPending (edits : Entries Edit) (entry : Entry) : List Question → EngineM Entry
  | [] => pure entry
  | question :: rest => do
    let pending := (question.answers.map (·.id)).filter fun slot =>
      entry.drafts.contains slot && !edits.contains slot
    let entry ← pending.foldlM (fun entry slot => do pure (← commitDraft question slot entry).2) entry
    commitPending edits entry rest

/-- Apply a submission's edits: pending drafts first, then the edits as commits, those of
exclusive slots last. -/
def applyEdits (s : Session) (block : Block) (questions : List Question) (edits : Entries Edit) :
    EngineM Session := do
  let entry ← commitPending edits ⟨s.answers, s.drafts⟩ questions
  let placed ← edits.mapM fun (slot, change) =>
    match owningQuestion questions slot with
    | some question => pure (question, slot, change)
    | none => throw (.slotNotInBlock slot block.id)
  let isExclusive := fun (p : Question × SlotId × Edit) =>
    (p.1.answer? p.2.1).any (·.kind.isExclusive)
  let ordered := placed.filter (fun p => !isExclusive p) ++ placed.filter isExclusive
  let entry ← ordered.foldlM (fun entry (question, slot, change) => do
    pure (← enforce question slot change .commit entry).2) entry
  pure (Session.withEntry s entry)

/-- A total computed from a view, reporting the sources skipped because they overflowed. -/
def totalReported (rule : CalculatedRule) (view : Lookup) (judged : Bool) :
    EngineM CalculatedTotal := do
  for slot in (rule.totalOf view).2 do
    emit (.overflowed rule.id slot)
  pure (if judged then rule.evaluate view else rule.pending view)

/-- The checks of one slot's answer: its range, or its length. -/
def slotErrors (view : Lookup) (slot : AnswerSlot) : List ValidationError :=
  match slot.kind, view slot.id with
  | .number _, _ =>
    if slot.acceptsRawText then []
    else
      match slot.kind, view slot.id with
      | .number settings, some (.number value) =>
        let below := settings.min.any fun m => value.lt m
        let above := settings.max.any fun m => m.lt value
        if below || above then [.outOfRange slot.id value settings.min settings.max] else []
      | _, _ => []
  | .textField (some maxLength), some (.text value) =>
    if maxLength < value.length then [.tooLong slot.id maxLength] else []
  | _, _ => []

/-- The checks of the shown questions: mandatory ones answered, then each slot. -/
def questionErrors (view : Lookup) (question : Question) : List ValidationError :=
  let answered := question.answers.any fun s => (view s.id).isSome
  (if question.mandatory && !answered then [.mandatoryUnanswered question.id] else []) ++
    question.answers.flatMap (slotErrors view)

/-- Validate a submitted block, recording its totals. -/
def validate (s : Session) (block : Block) (questions : List Question) (path : RoutingPath) :
    EngineM (List ValidationError × Session) := do
  let q ← served
  let view := q.onPath s.answers path
  let errors := questions.flatMap (questionErrors view)
  let mut mismatches : List ValidationError := []
  let mut totals : List (RuleId × CalculatedTotal) := []
  for rule in block.calculations do
    let total ← totalReported rule view true
    if total.outcome == .mismatch then
      emit (.totalMismatch rule.id total.total rule.target)
      mismatches := mismatches ++ [.totalMismatch rule.id total.total rule.target rule.comparison]
    totals := totals ++ [(rule.id, total)]
  let recorded := totals.foldl (fun t (rule, total) => t.record rule total) s.totals
  pure (errors ++ mismatches, { s with totals := recorded })

/-- Wipe the answers, drafts, progress and totals of skipped blocks that are to be wiped. -/
def invalidateSkipped (s : Session) (path : RoutingPath) : EngineM Session := do
  let e ← get
  let mut s := s
  for block in e.questionnaire.blocks do
    if (block.invalidateWhenSkipped || e.config.invalidateSkippedAnswers) && !path.contains block.id then
      let mut cleared := 0
      for slot in block.slotIds do
        let (old, answers) := s.answers.clear slot
        s := { s with answers, drafts := s.drafts.erase slot }
        if old.isSome then cleared := cleared + 1
      s := { s with progress := (s.progress.forget block.id).2 }
      s := { s with totals := block.calculations.foldl (fun t r => (t.forget r.id).2) s.totals }
      if 0 < cleared then emit (.invalidated cleared block.id)
  pure s

/-- Submit a block with edits (keyed by slot, in slot order). -/
def submitBlock (id : SessionId) (block : BlockId) (edits : Entries Edit) : EngineM Submission := do
  let live ← session id
  let q ← served
  let definition ← match q.block? block with
    | some b => pure b
    | none => throw (.unknownBlock block)
  let shown ← pathFor live.answers
  if !shown.contains block then throw (.blockNotOnPath block)
  emit (.submitting id block edits.length)
  let questions := definition.questionsFor (q.onPath live.answers shown)
  let working ← applyEdits live definition questions edits
  let path ← pathFor working.answers
  let (errors, working) ← validate working definition questions path
  if !errors.isEmpty then
    emit (.rejected id block errors.length)
    putSession id { working with progress := (working.progress.forget block).2 }
    return ⟨errors, none⟩
  let working := { working with progress := (working.progress.markSubmitted block).2 }
  let working ← invalidateSkipped working path
  let next : Next := match path.next? block with
    | some (.block l) => .block l
    | _ => match working.progress.firstIncomplete? path with
      | some l => .block l
      | none => .summary
  commitSession id working
  putSession id working
  emit (.routed id block next)
  return ⟨[], some next⟩

/-- An answer as the review page shows it; answers in skipped blocks read as not provided. -/
def answerForDisplay (id : SessionId) (slot : SlotId) : EngineM DisplayValue := do
  let s ← session id
  let q ← served
  let block ← match q.blockOf? slot with
    | some b => pure b
    | none => throw (.answer (.unknownSlot slot))
  let path ← pathFor s.answers
  let view := q.onPath s.answers path
  let shownSlot := (owningQuestion (block.questionsFor view) slot).bind (·.answer? slot)
  let definition ← match shownSlot.orElse fun _ => q.slot? slot with
    | some d => pure d
    | none => throw (.answer (.unknownSlot slot))
  pure (match view slot with
    | some value => .provided (formatValue definition value)
    | none => .noAnswer)

/-- An answer's text with the configured placeholder. -/
def displayText (id : SessionId) (slot : SlotId) : EngineM String := do
  let v ← answerForDisplay id slot
  pure (v.text (← get).config.noAnswerText)

/-- A calculation's total: the recorded one while its sources are unchanged, else a fresh
pending one; none until its block has been submitted. -/
def calculation (id : SessionId) (rule : RuleId) : EngineM (Option CalculatedTotal) := do
  let s ← session id
  let q ← served
  let (_, definition) ← match q.calculation? rule with
    | some c => pure c
    | none => throw (.unknownRule rule)
  let path ← pathFor s.answers
  let view := q.onPath s.answers path
  match s.totals.get? definition.id with
  | none => pure none
  | some recorded =>
    if definition.isCurrent recorded view then pure (some recorded)
    else some <$> totalReported definition view false

/-- A calculation's total value. -/
def calculatedTotal (id : SessionId) (rule : RuleId) : EngineM (Option Decimal) := do
  pure ((← calculation id rule).map (·.total))

/-- The review page. -/
def summary (id : SessionId) : EngineM (List SummaryRow) := do
  let s ← session id
  let q ← served
  let path ← pathFor s.answers
  pure (summarize q path (q.onPath s.answers path))

/-- A session's routing path. -/
def routingPath (id : SessionId) : EngineM RoutingPath := do
  pathFor (← session id).answers

/-- Refuse an unknown block. -/
def knownBlock (block : BlockId) : EngineM Unit := do
  if ((← served).block? block).isNone then throw (.unknownBlock block)

/-- Whether a block may be shown: it must be on the routing path. -/
def canAccess (id : SessionId) (block : BlockId) : EngineM Bool := do
  knownBlock block
  pure ((← routingPath id).contains block)

/-- The block before this one on the routing path. -/
def previousLocation (id : SessionId) (block : BlockId) : EngineM (Option Location) := do
  knownBlock block
  pure ((← routingPath id).previous? block)

/-- Whether every block on the routing path is submitted. -/
def isComplete (id : SessionId) : EngineM Bool := do
  let s ← session id
  pure (s.progress.isComplete (← pathFor s.answers))

/-- How far a section is done. -/
def sectionStatus (id : SessionId) (sectionId : SectionId) : EngineM CompletionStatus := do
  let definition ← match (← served).section? sectionId with
    | some d => pure d
    | none => throw (.unknownSection sectionId)
  let s ← session id
  pure (s.progress.sectionStatus definition (← pathFor s.answers))

/-- The stored value of a slot, answers in skipped blocks included. -/
def answer (id : SessionId) (slot : SlotId) : EngineM (Option AnswerValue) := do
  if ((← served).slot? slot).isNone then throw (.answer (.unknownSlot slot))
  pure ((← session id).answers.get? slot)

end Engine

end Survey
