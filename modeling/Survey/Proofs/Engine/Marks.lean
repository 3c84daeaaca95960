import Mathlib
import Survey.Proofs.Engine.Reachable

/-!
# A submitted block keeps the answers it was submitted with

A block is marked submitted in a session in two ways only: an accepted submission of the block,
or a resumption that loads the session from its snapshot (`Engine.Operation.Marks`). Every other
step that changes an answer of a marked block withdraws the mark in the same step, and a
keystroke kept as a draft changes neither answers nor marks.

* `Engine.PutsLive` — the successful operations change the live sessions only by putting one
  session live under their id, so every other id keeps its session;
* `Session.KeepsMark` — a session keeps a block marked only with the answers of the block's slots
  as they were: an edit or a blur either withdraws the mark of the edited block or changed no
  answer (`Engine.keepsMark_edited`), a rejected submission withdraws the mark of its block, and
  an accepted one keeps the other blocks that wiping spares and unmarks the ones it wipes;
* `Engine.Operation.keepsMark` — so every operation that does not mark the block afresh keeps
  it marked only as it was (`Engine.KeepsMark`), on a questionnaire that loading accepts;
* `Engine.run_edit_drafted` — an edit kept as a draft leaves the session's answers and marks;
* `Engine.lastStep_of_run` — along a run, a property of the last engine that every step without a
  given kind of operation carries back was made by the last such operation, or held at the start;
* **`Engine.marks_track_answers`** — along every run from a fresh engine, a block marked in a
  session was marked last by some operation of the run, no later operation marked it, and each
  of its slots holds the answer it held right after that operation.
-/

namespace Survey

/-- The session `s'` has the block `b` submitted only if `s` has, with the same answer in each
slot of the block. -/
def Session.KeepsMark (b : Block) (s s' : Session) : Prop :=
  s'.progress.isSubmitted b.id = true →
    s.progress.isSubmitted b.id = true ∧ ∀ slot ∈ b.slotIds, s'.answers.get? slot = s.answers.get? slot

namespace Session

theorem KeepsMark.refl (b : Block) (s : Session) : KeepsMark b s s :=
  fun marked => ⟨marked, fun _ _ => rfl⟩

/-- Two sessions that differ outside the block's mark and its slots keep the mark. -/
theorem KeepsMark.of_frame {slots : SlotId → Prop} {blocks : BlockId → Prop}
    {rules : RuleId → Prop} {b : Block} {s s' : Session} (frame : Frame slots blocks rules s s')
    (keptBlock : ¬ blocks b.id) (keptSlots : ∀ slot ∈ b.slotIds, ¬ slots slot) : KeepsMark b s s' :=
  fun marked => ⟨frame.progress b.id keptBlock ▸ marked,
    fun slot declared => frame.entry.answer slot (keptSlots slot declared)⟩

end Session

namespace Questionnaire

variable {q : Questionnaire} (checked : q.Checked)
include checked

/-- On a checked questionnaire, a block is known by its id. -/
theorem Checked.block_eq_of_id {b b' : Block} (member : b ∈ q.blocks) (member' : b' ∈ q.blocks)
    (same : b.id = b'.id) : b = b' :=
  List.inj_on_of_nodup_map checked.ids_nodup member member' same

/-- On a checked questionnaire, a slot of one block is no slot of another. -/
theorem Checked.not_mem_slotIds {b b' : Block} (member : b ∈ q.blocks) (member' : b' ∈ q.blocks)
    (other : b'.id ≠ b.id) {slot : SlotId} (declared : slot ∈ b.slotIds) : slot ∉ b'.slotIds :=
  fun declared' => other (congrArg Block.id (checked.slots_apart b' member' b member slot declared'
    declared))

end Questionnaire

namespace Engine

/-! ### The live session of every other id -/

/-- Replacing the sessions of one id keeps the first session of every other id. -/
theorem find?_map_replace_of_ne (sessions : List (SessionId × Session)) {id id' : SessionId}
    (s : Session) (other : id' ≠ id) :
    (sessions.map fun (k, v) => if k == id then (k, s) else (k, v)).find? (·.1 == id') =
      sessions.find? (·.1 == id') := by
  induction sessions with
  | nil => rfl
  | cons p rest ih =>
    obtain ⟨k, v⟩ := p
    by_cases found : k = id'
    · subst found
      simp [other]
    · -- The replacement keeps the key, so both searches pass over the pair.
      rw [List.map_cons]
      dsimp only at ih ⊢
      rw [List.find?_cons_of_neg (by split <;> simpa using found), ih,
        List.find?_cons_of_neg (by simpa using found)]

/-- Putting a session live under one id keeps the live session of every other id. -/
theorem find?_putSession_of_ne (e : Engine) {id id' : SessionId} (s : Session) (other : id' ≠ id) :
    (Engine.run e (putSession id s)).2.sessions.find? (·.1 == id') =
      e.sessions.find? (·.1 == id') := by
  unfold putSession
  rw [run_modify]
  split
  · exact find?_map_replace_of_ne e.sessions s other
  · simp [List.find?_append, Ne.symm other]

/-- From `e` to `e'`, the live sessions change only by `s` being put live under `id`. -/
def PutsLive (id : SessionId) (s : Session) (e e' : Engine) : Prop :=
  ∃ e1 e2, e1.sessions = e.sessions ∧ Engine.run e1 (putSession id s) = (.ok (), e2) ∧
    e'.sessions = e2.sessions

namespace PutsLive

variable {id id' : SessionId} {s s' : Session} {e e' : Engine}

theorem of_logOnly {e1 e2 : Engine} (only : LogOnly e e1)
    (put : Engine.run e1 (putSession id s) = (.ok (), e2)) (only' : LogOnly e2 e') :
    PutsLive id s e e' :=
  ⟨e1, e2, only.sessions_eq, put, only'.sessions_eq⟩

theorem run_session (puts : PutsLive id s e e') : Engine.run e' (session id) = (.ok s, e') := by
  obtain ⟨e1, e2, -, put, sessions⟩ := puts
  obtain ⟨sessions', putAs, found⟩ := run_putSession e1 id s
  rw [putAs, Prod.mk.injEq] at put
  obtain ⟨-, rfl⟩ := put
  have live : e'.sessions.find? (·.1 == id) = some (id, s) := by
    rw [sessions]
    exact found
  exact run_session_of_find? live

theorem run_session_of_ne (puts : PutsLive id s e e') (other : id' ≠ id)
    (live : Engine.run e' (session id') = (.ok s', e')) :
    Engine.run e (session id') = (.ok s', e) := by
  obtain ⟨e1, e2, same, put, sessions⟩ := puts
  obtain ⟨-, key, found⟩ := run_session_ok live
  have kept := find?_putSession_of_ne e1 s other
  rw [put, ← sessions, found, same] at kept
  exact run_session_of_find? kept.symm

end PutsLive

/-- Dropping a session from memory keeps every other session and leaves none under its id: a
session live afterwards was live before. -/
theorem run_session_of_withoutSession {e e' : Engine} {id id' : SessionId} {s : Session}
    (dropped : e'.sessions = withoutSession e id') (live : Engine.run e' (session id) = (.ok s, e')) :
    Engine.run e (session id) = (.ok s, e) := by
  obtain ⟨-, key, found⟩ := run_session_ok live
  rw [dropped] at found
  by_cases same : id = id'
  · -- No session is left under the dropped id.
    subst same
    have named : key = id := by simpa using List.find?_some found
    have kept : key ≠ id := by
      simpa using (List.mem_filter.mp (List.mem_of_find?_eq_some found)).2
    exact absurd named kept
  · have kept : (withoutSession e id').find? (·.1 == id) = e.sessions.find? (·.1 == id) := by
      simp only [withoutSession, List.find?_filter]
      congr 1
      funext p
      by_cases key : p.1 = id <;> simp [key, same]
    rw [kept] at found
    exact run_session_of_find? found

/-! ### Keeping a block's mark -/

/-- The session `s` has the block `b` submitted as the session `id` of `e` had it: that session
is live and has `b` submitted, with the same answer as `s` in every slot of the block. -/
def MarkedAsIn (id : SessionId) (b : Block) (e : Engine) (s : Session) : Prop :=
  ∃ s₀, Engine.run e (session id) = (.ok s₀, e) ∧ s₀.progress.isSubmitted b.id = true ∧
    ∀ slot ∈ b.slotIds, s.answers.get? slot = s₀.answers.get? slot

/-- From `e` to `e'`, the session `id` keeps the block `b` submitted only as it was: whenever it
has `b` submitted in `e'`, it had in `e`, with the same answer in every slot of the block. -/
def KeepsMark (id : SessionId) (b : Block) (e e' : Engine) : Prop :=
  ∀ s', Engine.run e' (session id) = (.ok s', e') → s'.progress.isSubmitted b.id = true →
    MarkedAsIn id b e s'

/-- A mark kept from `e` to `e'` goes back to `e` with its answers. -/
theorem MarkedAsIn.of_keepsMark {id : SessionId} {b : Block} {e e' : Engine} {s : Session}
    (later : MarkedAsIn id b e' s) (kept : KeepsMark id b e e') : MarkedAsIn id b e s := by
  obtain ⟨s₁, live₁, marked₁, same₁⟩ := later
  obtain ⟨s₀, live₀, marked₀, same₀⟩ := kept s₁ live₁ marked₁
  exact ⟨s₀, live₀, marked₀, fun slot declared => (same₁ slot declared).trans (same₀ slot declared)⟩

namespace KeepsMark

variable {id id' : SessionId} {b : Block} {e e' : Engine}

theorem of_sessions_eq (same : e'.sessions = e.sessions) : KeepsMark id b e e' := by
  intro s' live marked
  obtain ⟨-, key, found⟩ := run_session_ok live
  exact ⟨s', run_session_of_find? (same ▸ found), marked, fun _ _ => rfl⟩

theorem of_putsLive {s : Session} (puts : PutsLive id' s e e')
    (kept : id' = id → s.progress.isSubmitted b.id = true →
      ∃ s₀, Engine.run e (session id) = (.ok s₀, e) ∧ Session.KeepsMark b s₀ s) :
    KeepsMark id b e e' := by
  intro s' live marked
  by_cases same : id' = id
  · subst same
    rw [puts.run_session, Prod.mk.injEq, Except.ok.injEq] at live
    obtain ⟨rfl, -⟩ := live
    obtain ⟨s₀, found, keeps⟩ := kept rfl marked
    exact ⟨s₀, found, keeps marked⟩
  · exact ⟨s', puts.run_session_of_ne (Ne.symm same) live, marked, fun _ _ => rfl⟩

/-- Dropping a session from memory keeps every other session and leaves none under its id. -/
theorem of_withoutSession (dropped : e'.sessions = withoutSession e id') : KeepsMark id b e e' :=
  fun s' live marked => ⟨s', run_session_of_withoutSession dropped live, marked, fun _ _ => rfl⟩

end KeepsMark

/-! ### Sessions an operation puts live -/

section Sessions

variable {q : Questionnaire} (checked : q.Checked) {b b' : Block} (member : b ∈ q.blocks)
  (member' : b' ∈ q.blocks)
include checked member member'

/-- **An edit or a blur withdraws the mark of its block or changes no answer.** The session put
back after the enforcer changed the slots of a question of `b'` keeps the mark of every block
`b`: of another block, since its slots are not the question's; of `b'` itself, since the mark is
withdrawn unless the answers are as they were. -/
theorem keepsMark_edited {question : Question} (within : question.slotIds ⊆ b'.slotIds)
    {s : Session} {entry : Entry} (framed : Entry.Frame (· ∈ question.slotIds) ⟨s.answers, s.drafts⟩ entry)
    {reopened : Bool} (kept : reopened = false → entry.answers = s.answers) :
    Session.KeepsMark b s (editedSession s entry b'.id reopened) := by
  by_cases same : b'.id = b.id
  · cases reopened with
    | true =>
      intro marked
      simp [editedSession, same] at marked
    | false =>
      intro marked
      refine ⟨by simpa [editedSession] using marked, fun slot _ => ?_⟩
      simp [editedSession, Session.withEntry, kept rfl]
  · obtain ⟨frame, -⟩ := editedSession_frame framed b'.id reopened
    exact Session.KeepsMark.of_frame frame (fun named => same named.symm)
      fun slot declared inside => checked.not_mem_slotIds member member' same declared (within inside)

/-- The session a rejected submission of `b'` puts back keeps the mark of every block: `b'` is
unmarked, and the edits touched only slots of `b'`. -/
theorem keepsMark_rejected {shown : List Question} (within : shown.flatMap Question.slotIds ⊆ b'.slotIds)
    {live validated : Session}
    (edited : Session.Frame (· ∈ shown.flatMap Question.slotIds) (· = b'.id)
      (· ∈ b'.calculations.map (·.id)) live validated) :
    Session.KeepsMark b live { validated with progress := (validated.progress.forget b'.id).2 } := by
  by_cases same : b'.id = b.id
  · intro marked
    simp [same] at marked
  · have reopened : Session.Frame (· ∈ shown.flatMap Question.slotIds) (· = b'.id)
        (· ∈ b'.calculations.map (·.id)) validated { validated with progress := (validated.progress.forget b'.id).2 } :=
      Session.Frame.of_progress fun _ other => ProgressStore.isSubmitted_forget_of_ne _ other
    exact Session.KeepsMark.of_frame (edited.trans reopened) (fun named => same named.symm)
      fun slot declared inside => checked.not_mem_slotIds member member' same declared (within inside)

/-- The session an accepted submission of another block `b'` leaves keeps the mark of `b`:
wiping unmarks `b` when it clears it, and otherwise touches neither its mark nor its slots. -/
theorem keepsMark_accepted (config : EngineConfig) {shown : List Question}
    (within : shown.flatMap Question.slotIds ⊆ b'.slotIds) (other : b'.id ≠ b.id)
    {live validated : Session}
    (edited : Session.Frame (· ∈ shown.flatMap Question.slotIds) (· = b'.id)
      (· ∈ b'.calculations.map (·.id)) live validated) :
    Session.KeepsMark b live (acceptedSession q config b'.id validated) := by
  intro marked
  by_cases wiped : wipes config (q.routingPath validated.answers) b = true
  · have unmarked := wipeAll_unsubmitted config (q.routingPath validated.answers)
      { validated with progress := (validated.progress.markSubmitted b'.id).2 } q.blocks member wiped
    rw [acceptedSession, unmarked] at marked
    cases marked
  · have frame : SubmitFrame q config b' shown (q.routingPath validated.answers) live
        (acceptedSession q config b'.id validated) := SubmitFrame.of_accepted edited
    have spared : ¬ Wiped q config (q.routingPath validated.answers) b := fun w => wiped w.2
    have distinct : b ≠ b' := fun same => other (congrArg Block.id same.symm)
    refine ⟨?_, fun slot declared =>
      frame.answer_kept checked within member' member distinct spared declared⟩
    rw [← frame.progress b.id ?_]
    · exact marked
    -- The mark of `b` is neither the submitted block's nor a wiped block's.
    rintro (named | ⟨w, cleared, named⟩)
    · exact other named.symm
    · exact spared (checked.block_eq_of_id member cleared.1 named ▸ cleared)

end Sessions

/-! ### Each operation -/

/-- The operation, run on `e`, submits the block `block` of the session `id` afresh: an accepted
submission of the block, or a resumption of the session from its snapshot. -/
def Operation.Marks (e : Engine) (id : SessionId) (block : BlockId) : Operation → Prop
  | .submit id' block' edits => id' = id ∧ block' = block ∧
      ∃ result e', Engine.run e (submitBlock id' block' edits) = (.ok result, e') ∧ result.errors = []
  | .resume id' => id' = id ∧ ∃ e', Engine.run e (resumeSession id') = (.ok (), e')
  | _ => False

/-- The question shown for a slot is a question of its block. -/
theorem owningQuestion_slotIds {b : Block} {view : Lookup} {slot : SlotId} {question : Question}
    (owner : owningQuestion (b.questionsFor view) slot = some question) :
    question.slotIds ⊆ b.slotIds := fun _ declared =>
  Block.questionsFor_slotIds b view (List.mem_flatMap.mpr ⟨question, owningQuestion_mem owner, declared⟩)

/-- The session a submission of `b` validates differs from the live one in the shown questions'
slots and the block's totals only. -/
theorem validatedSession_frame {e e' : Engine} {live edited : Session} {b : Block}
    {shown : List Question} {edits : Entries Edit}
    (applied : Engine.run e (applyEdits live b shown edits) = (.ok edited, e')) (q : Questionnaire) :
    Session.Frame (· ∈ shown.flatMap Question.slotIds) (· = b.id) (· ∈ b.calculations.map (·.id))
      live (validatedSession q b edited) := by
  obtain ⟨entry, rfl, framed, -⟩ := run_applyEdits_frame applied
  exact (Session.Frame.of_entry framed).trans
    (Session.Frame.of_totals fun _ other => get?_recordTotals_of_not_mem _ _ _ other)

section Operations

variable {e : Engine} {id : SessionId} {b : Block}

theorem keepsMark_start : KeepsMark id b e (Operation.start.apply e) := by
  show KeepsMark id b e (Engine.run e startSession).2
  rcases ran : Engine.run e startSession with ⟨r, e'⟩
  cases r with
  | ok fresh =>
    obtain ⟨-, store, e1, -, put, only⟩ := run_startSession_ok ran
    -- The new session is empty, so nothing is submitted in it.
    refine KeepsMark.of_putsLive
      ⟨{ e with nextSerial := e.nextSerial + 1, store }, e1, rfl, put, only.sessions_eq⟩
      fun _ marked => ?_
    cases marked
  | error err => exact KeepsMark.of_sessions_eq (run_startSession_error ran).1.1

theorem keepsMark_resume (id' : SessionId) (fresh : ¬ (Operation.resume id').Marks e id b.id) :
    KeepsMark id b e ((Operation.resume id').apply e) := by
  show KeepsMark id b e (Engine.run e (resumeSession id')).2
  rcases ran : Engine.run e (resumeSession id') with ⟨r, e'⟩
  cases r with
  | ok u =>
    obtain ⟨snapshot, -, -, -, e1, put, only⟩ := run_resumeSession_ok ran
    -- Resuming the session itself marks afresh; resuming another leaves it alone.
    refine KeepsMark.of_putsLive (PutsLive.of_logOnly (LogOnly.refl e) put only) fun same _ => ?_
    exact absurd ⟨same, e', ran⟩ fresh
  | error err => exact KeepsMark.of_sessions_eq ((resumeSession_failsQuietly id').unchanged ran).1

theorem keepsMark_close (id' : SessionId) : KeepsMark id b e ((Operation.close id').apply e) := by
  show KeepsMark id b e (Engine.run e (closeSession id')).2
  rcases ran : Engine.run e (closeSession id') with ⟨r, e'⟩
  cases r with
  | ok u => exact KeepsMark.of_withoutSession (run_closeSession_ok ran).1
  | error err =>
    rcases run_closeSession_error ran with ⟨-, rfl⟩ | ⟨-, -, -, dropped, -⟩
    · exact KeepsMark.of_sessions_eq rfl
    · exact KeepsMark.of_withoutSession dropped

variable (checked : e.questionnaire.Checked) (member : b ∈ e.questionnaire.blocks)
include checked member

theorem keepsMark_edit (id' : SessionId) (slot : SlotId) (change : Edit) (phase : EditPhase) :
    KeepsMark id b e ((Operation.edit id' slot change phase).apply e) := by
  show KeepsMark id b e (Engine.run e (edit id' slot change phase)).2
  rcases ran : Engine.run e (edit id' slot change phase) with ⟨r, e'⟩
  cases r with
  | ok applied =>
    obtain ⟨s, b', question, entry, found, owner, -, shown, edited, e1, only, put⟩ := run_edit_ok ran
    refine KeepsMark.of_putsLive (PutsLive.of_logOnly only put (LogOnly.refl e')) fun same _ => ?_
    subst same
    -- The block is reopened unless the edit was only a draft, which changed no answer.
    exact ⟨s, found, keepsMark_edited checked member (Questionnaire.mem_of_blockOf? owner)
      (owningQuestion_slotIds shown) (Question.applyEdit_frame edited)
      (Question.applyEdit_answers_of_kept edited)⟩
  | error err =>
    exact KeepsMark.of_sessions_eq ((edit_failsQuietly id' slot change phase).unchanged ran).1

theorem keepsMark_blur (id' : SessionId) (slot : SlotId) :
    KeepsMark id b e ((Operation.blur id' slot).apply e) := by
  show KeepsMark id b e (Engine.run e (blur id' slot)).2
  rcases ran : Engine.run e (blur id' slot) with ⟨r, e'⟩
  cases r with
  | ok applied =>
    obtain ⟨s, b', question, entry, found, owner, -, shown, committed, e1, only, put⟩ :=
      run_blur_ok ran
    refine KeepsMark.of_putsLive (PutsLive.of_logOnly only put (LogOnly.refl e')) fun same _ => ?_
    subst same
    -- The block is reopened unless there was no draft to commit, and then nothing changed.
    exact ⟨s, found, keepsMark_edited checked member (Questionnaire.mem_of_blockOf? owner)
      (owningQuestion_slotIds shown) (Question.commitDraft_frame committed)
      (Question.commitDraft_answers_of_none committed)⟩
  | error err => exact KeepsMark.of_sessions_eq ((blur_failsQuietly id' slot).unchanged ran).1

theorem keepsMark_submit (id' : SessionId) (block : BlockId) (edits : Entries Edit)
    (fresh : ¬ (Operation.submit id' block edits).Marks e id b.id) :
    KeepsMark id b e ((Operation.submit id' block edits).apply e) := by
  show KeepsMark id b e (Engine.run e (submitBlock id' block edits)).2
  rcases ran : Engine.run e (submitBlock id' block edits) with ⟨r, e'⟩
  cases r with
  | ok result =>
    obtain ⟨live, b', edited, found, defined, -, ⟨e1, e2, -, applied⟩, outcome⟩ :=
      run_submitBlock_cases ran
    obtain ⟨member', rfl⟩ := checked.block?_spec defined
    have frame := validatedSession_frame applied e.questionnaire
    have within := Block.questionsFor_slotIds b'
      (e.questionnaire.onPath live.answers (e.questionnaire.routingPath live.answers))
    rcases outcome with ⟨-, -, e3, only, put⟩ | ⟨-, rfl, store, e3, e4, -, only, put, only'⟩
    · -- Rejected: the submitted block is reopened.
      refine KeepsMark.of_putsLive (PutsLive.of_logOnly only put (LogOnly.refl e')) fun same _ => ?_
      subst same
      exact ⟨live, found, keepsMark_rejected checked member member' within frame⟩
    · -- Accepted: a submission of `b` itself marks it afresh.
      refine KeepsMark.of_putsLive ⟨{ e3 with store }, e4, only.sessions_eq, put, only'.sessions_eq⟩
        fun same _ => ?_
      subst same
      have other : b'.id ≠ b.id := fun named => fresh ⟨rfl, named, _, e', ran, rfl⟩
      exact ⟨live, found, keepsMark_accepted checked member member' e.config within other frame⟩
  | error err =>
    exact KeepsMark.of_sessions_eq ((submitBlock_failsQuietly id' block edits).unchanged ran).1

/-- **Every operation that does not mark the block afresh keeps it marked only as it was.** -/
theorem Operation.keepsMark : ∀ op : Operation, ¬ op.Marks e id b.id → KeepsMark id b e (op.apply e)
  | .start, _ => keepsMark_start
  | .resume id', fresh => keepsMark_resume id' fresh
  | .close id', _ => keepsMark_close id'
  | .edit id' slot change phase, _ => keepsMark_edit checked member id' slot change phase
  | .blur id' slot, _ => keepsMark_blur checked member id' slot
  | .submit id' block edits, fresh => keepsMark_submit checked member id' block edits fresh

end Operations

/-- **A keystroke kept as a draft leaves the session's answers and marks as they were.** -/
theorem run_edit_drafted {e e' : Engine} {id : SessionId} {slot : SlotId} {change : Edit}
    {phase : EditPhase} {applied : Applied}
    (ran : Engine.run e (edit id slot change phase) = (.ok applied, e'))
    (drafted : applied.drafted = true) :
    ∃ s s', Engine.run e (session id) = (.ok s, e) ∧ Engine.run e' (session id) = (.ok s', e') ∧
      s'.answers = s.answers ∧ s'.progress = s.progress := by
  obtain ⟨s, b', question, entry, found, -, -, -, edited, e1, only, put⟩ := run_edit_ok ran
  obtain ⟨kept, cleared⟩ := Question.applyEdit_drafted edited drafted
  refine ⟨s, _, found, (PutsLive.of_logOnly only put (LogOnly.refl e')).run_session, ?_, ?_⟩
  · simpa [editedSession, Session.withEntry] using kept
  · simp [editedSession, drafted, cleared]

/-! ### Runs -/

/-- The engine a run of operations leaves, one after the other. -/
def applyAll (e : Engine) (ops : List Operation) : Engine := ops.foldl Operation.apply e

/-- No operation of `ops`, run one after the other from `e`, is of the kind `P` at the engine it
runs on. -/
def NoneOf (P : Engine → Operation → Prop) (e : Engine) (ops : List Operation) : Prop :=
  ∀ pre op post, ops = pre ++ op :: post → ¬ P (applyAll e pre) op

theorem NoneOf.cons {P : Engine → Operation → Prop} {e : Engine} {op : Operation}
    {ops : List Operation} (first : ¬ P e op) (rest : NoneOf P (op.apply e) ops) :
    NoneOf P e (op :: ops) := by
  intro pre op' post split
  cases pre with
  | nil =>
    obtain ⟨rfl, -⟩ := List.cons.inj split
    exact first
  | cons p pre =>
    obtain ⟨rfl, later⟩ := List.cons.inj split
    exact rest pre op' post later

/-- **Along a run, a property was made by the last operation of a kind, or held at the start.**
When every step on an engine serving `q` that is not of the kind `P` carries `Q` back from the
engine it leaves to the engine it ran on, and `Q` holds after the run `ops`, then either some
operation of the run is of the kind, none after it is, and `Q` held right after it; or none is,
and `Q` held at the start. By induction on the run. -/
theorem lastStep_of_run {q : Questionnaire} (P : Engine → Operation → Prop) (Q : Engine → Prop)
    (back : ∀ e, e.questionnaire = q → ∀ op, ¬ P e op → Q (op.apply e) → Q e)
    (ops : List Operation) : ∀ e, e.questionnaire = q → Q (applyAll e ops) →
      (∃ pre op post, ops = pre ++ op :: post ∧ P (applyAll e pre) op ∧
        NoneOf P (applyAll e (pre ++ [op])) post ∧ Q (applyAll e (pre ++ [op]))) ∨
      (NoneOf P e ops ∧ Q e) := by
  induction ops with
  | nil =>
    intro e _ holds
    refine .inr ⟨fun pre op post split => ?_, holds⟩
    simp at split
  | cons op rest ih =>
    intro e served holds
    have served' : (op.apply e).questionnaire = q := ((op.apply_serves e).1).trans served
    rcases ih (op.apply e) served' holds with ⟨pre, op', post, split, made, none, after⟩ | ⟨none, after⟩
    · exact .inl ⟨op :: pre, op', post, by rw [split]; rfl, made, none, after⟩
    · by_cases made : P e op
      · exact .inl ⟨[], op, rest, rfl, made, none, after⟩
      · exact .inr ⟨NoneOf.cons made none, back e served op made after⟩

/-- No operation of `ops`, run one after the other from `e`, marks the block `block` of the
session `id` afresh. -/
def MarksNone (e : Engine) (id : SessionId) (block : BlockId) (ops : List Operation) : Prop :=
  ∀ pre op post, ops = pre ++ op :: post → ¬ op.Marks (applyAll e pre) id block

section Runs

variable {q : Questionnaire} (checked : q.Checked) {id : SessionId} {b : Block}
  (member : b ∈ q.blocks)
include checked member

/-- **Along a run, a marked block was marked last by one of its operations, or kept from the
start.** When the session `id` has `b` submitted after the run `ops` from `e`, either some
operation of the run marked `b` afresh, none after it did, and the session has `b` submitted as
right after that operation; or no operation of the run marked `b` and the session has `b`
submitted as in `e`: `lastStep_of_run`, with `Operation.keepsMark` at each step. -/
theorem markedAsIn_run (ops : List Operation) :
    ∀ e, e.questionnaire = q → ∀ s, Engine.run (applyAll e ops) (session id) =
      (.ok s, applyAll e ops) → s.progress.isSubmitted b.id = true →
      (∃ pre op post, ops = pre ++ op :: post ∧ op.Marks (applyAll e pre) id b.id ∧
        MarksNone (applyAll e (pre ++ [op])) id b.id post ∧
        MarkedAsIn id b (applyAll e (pre ++ [op])) s) ∨
      (MarksNone e id b.id ops ∧ MarkedAsIn id b e s) := by
  intro e served s live marked
  -- a step that does not mark `b` afresh carries the mark back to the engine it ran on
  have back : ∀ e, e.questionnaire = q → ∀ op : Operation, ¬ op.Marks e id b.id →
      MarkedAsIn id b (op.apply e) s → MarkedAsIn id b e s := by
    rintro e rfl op marks after
    exact after.of_keepsMark (Operation.keepsMark checked member op marks)
  exact lastStep_of_run (fun e op => op.Marks e id b.id) (fun e => MarkedAsIn id b e s) back ops e
    served ⟨s, live, marked, fun _ _ => rfl⟩

end Runs

/-- What the marks of submitted blocks do along every run from a fresh engine serving `q`: a block
marked in a session was marked last by an operation of the run (an accepted submission of the
block, or a resumption of the session), no later operation marked it, and every slot of the block
holds the answer it held right after that operation; every step of any engine serving `q` that
does not mark a block afresh keeps it marked only as it was, so a step that changes an answer of
a marked block withdraws its mark; and a keystroke kept as a draft leaves the session's answers
and marks. -/
structure MarksTrackAnswers (q : Questionnaire) (config : EngineConfig) (store : SnapshotStore) :
    Prop where
  lastMark : ∀ (ops : List Operation) (id : SessionId) (b : Block) (s : Session), b ∈ q.blocks →
    Engine.run (applyAll (create q config store) ops) (session id) =
      (.ok s, applyAll (create q config store) ops) →
    s.progress.isSubmitted b.id = true →
    ∃ pre op post, ops = pre ++ op :: post ∧ op.Marks (applyAll (create q config store) pre) id b.id ∧
      MarksNone (applyAll (create q config store) (pre ++ [op])) id b.id post ∧
      MarkedAsIn id b (applyAll (create q config store) (pre ++ [op])) s
  step : ∀ (e : Engine), e.questionnaire = q → ∀ (op : Operation) (id : SessionId) (b : Block),
    b ∈ q.blocks → ¬ op.Marks e id b.id → KeepsMark id b e (op.apply e)
  drafts : ∀ (e e' : Engine) (id : SessionId) (slot : SlotId) (change : Edit) (phase : EditPhase)
    (applied : Applied), Engine.run e (edit id slot change phase) = (.ok applied, e') →
    applied.drafted = true →
    ∃ s s', Engine.run e (session id) = (.ok s, e) ∧ Engine.run e' (session id) = (.ok s', e') ∧
      s'.answers = s.answers ∧ s'.progress = s.progress

/-- **A submitted block is reopened whenever its answers change.** On a questionnaire that
loading accepts, with any settings and any store, the marks of submitted blocks track their
answers along every run (`MarksTrackAnswers`). -/
theorem marks_track_answers {d : QuestionnaireDefinition} {q : Questionnaire}
    (accepted : Questionnaire.ofDefinition d = .ok q) (config : EngineConfig)
    (store : SnapshotStore) : MarksTrackAnswers q config store := by
  have checked := checked_of_ofDefinition accepted
  refine ⟨fun ops id b s member live marked => ?_, fun e served op id b member fresh => ?_,
    fun _ _ _ _ _ _ _ ran drafted => run_edit_drafted ran drafted⟩
  · -- A fresh engine has no live session, so the mark comes from an operation of the run.
    rcases markedAsIn_run checked member ops (create q config store) rfl s live marked with
      found | ⟨-, s₀, live₀, -⟩
    · exact found
    · obtain ⟨-, key, none⟩ := run_session_ok live₀
      simp [create] at none
  · subst served
    exact Operation.keepsMark checked member op fresh

/-- On the census, with the default settings and an empty store, the marks of submitted blocks
track their answers. -/
theorem marks_track_answers_census :
    Questionnaire.ofDefinition Catalog.censusHousehold = .ok censusEngine.questionnaire ∧
      MarksTrackAnswers censusEngine.questionnaire EngineConfig.default SnapshotStore.empty :=
  have accepted : Questionnaire.ofDefinition Catalog.censusHousehold =
      .ok censusEngine.questionnaire := by rfl
  ⟨accepted, marks_track_answers accepted EngineConfig.default SnapshotStore.empty⟩

end Engine

end Survey
