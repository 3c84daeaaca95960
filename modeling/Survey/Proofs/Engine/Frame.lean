import Mathlib
import Survey.Proofs.Engine.Sessions
import Survey.Proofs.Engine.Submit

/-!
# What each operation may change

An operation on a session changes a part of it that the operation's target determines. The
write sets are predicates on slots, blocks and rules (`Session.Frame`); each step is framed on a
narrow set and the steps are composed and widened.

* `Engine.run_edit_frame`, `Engine.run_blur_frame` — an edit or a blur of a slot changes the
  answers and drafts of the question shown for the slot only, may withdraw the submission of the
  slot's block and nothing else of the progress, and records no total (`Engine.EditFrame`);
* `Questionnaire.routingPath_wipeAll` — wiping the blocks skipped by the route of some answers
  leaves that route as it was;
* `Engine.run_submitBlock_frame` — a submission changes the answers and drafts of the questions
  shown for its block, the block's submission and the totals of its calculations, and the same
  of every block wiping clears along the route of the answers it leaves (`Engine.SubmitFrame`);
* `Engine.SubmitFrame.answer_kept` — so the answers of any other block that is not wiped are
  kept exactly, and the route's view shows them again whenever the block is on it
  (`Questionnaire.Checked.onPath_eq_get?`).

Together: **`Engine.operations_touch_only_target`**.
-/

namespace Survey

namespace Engine

/-! ### Edits and blurs -/

/-- A field-level operation on `slot` of the session `id`, taking `e` to `e'`, touched only the
question the engine shows for the slot: the answers and drafts of that question's slots and the
submission of its block, which it can only withdraw; it recorded no total. -/
def EditFrame (e e' : Engine) (id : SessionId) (slot : SlotId) : Prop :=
  ∃ s s' b question, Engine.run e (session id) = (.ok s, e) ∧
    Engine.run e' (session id) = (.ok s', e') ∧ e.questionnaire.blockOf? slot = some b ∧
    owningQuestion (b.questionsFor (e.questionnaire.onPath s.answers
      (e.questionnaire.routingPath s.answers))) slot = some question ∧
    Session.Frame (· ∈ question.slotIds) (· = b.id) (fun _ => False) s s' ∧
    (s'.progress.isSubmitted b.id = true → s.progress.isSubmitted b.id = true)

/-- The session put back after an edit changes the entry's slots, may withdraw the block's
submission, and keeps every total. -/
theorem editedSession_frame {s : Session} {entry : Entry} {slots : SlotId → Prop}
    (framed : Entry.Frame slots ⟨s.answers, s.drafts⟩ entry) (block : BlockId) (reopened : Bool) :
    Session.Frame slots (· = block) (fun _ => False) s (editedSession s entry block reopened) ∧
      ((editedSession s entry block reopened).progress.isSubmitted block = true →
        s.progress.isSubmitted block = true) := by
  cases reopened with
  | false => exact ⟨⟨framed, fun _ _ => rfl, fun _ _ => rfl⟩, id⟩
  | true =>
    refine ⟨⟨framed, fun other distinct => ?_, fun _ _ => rfl⟩, by simp [editedSession]⟩
    exact ProgressStore.isSubmitted_forget_of_ne _ distinct

/-- **An edit touches only the question shown for its slot.** -/
theorem run_edit_frame {e e' : Engine} {id : SessionId} {slot : SlotId} {change : Edit}
    {phase : EditPhase} {applied : Applied}
    (ran : Engine.run e (edit id slot change phase) = (.ok applied, e')) : EditFrame e e' id slot := by
  obtain ⟨s, b, question, entry, live, owner, -, shown, edited, e1, -, put⟩ := run_edit_ok ran
  obtain ⟨framed, withdrawn⟩ := editedSession_frame (Question.applyEdit_frame edited) b.id _
  exact ⟨s, _, b, question, live, run_session_of_put put, owner, shown, framed, withdrawn⟩

/-- **A blur touches only the question shown for its slot.** -/
theorem run_blur_frame {e e' : Engine} {id : SessionId} {slot : SlotId} {applied : Option Applied}
    (ran : Engine.run e (blur id slot) = (.ok applied, e')) : EditFrame e e' id slot := by
  obtain ⟨s, b, question, entry, live, owner, -, shown, committed, e1, -, put⟩ := run_blur_ok ran
  obtain ⟨framed, withdrawn⟩ := editedSession_frame (Question.commitDraft_frame committed) b.id _
  exact ⟨s, _, b, question, live, run_session_of_put put, owner, shown, framed, withdrawn⟩

end Engine

/-! ### Wiping keeps the route -/

namespace Questionnaire

section Checked

variable {q : Questionnaire} (checked : q.Checked)
include checked

/-- On a checked questionnaire, the view of a path shows the answer of a slot of any block on
it. -/
theorem Checked.onPath_eq_get? {w : Block} (member : w ∈ q.blocks) {slot : SlotId}
    (declared : slot ∈ w.slotIds) (answers : AnswerStore) {path : RoutingPath}
    (listed : w.id ∈ path.blocks) : q.onPath answers path slot = answers.get? slot := by
  simp [onPath, reachable, checked.blockOf?_of_mem member declared, listed]

/-- **Wiping the blocks a route skips leaves the route as it was**: the blocks on it keep their
answers, and a route reads only those. -/
theorem routingPath_wipeAll (config : EngineConfig) (s : Session) {path : RoutingPath}
    (routed : q.routingPath s.answers = path) :
    q.routingPath (q.blocks.foldl (fun acc w =>
      if Engine.wipes config path w then Engine.wipeBlock acc w else acc) s).answers = path := by
  subst routed
  apply routingPath_eq_of_agreeOn
  intro slot w owner listed
  have frame := Engine.wipeAll_frame q config (q.routingPath s.answers) s q.blocks
    fun _ member => member
  exact (frame.entry.answer slot (Engine.not_wiped_of_onlyOnPath (checked.onlyOnPath owner listed))).symm

/-- So an accepted session routes as the validated one did. -/
theorem routingPath_acceptedSession (config : EngineConfig) (block : BlockId) (validated : Session) :
    q.routingPath (Engine.acceptedSession q config block validated).answers =
      q.routingPath validated.answers :=
  routingPath_wipeAll checked config _ rfl

end Checked

end Questionnaire

/-! ### Submissions -/

namespace Engine

/-- What a submission of the block `b` may change from `live` to `final`, when `shown` are the
questions shown for the block and `path` is the route of the answers it leaves: the answers and
drafts of the shown questions, the block's submission and its calculations' totals, and the
answers, drafts, submission and totals of every block wiping clears along `path`. -/
def SubmitFrame (q : Questionnaire) (config : EngineConfig) (b : Block) (shown : List Question)
    (path : RoutingPath) (live final : Session) : Prop :=
  Session.Frame
    (fun slot => slot ∈ shown.flatMap Question.slotIds ∨ ∃ w, Wiped q config path w ∧ slot ∈ w.slotIds)
    (fun block => block = b.id ∨ ∃ w, Wiped q config path w ∧ block = w.id)
    (fun rule => rule ∈ b.calculations.map (·.id) ∨
      ∃ w, Wiped q config path w ∧ rule ∈ w.calculations.map (·.id))
    live final

section Submitted

variable {q : Questionnaire} {config : EngineConfig} {b : Block} {shown : List Question}
  {path : RoutingPath} {live validated : Session}

/-- Before its outcome, a submission changes the shown questions' slots and the block's totals. -/
theorem SubmitFrame.of_rejected
    (edited : Session.Frame (· ∈ shown.flatMap Question.slotIds) (· = b.id)
      (· ∈ b.calculations.map (·.id)) live validated) :
    SubmitFrame q config b shown path live
      { validated with progress := (validated.progress.forget b.id).2 } := by
  have reopened : Session.Frame (· ∈ shown.flatMap Question.slotIds) (· = b.id)
      (· ∈ b.calculations.map (·.id)) validated
      { validated with progress := (validated.progress.forget b.id).2 } :=
    Session.Frame.of_progress fun _ other => ProgressStore.isSubmitted_forget_of_ne _ other
  exact (edited.trans reopened).mono (fun _ => .inl) (fun _ => .inl) (fun _ => .inl)

/-- An accepted submission marks the block, then wipes the blocks skipped along `path`. -/
theorem SubmitFrame.of_accepted
    (edited : Session.Frame (· ∈ shown.flatMap Question.slotIds) (· = b.id)
      (· ∈ b.calculations.map (·.id)) live validated) :
    SubmitFrame q config b shown path live (q.blocks.foldl
      (fun s w => if wipes config path w then wipeBlock s w else s)
      { validated with progress := (validated.progress.markSubmitted b.id).2 }) := by
  have marked : Session.Frame (· ∈ shown.flatMap Question.slotIds) (· = b.id)
      (· ∈ b.calculations.map (·.id)) validated
      { validated with progress := (validated.progress.markSubmitted b.id).2 } :=
    Session.Frame.of_progress fun _ other => ProgressStore.isSubmitted_markSubmitted_of_ne _ other
  have wiped := wipeAll_frame q config path
    { validated with progress := (validated.progress.markSubmitted b.id).2 } q.blocks
    fun _ member => member
  exact ((edited.trans marked).mono (fun _ => .inl) (fun _ => .inl) (fun _ => .inl)).trans
    (wiped.mono (fun _ => .inr) (fun _ => .inr) (fun _ => .inr))

end Submitted

/-- **A submission that returns touches only its block and the blocks it wipes**: on a checked
questionnaire, the session it leaves differs from the live one within `SubmitFrame`, with the
route of the answers it leaves. -/
theorem run_submitBlock_frame {e e' : Engine} {id : SessionId} {block : BlockId}
    {edits : Entries Edit} {result : Submission} (checked : e.questionnaire.Checked)
    (ran : Engine.run e (submitBlock id block edits) = (.ok result, e')) :
    ∃ live b final, Engine.run e (session id) = (.ok live, e) ∧
      e.questionnaire.block? block = some b ∧ Engine.run e' (session id) = (.ok final, e') ∧
      SubmitFrame e.questionnaire e.config b
        (b.questionsFor (e.questionnaire.onPath live.answers
          (e.questionnaire.routingPath live.answers)))
        (e.questionnaire.routingPath final.answers) live final := by
  obtain ⟨live, b, edited, found, defined, -, ⟨e1, e2, -, applied⟩, outcome⟩ :=
    run_submitBlock_cases ran
  obtain ⟨-, named⟩ := checked.block?_spec defined
  subst named
  -- Whatever the outcome, the edits and the block's totals come first.
  obtain ⟨entry, rfl, framed, -⟩ := run_applyEdits_frame applied
  have validated : Session.Frame (· ∈ (shownQuestions e.questionnaire b live).flatMap Question.slotIds)
      (· = b.id) (· ∈ b.calculations.map (·.id)) live
      (validatedSession e.questionnaire b (Session.withEntry live entry)) :=
    (Session.Frame.of_entry framed).trans
      (Session.Frame.of_totals fun _ other => get?_recordTotals_of_not_mem _ _ _ other)
  rcases outcome with ⟨-, -, e3, -, put⟩ | ⟨-, -, store, e3, e4, -, -, put, reported⟩
  · -- Rejected: the block is reopened and the session put back.
    exact ⟨live, b, _, found, defined, run_session_of_put put, SubmitFrame.of_rejected validated⟩
  · -- Accepted: the block is marked and the blocks skipped by the route of the edited answers
    -- wiped, which leaves that route as it was.
    refine ⟨live, b, _, found, defined, reported.run_session (run_session_of_put put), ?_⟩
    rw [Questionnaire.routingPath_acceptedSession checked]
    exact SubmitFrame.of_accepted validated

section Kept

variable {q : Questionnaire} (checked : q.Checked) {config : EngineConfig} {b : Block}
  {shown : List Question} {path : RoutingPath} {live final : Session}
include checked

/-- **A block other than the submitted one that wiping spares keeps its answers exactly.** -/
theorem SubmitFrame.answer_kept (frame : SubmitFrame q config b shown path live final)
    (within : shown.flatMap Question.slotIds ⊆ b.slotIds) (member : b ∈ q.blocks) {w : Block}
    (other : w ∈ q.blocks) (distinct : w ≠ b) (spared : ¬ Wiped q config path w) {slot : SlotId}
    (declared : slot ∈ w.slotIds) : final.answers.get? slot = live.answers.get? slot := by
  refine frame.entry.answer slot ?_
  -- The slot is declared by `w` alone, which is neither the submitted block nor wiped.
  rintro (shownSlot | ⟨w', wiped, declared'⟩)
  · exact distinct (checked.slots_apart w other b member slot declared (within shownSlot))
  · rw [← checked.slots_apart w other w' wiped.1 slot declared declared'] at wiped
    exact spared wiped

end Kept

/-- **Operations touch only their target.** On a questionnaire that loading accepts and from
every engine state, an edit or a blur of a slot touches only the question shown for it
(`EditFrame`). A submission of a block changes only the answers and drafts of the questions
shown for it, the block's submission and totals, and the same of the blocks it wipes along the
route it leaves; every other block that is not wiped keeps its answers exactly, and the view of
any route through it shows them again. -/
theorem operations_touch_only_target {d : QuestionnaireDefinition} {e e' : Engine}
    (accepted : Questionnaire.ofDefinition d = .ok e.questionnaire) :
    (∀ id slot change phase applied,
      Engine.run e (edit id slot change phase) = (.ok applied, e') → EditFrame e e' id slot) ∧
    (∀ id slot applied, Engine.run e (blur id slot) = (.ok applied, e') → EditFrame e e' id slot) ∧
    (∀ id block edits result, Engine.run e (submitBlock id block edits) = (.ok result, e') →
      ∃ live b final, Engine.run e (session id) = (.ok live, e) ∧
        e.questionnaire.block? block = some b ∧ Engine.run e' (session id) = (.ok final, e') ∧
        SubmitFrame e.questionnaire e.config b
          (b.questionsFor (e.questionnaire.onPath live.answers
            (e.questionnaire.routingPath live.answers)))
          (e.questionnaire.routingPath final.answers) live final ∧
        ∀ w ∈ e.questionnaire.blocks, w.id ≠ block →
          ¬ Wiped e.questionnaire e.config (e.questionnaire.routingPath final.answers) w →
          ∀ slot ∈ w.slotIds, final.answers.get? slot = live.answers.get? slot ∧
            ∀ path : RoutingPath, w.id ∈ path.blocks →
              e.questionnaire.onPath final.answers path slot = live.answers.get? slot) := by
  have checked := checked_of_ofDefinition accepted
  refine ⟨fun _ _ _ _ _ ran => run_edit_frame ran, fun _ _ _ ran => run_blur_frame ran, ?_⟩
  intro id block edits result ran
  obtain ⟨live, b, final, found, defined, final_eq, frame⟩ := run_submitBlock_frame checked ran
  obtain ⟨member, named⟩ := checked.block?_spec defined
  refine ⟨live, b, final, found, defined, final_eq, frame, ?_⟩
  intro w other distinct spared slot declared
  have apart : w ≠ b := by
    rintro rfl
    exact distinct named
  have kept := frame.answer_kept checked (Block.questionsFor_slotIds b _) member other apart
    spared declared
  refine ⟨kept, fun path listed => ?_⟩
  rw [checked.onPath_eq_get? other declared final.answers listed, kept]

/-- The census's first submission, of an adult's age, changes only what its frame allows. -/
theorem operations_touch_only_target_census :
    Questionnaire.ofDefinition Catalog.censusHousehold = .ok censusEngine.questionnaire ∧
      ∃ live b final, Engine.run censusEngine (session ⟨0⟩) = (.ok live, censusEngine) ∧
        censusEngine.questionnaire.block? "over-16" = some b ∧
        Engine.run censusAfterAdult (session ⟨0⟩) = (.ok final, censusAfterAdult) ∧
        SubmitFrame censusEngine.questionnaire censusEngine.config b
          (b.questionsFor (censusEngine.questionnaire.onPath live.answers
            (censusEngine.questionnaire.routingPath live.answers)))
          (censusEngine.questionnaire.routingPath final.answers) live final := by
  have accepted : Questionnaire.ofDefinition Catalog.censusHousehold =
      .ok censusEngine.questionnaire := by rfl
  have submitted : Engine.run censusEngine (submitBlock ⟨0⟩ "over-16" adultAnswer) =
      (.ok ⟨[], some (.block ⟨"individual-section", "marital-status"⟩)⟩, censusAfterAdult) := by rfl
  obtain ⟨live, b, final, found, defined, final_eq, frame, -⟩ :=
    (operations_touch_only_target accepted).2.2 ⟨0⟩ "over-16" adultAnswer _ submitted
  exact ⟨accepted, live, b, final, found, defined, final_eq, frame⟩

end Engine

end Survey
