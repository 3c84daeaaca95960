import Mathlib
import Survey.Proofs.Engine.Reachable

/-!
# Properties of answers and drafts that every operation keeps

The engine changes the answers and drafts of a session in few ways: an edit or a blur is one
step of the enforcer on a question a block shows, a submission's edits are such steps one after
the other (`Engine.run_applyEdits_keeps`), wiping clears slots with their drafts, and a
resumption loads a committed session without its drafts. A property of answers and drafts that
each of these keeps (`Engine.EntryInvariant`) is therefore kept by every operation, for the live
sessions and the stored ones alike.

* `Engine.EntryInvariant` — holds with nothing answered, survives losing the drafts, and is kept
  by every edit of a shown question and by clearing a slot;
* `Engine.Sound Q` — a sorted session whose answers and drafts have `Q` (sortedness is what lets
  a stored session be read back);
* `Engine.Operation.apply_sound` — every operation keeps `Holds (Sound Q)` on an engine serving
  the questionnaire;
* **`Engine.Reachable.sound`** — so every engine a run reaches from one whose sessions are sound
  has only sound sessions, live and stored.
-/

namespace Survey

namespace Engine

/-- A property of the answers and drafts of a session that every step of an engine serving `q`
keeps: it holds with nothing answered, survives losing the drafts, is kept by every edit of a
question a block of `q` shows, and by clearing a slot with its draft. -/
structure EntryInvariant (q : Questionnaire) (Q : Entry → Prop) : Prop where
  empty : Q ⟨AnswerStore.empty, []⟩
  dropDrafts : ∀ entry, Q entry → Q { entry with drafts := [] }
  edit : ∀ b ∈ q.blocks, ∀ (view : Lookup), ∀ question ∈ b.questionsFor view,
    ∀ slot change phase entry applied entry',
      question.applyEdit slot change phase entry = .ok (applied, entry') → Q entry → Q entry'
  clear : ∀ entry slot, Q entry → Q ⟨(entry.answers.clear slot).2, entry.drafts.erase slot⟩

/-- A sorted session whose answers and drafts have `Q`. -/
def Sound (Q : Entry → Prop) (s : Session) : Prop := s.Sorted ∧ Q ⟨s.answers, s.drafts⟩

namespace EntryInvariant

variable {q : Questionnaire} {Q : Entry → Prop} (inv : EntryInvariant q Q)
include inv

/-- Committing a draft of a shown question keeps the invariant: it is an edit, or nothing. -/
theorem commitDraft {b : Block} (member : b ∈ q.blocks) {view : Lookup} {question : Question}
    (listed : question ∈ b.questionsFor view) {slot : SlotId} {entry : Entry}
    {result : Option Applied × Entry} (committed : question.commitDraft slot entry = .ok result)
    (holds : Q entry) : Q result.2 := by
  obtain ⟨applied, entry'⟩ := result
  rcases Question.commitDraft_eq_ok committed with ⟨-, -, rfl⟩ | ⟨change, a, -, -, edited⟩
  · exact holds
  · exact inv.edit b member view question listed _ _ _ _ _ _ edited holds

theorem keeps_clearSlots (s : Session) (slots : List SlotId) (holds : Q ⟨s.answers, s.drafts⟩) :
    Q ⟨(clearSlots s slots).answers, (clearSlots s slots).drafts⟩ := by
  induction slots generalizing s with
  | nil => exact holds
  | cons slot rest ih => exact ih _ (inv.clear _ slot holds)

/-- Wiping blocks clears their slots with their drafts, which keeps the invariant. -/
theorem keeps_wipeAll (config : EngineConfig) (path : RoutingPath) (s : Session) (bs : List Block)
    (holds : Q ⟨s.answers, s.drafts⟩) :
    Q ⟨(bs.foldl (fun s b => if wipes config path b then wipeBlock s b else s) s).answers,
      (bs.foldl (fun s b => if wipes config path b then wipeBlock s b else s) s).drafts⟩ := by
  induction bs generalizing s with
  | nil => exact holds
  | cons b rest ih =>
    rw [List.foldl_cons]
    split
    · exact ih _ (inv.keeps_clearSlots s b.slotIds holds)
    · exact ih _ holds

end EntryInvariant

/-! ### Every operation keeps sound sessions -/

namespace Holds

variable {q : Questionnaire} {Q : Entry → Prop} (inv : EntryInvariant q Q) {e : Engine}
  (holds : Holds (Sound Q) e) (served : e.questionnaire = q)
include inv holds served

theorem edit_sound (id : SessionId) (slot : SlotId) (change : Edit) (phase : EditPhase) :
    Holds (Sound Q) ((Operation.edit id slot change phase).apply e) := by
  show Holds (Sound Q) (Engine.run e (Engine.edit id slot change phase)).2
  rcases ran : Engine.run e (Engine.edit id slot change phase) with ⟨r, e'⟩
  cases r with
  | ok applied =>
    obtain ⟨s, b, question, entry, found, owner, -, shown, edited, e1, only, put⟩ := run_edit_ok ran
    obtain ⟨key, live⟩ := live_mem found
    obtain ⟨sorted, kept⟩ := holds.live _ live
    subst served
    exact (holds.of_logOnly only).putSession
      ⟨sorted.editedSession (Question.applyEdit_sorted edited sorted.answers) _ _,
        inv.edit b (Questionnaire.mem_of_blockOf? owner) _ question (owningQuestion_mem shown)
          _ _ _ _ _ _ edited kept⟩ put
  | error err => exact holds.of_error (edit_failsQuietly id slot change phase) ran

theorem blur_sound (id : SessionId) (slot : SlotId) :
    Holds (Sound Q) ((Operation.blur id slot).apply e) := by
  show Holds (Sound Q) (Engine.run e (Engine.blur id slot)).2
  rcases ran : Engine.run e (Engine.blur id slot) with ⟨r, e'⟩
  cases r with
  | ok applied =>
    obtain ⟨s, b, question, entry, found, owner, -, shown, committed, e1, only, put⟩ :=
      run_blur_ok ran
    obtain ⟨key, live⟩ := live_mem found
    obtain ⟨sorted, kept⟩ := holds.live _ live
    subst served
    exact (holds.of_logOnly only).putSession
      ⟨sorted.editedSession (Question.commitDraft_sorted committed sorted.answers) _ _,
        inv.commitDraft (Questionnaire.mem_of_blockOf? owner) (owningQuestion_mem shown)
          committed kept⟩ put
  | error err => exact holds.of_error (blur_failsQuietly id slot) ran

theorem submit_sound (id : SessionId) (block : BlockId) (edits : Entries Edit) :
    Holds (Sound Q) ((Operation.submit id block edits).apply e) := by
  show Holds (Sound Q) (Engine.run e (submitBlock id block edits)).2
  rcases ran : Engine.run e (submitBlock id block edits) with ⟨r, e'⟩
  cases r with
  | ok result =>
    obtain ⟨live, b, edited, found, defined, -, ⟨e1, e2, -, applied⟩, outcome⟩ :=
      run_submitBlock_cases ran
    obtain ⟨key, member⟩ := live_mem found
    obtain ⟨sorted, kept⟩ := holds.live _ member
    have blockMember := (Questionnaire.mem_of_block? defined)
    subst served
    -- The edits are steps of the enforcer on questions the block shows.
    have editedSorted := run_applyEdits_sorted applied sorted
    obtain ⟨entry, rfl, editedKept, -⟩ := run_applyEdits_keeps applied
      (fun _ listed _ _ _ committed held => inv.commitDraft blockMember listed committed held)
      (fun question listed _ _ _ _ stepped held =>
        inv.edit b blockMember _ question listed _ _ _ _ _ _ stepped held) kept
    have validated : Sound Q (validatedSession e.questionnaire b (Session.withEntry live entry)) :=
      ⟨editedSorted.recordTotals _ _, editedKept⟩
    rcases outcome with ⟨-, -, e3, only, put⟩ | ⟨-, -, store, e3, e4, committed, only, put, only'⟩
    · exact (holds.of_logOnly only).putSession ⟨validated.1.forget block, validated.2⟩ put
    · -- Accepted: the block is marked, then the skipped blocks wiped.
      have final : Sound Q (acceptedSession e.questionnaire e.config block
          (validatedSession e.questionnaire b (Session.withEntry live entry))) :=
        ⟨(validated.1.markSubmitted block).wipeAll e.config _ e.questionnaire.blocks,
          inv.keeps_wipeAll e.config _ _ e.questionnaire.blocks validated.2⟩
      have stored : Holds (Sound Q) { e3 with store } :=
        (holds.commit final committed).of_unchanged ⟨only.sessions_eq, rfl⟩
      exact (stored.putSession final put).of_logOnly only'
  | error err => exact holds.of_error (submitBlock_failsQuietly id block edits) ran

end Holds

/-- **Every operation keeps sound sessions**, live and stored, on an engine serving the
questionnaire of the invariant. -/
theorem Operation.apply_sound {q : Questionnaire} {Q : Entry → Prop} (inv : EntryInvariant q Q)
    {e : Engine} (holds : Holds (Sound Q) e) (served : e.questionnaire = q) :
    ∀ op : Operation, Holds (Sound Q) (op.apply e)
  | .start => holds.start ⟨Session.sorted_empty, inv.empty⟩
  | .resume id => holds.resume
      (fun _ sound => ⟨sound.1.dropDrafts, inv.dropDrafts _ sound.2⟩)
      (fun _ sound => sound.1) id
  | .close id => holds.close id
  | .edit id slot change phase => holds.edit_sound inv served id slot change phase
  | .blur id slot => holds.blur_sound inv served id slot
  | .submit id block edits => holds.submit_sound inv served id block edits

/-- **Sessions stay sound along every run**: from an engine serving `q` whose sessions are sound,
every engine a run of operations reaches has only sound sessions, live and stored. -/
theorem Reachable.sound {q : Questionnaire} {Q : Entry → Prop} (inv : EntryInvariant q Q)
    {start e : Engine} (reached : Reachable start e) (served : start.questionnaire = q)
    (initial : Holds (Sound Q) start) : Holds (Sound Q) e :=
  reached.of_keeps served initial (Operation.apply_sound inv)

end Engine

end Survey
