import Mathlib
import Survey.Proofs.Exclusive.Writes
import Survey.Proofs.Exclusive.Questionnaire
import Survey.Proofs.Engine.Invariant

/-!
# Answers and drafts fit the questions shown

An edit checks a value against the slot of the question the block shows for it. When every
variant declares the slots of its question as the question does, the same ids in the same order
with the same kinds (`Questionnaire.VariantsKeepDeclarations`), that check is the check of the
slot in every question of the questionnaire, so stored answers and drafts keep passing it
whichever variant is shown later.

* `Questionnaire.declaration_eq_of_shown` — a slot of a shown question is declared as the slot of
  its id in every question;
* `Questionnaire.typed_invariant` — so fitting every question is an invariant of answers and
  drafts (`Engine.EntryInvariant`);
* `Engine.run_commitDraft`, `Engine.run_blur_error` — the engine's commit of a draft is the
  enforcer's, and a blur fails with an answer error only for an unknown slot or a failed commit;
* **`Engine.typing_along_runs`** — along every run from a fresh engine, live sessions fit every
  shown question, a blur never fails on a commit, and neither do the commits of pending drafts
  before a submission (`Engine.WellTyped`);
* `Engine.variant_kind_breaks_typing` — without the condition on variants, a number drafted before
  a variant declares its slot as text is refused when it is committed.
-/

namespace Survey

namespace Question

/-- The declarations of a question's slots, in order. -/
def declarations (q : Question) : List (SlotId × SlotKind × Bool) :=
  q.answers.map AnswerSlot.declaration

/-- A slot of a question declared like another has a slot of the same declaration there. -/
theorem exists_declaration {q q' : Question} (same : q'.declarations = q.declarations)
    {t : AnswerSlot} (member : t ∈ q'.answers) : ∃ s ∈ q.answers, s.declaration = t.declaration := by
  have listed : t.declaration ∈ q.declarations := same ▸ List.mem_map_of_mem member
  exact List.mem_map.mp listed

theorem profile_eq_of_declarations {q q' : Question} (same : q'.declarations = q.declarations) :
    q'.profile = q.profile := by
  have profiled : ∀ r : Question,
      r.profile = r.declarations.map fun d => (d.1, d.2.1.isExclusive) := fun r => by
    simp [profile, declarations, AnswerSlot.declaration, Function.comp_def]
  rw [profiled, profiled, same]

end Question

/-- The question a block shows in place of one of its questions is that question, or a variant
of it. -/
theorem Block.shownQuestion_cases (b : Block) (view : Lookup) (question : Question) :
    b.shownQuestion view question = question ∨
      ∃ v ∈ b.questionVariants, v.question.id = question.id ∧
        b.shownQuestion view question = v.question := by
  unfold Block.shownQuestion
  split
  · next v picked =>
    have chosen := List.find?_some picked
    simp only [Bool.and_eq_true, beq_iff_eq] at chosen
    exact .inr ⟨v, List.mem_of_find?_eq_some picked, chosen.1, rfl⟩
  · exact .inl rfl

namespace Questionnaire

/-- Every variant of a question declares the question's slots as it does: the same ids, in the
same order, of the same kinds, taking raw text alike. -/
def VariantsKeepDeclarations (q : Questionnaire) : Prop :=
  ∀ b ∈ q.blocks, ∀ v ∈ b.questionVariants, ∀ question ∈ b.questions,
    v.question.id = question.id → v.question.declarations = question.declarations

instance (q : Questionnaire) : Decidable q.VariantsKeepDeclarations :=
  inferInstanceAs (Decidable (∀ b ∈ q.blocks, ∀ v ∈ b.questionVariants, ∀ question ∈ b.questions,
    v.question.id = question.id → v.question.declarations = question.declarations))

theorem VariantsKeepDeclarations.keepsGroups {q : Questionnaire}
    (keeps : q.VariantsKeepDeclarations) : q.VariantsKeepGroups :=
  fun b member v variant question asked sameId =>
    Question.profile_eq_of_declarations (keeps b member v variant question asked sameId)

/-- Every stored answer and every draft fits the slot of its id in each question. -/
def Typed (q : Questionnaire) (entry : Entry) : Prop :=
  ∀ b ∈ q.blocks, ∀ question ∈ b.questions, ∀ slot ∈ question.answers, entry.Fits slot

section Shown

variable {q : Questionnaire} (keeps : q.VariantsKeepDeclarations)
include keeps

theorem shownQuestion_declarations {b : Block} (member : b ∈ q.blocks) {question : Question}
    (asked : question ∈ b.questions) (view : Lookup) :
    (b.shownQuestion view question).declarations = question.declarations := by
  rcases b.shownQuestion_cases view question with same | ⟨v, variant, sameId, shown⟩
  · rw [same]
  · rw [shown]
    exact keeps b member v variant question asked sameId

/-- The slots of a shown question fit wherever the questions' slots do. -/
theorem Typed.shown {entry : Entry} (typed : q.Typed entry) {b : Block} (member : b ∈ q.blocks)
    {view : Lookup} {shown : Question} (listed : shown ∈ b.questionsFor view) {slot : AnswerSlot}
    (hosted : slot ∈ shown.answers) : entry.Fits slot := by
  obtain ⟨own, asked, rfl⟩ := List.mem_map.mp listed
  obtain ⟨t, ownSlot, same⟩ :=
    Question.exists_declaration (shownQuestion_declarations keeps member asked view) hosted
  exact (typed b member own asked t ownSlot).of_declaration same

variable (checks : q.QuestionsChecked)
include checks

/-- **A slot of a shown question is declared as the slot of its id in every question**: its
question is a variant of the one question that has the id, which declares it once. -/
theorem declaration_eq_of_shown {b : Block} (member : b ∈ q.blocks) {view : Lookup}
    {shown : Question} (listed : shown ∈ b.questionsFor view) {target : AnswerSlot}
    (hosted : target ∈ shown.answers) {b' : Block} (member' : b' ∈ q.blocks) {question : Question}
    (asked' : question ∈ b'.questions) {slot : AnswerSlot} (declared : slot ∈ question.answers)
    (sameId : slot.id = target.id) : slot.declaration = target.declaration := by
  obtain ⟨own, asked, rfl⟩ := List.mem_map.mp listed
  obtain ⟨t, ownSlot, same⟩ :=
    Question.exists_declaration (shownQuestion_declarations keeps member asked view) hosted
  have ids : t.id = slot.id := (AnswerSlot.id_eq_of_declaration same).trans sameId.symm
  -- Slot ids are unique across the questions, and within each.
  have sameQuestion : own = question := checks.apart b member b' member' own asked question asked'
    slot.id (ids ▸ Question.mem_slotIds ownSlot) (Question.mem_slotIds declared)
  subst sameQuestion
  have sameSlot : t = slot :=
    List.inj_on_of_nodup_map (checks.grouped b member own asked).ids_nodup ownSlot declared ids
  rw [← sameSlot, same]

/-- **Fitting every question is an invariant of answers and drafts**: an edit of a shown
question writes only values checked against a slot declared as in every question. -/
theorem typed_invariant : Engine.EntryInvariant q q.Typed := by
  refine ⟨fun _ _ _ _ slot _ => Entry.Fits.empty slot,
    fun _ typed b member question asked slot declared =>
      (typed b member question asked slot declared).dropDrafts, ?_,
    fun _ cleared typed b member question asked slot declared =>
      (typed b member question asked slot declared).clear cleared⟩
  intro b member view shown listed _ _ _ entry _ entry' edited typed b' member' question asked'
    slot declared
  obtain ⟨target, found, writes⟩ := Question.applyEdit_writesChecked edited
  exact (typed b' member' question asked' slot declared).of_writesChecked writes fun sameId =>
    declaration_eq_of_shown keeps checks member listed (Question.answer?_mem found) member' asked'
      declared sameId

end Shown

end Questionnaire

namespace Engine

/-! ### The engine's commits are the enforcer's -/

/-- The engine's step of the enforcer gives the enforcer's result, its error as an answer error,
and only reports events. -/
theorem run_enforce (e : Engine) (question : Question) (slot : SlotId) (edit : Edit)
    (phase : EditPhase) (entry : Entry) :
    ∃ e', Engine.run e (enforce question slot edit phase entry) =
      ((question.applyEdit slot edit phase entry).mapError .answer, e') := by
  unfold enforce
  cases question.applyEdit slot edit phase entry with
  | error err => exact ⟨e, rfl⟩
  | ok result =>
    obtain ⟨applied, entry'⟩ := result
    dsimp only
    split
    · exact ⟨_, by rw [run_bind, run_emit]; rfl⟩
    · exact ⟨e, rfl⟩

/-- The engine commits a draft as the enforcer does. -/
theorem run_commitDraft (e : Engine) (question : Question) (slot : SlotId) (entry : Entry) :
    ∃ e', Engine.run e (commitDraft question slot entry) =
      ((question.commitDraft slot entry).mapError .answer, e') := by
  unfold commitDraft Question.commitDraft
  cases entry.drafts.lookup slot with
  | none => exact ⟨e, rfl⟩
  | some edit =>
    dsimp only
    obtain ⟨e1, enforced⟩ := run_enforce e question slot edit .commit entry
    rw [run_bind, enforced]
    cases question.applyEdit slot edit .commit entry with
    | error err => exact ⟨e1, rfl⟩
    | ok result => exact ⟨e1, rfl⟩

theorem run_session_error {e e' : Engine} {id : SessionId} {err : EngineError}
    (ran : Engine.run e (session id) = (.error err, e')) : err = .unknownSession id := by
  unfold session at ran
  rw [run_bind, run_get] at ran
  cases found : e.sessions.find? (·.1 == id) with
  | none =>
    simp only [found, run_throw, Prod.mk.injEq, Except.error.injEq] at ran
    exact ran.1.symm
  | some pair => simp [found] at ran

/-- Finding the question of a slot fails with an answer error only for a slot of no block. -/
theorem run_editableQuestion_error {e e' : Engine} {s : Session} {slot : SlotId} {err : AnswerError}
    (ran : Engine.run e (editableQuestion s slot) = (.error (.answer err), e')) :
    err = .unknownSlot slot := by
  unfold editableQuestion at ran
  rw [run_bind, run_served] at ran
  dsimp only at ran
  split at ran
  · rw [run_bind, run_pure] at ran
    dsimp only at ran
    rw [run_bind] at ran
    obtain ⟨e1, routed, -⟩ := run_pathFor e s.answers
    rw [routed] at ran
    dsimp only at ran
    -- Off the path, or not shown: neither is an answer error.
    split at ran
    · simp at ran
    · split at ran <;> simp at ran
  · rw [run_bind, run_throw] at ran
    simp only [Prod.mk.injEq, Except.error.injEq, EngineError.answer.injEq] at ran
    exact ran.1.symm

/-- After an edit or a blur, putting the session back cannot fail. -/
theorem run_putEdited_succeeds (e : Engine) (id : SessionId) (s : Session) (entry : Entry)
    (block : BlockId) (reopened : Bool) {α : Type} (a : α) :
    ∃ r e', Engine.run e (if reopened = true then
        reopen id (Session.withEntry s entry) block >>= fun s' => putSession id s' >>= fun _ => pure a
      else pure (Session.withEntry s entry) >>= fun s' => putSession id s' >>= fun _ => pure a) =
      (.ok r, e') := by
  have put : ∀ s', Succeeds (putSession id s' >>= fun _ => pure a) := fun s' =>
    Succeeds.bind (Succeeds.putSession _ _) fun _ => Succeeds.pure _
  have reopenedRun : Succeeds (reopen id (Session.withEntry s entry) block) := fun e =>
    let ⟨e', ran, _⟩ := run_reopen e id (Session.withEntry s entry) block
    ⟨_, e', ran⟩
  split
  · exact Succeeds.bind reopenedRun put e
  · exact Succeeds.bind (Succeeds.pure _) put e

/-- **How a blur fails with an answer error**: for a slot of no block, or because committing the
draft of the slot in the question its block shows failed with that error. -/
theorem run_blur_error {e e' : Engine} {id : SessionId} {slot : SlotId} {err : AnswerError}
    (ran : Engine.run e (blur id slot) = (.error (.answer err), e')) :
    err = .unknownSlot slot ∨
      ∃ s b question, Engine.run e (session id) = (.ok s, e) ∧
        e.questionnaire.blockOf? slot = some b ∧
        owningQuestion (b.questionsFor (e.questionnaire.onPath s.answers
          (e.questionnaire.routingPath s.answers))) slot = some question ∧
        question.commitDraft slot ⟨s.answers, s.drafts⟩ = .error err := by
  unfold blur at ran
  rw [run_bind] at ran
  rcases live : Engine.run e (session id) with ⟨_ | s, e1⟩
  · rw [live] at ran
    simp only [Prod.mk.injEq, Except.error.injEq] at ran
    cases ran.1 ▸ run_session_error live
  obtain ⟨same, -⟩ := run_session_ok live
  subst e1
  rw [live] at ran
  dsimp only at ran
  rw [run_bind] at ran
  rcases found : Engine.run e (editableQuestion s slot) with ⟨_ | ⟨b, question⟩, e2⟩
  · rw [found] at ran
    simp only [Prod.mk.injEq, Except.error.injEq] at ran
    exact .inl (run_editableQuestion_error (ran.1 ▸ found))
  obtain ⟨slotBlock, -, owner, -⟩ := run_editableQuestion_ok found
  rw [found] at ran
  dsimp only at ran
  rw [run_bind] at ran
  obtain ⟨e3, committed⟩ := run_commitDraft e2 question slot ⟨s.answers, s.drafts⟩
  rw [committed] at ran
  cases commit : question.commitDraft slot ⟨s.answers, s.drafts⟩ with
  | error err' =>
    simp only [commit, Except.mapError, Prod.mk.injEq, Except.error.injEq,
      EngineError.answer.injEq] at ran
    -- `rcases` put the session's outcome in place of its run in the goal.
    exact .inr ⟨s, b, question, rfl, slotBlock, owner, ran.1 ▸ commit⟩
  | ok result =>
    -- The commit succeeded, and putting the session back cannot fail.
    simp only [commit, Except.mapError] at ran
    obtain ⟨r, e4, tail⟩ :=
      run_putEdited_succeeds e3 id s result.2 b.id result.1.isSome result.1
    have impossible := tail.symm.trans ran
    simp at impossible

/-- Committing the pending drafts before a submission succeeds where every commit of a draft of
one of the questions succeeds and keeps a property that lets the next one succeed. -/
theorem run_commitPending_succeeds {Q : Entry → Prop} (edits : Entries Edit) {questions : List Question}
    (committing : ∀ question ∈ questions, ∀ slot ∈ question.slotIds, ∀ entry, Q entry →
      ∃ result, question.commitDraft slot entry = .ok result ∧ Q result.2)
    (e : Engine) {entry : Entry} (holds : Q entry) :
    ∃ entry' e', Engine.run e (commitPending edits entry questions) = (.ok entry', e') := by
  induction questions generalizing entry e with
  | nil => exact ⟨entry, e, rfl⟩
  | cons question rest ih =>
    simp only [commitPending]
    rw [run_bind]
    -- The drafts of the question are committed one slot after another.
    obtain ⟨committed, e1, folded, held⟩ := run_foldlM_succeeds Q
      (fun entry slot => do pure (← commitDraft question slot entry).2)
      ((question.answers.map (·.id)).filter fun slot =>
        entry.drafts.contains slot && !edits.contains slot)
      (fun slot pending acc e held => by
        obtain ⟨result, ok, kept⟩ := committing question List.mem_cons_self slot
          (List.mem_of_mem_filter pending) acc held
        obtain ⟨e', ran⟩ := run_commitDraft e question slot acc
        refine ⟨result.2, e', ?_, kept⟩
        rw [run_bind, ran, ok]
        rfl)
      entry e holds
    rw [folded]
    exact ih (fun question' listed => committing question' (List.mem_cons_of_mem _ listed)) e1 held

/-! ### Along runs -/

theorem mem_slotIds_of_owningQuestion {questions : List Question} {slot : SlotId}
    {question : Question} (owner : owningQuestion questions slot = some question) :
    slot ∈ question.slotIds := by
  have holds := List.find?_some owner
  exact Question.answer?_isSome_iff.mp holds

/-- Session state as the engine keeps it well typed: the answers and drafts of every live session
fit every question a block shows, on any view; a blur fails with an answer error only for a slot
of no block; and committing the pending drafts of a block's shown questions, as a submission does
first, succeeds. -/
structure WellTyped (e : Engine) : Prop where
  fits : ∀ p ∈ e.sessions, ∀ b ∈ e.questionnaire.blocks, ∀ (view : Lookup),
    ∀ shown ∈ b.questionsFor view, ∀ slot ∈ shown.answers, Entry.Fits slot ⟨p.2.answers, p.2.drafts⟩
  blurs : ∀ id slot err e', Engine.run e (blur id slot) = (.error (.answer err), e') →
    err = .unknownSlot slot
  pending : ∀ p ∈ e.sessions, ∀ b ∈ e.questionnaire.blocks, ∀ (view : Lookup) (edits : Entries Edit),
    ∃ entry e', Engine.run e (commitPending edits ⟨p.2.answers, p.2.drafts⟩ (b.questionsFor view)) =
      (.ok entry, e')

/-- **Session state stays well typed along every run.** On a questionnaire that loading accepts
and whose variants declare their question's slots as it does, with any settings and a store
holding nothing yet, every engine a run of operations reaches is well typed. -/
theorem typing_along_runs {d : QuestionnaireDefinition} {q : Questionnaire}
    (accepted : Questionnaire.ofDefinition d = .ok q) (keeps : q.VariantsKeepDeclarations)
    (config : EngineConfig) {store : SnapshotStore} (fresh : store.snapshots = [])
    {e : Engine} (reached : Reachable (create q config store) e) : WellTyped e := by
  have checks := questionsChecked_of_ofDefinition accepted
  have inv := Questionnaire.typed_invariant keeps checks
  have holds := Reachable.sound inv reached rfl (holds_create fresh)
  have served : e.questionnaire = q := reached.serves.1
  -- Committing a draft of a shown question succeeds and keeps every question fitting.
  have commits : ∀ b ∈ q.blocks, ∀ view, ∀ shown ∈ b.questionsFor view, ∀ slot ∈ shown.slotIds,
      ∀ entry, q.Typed entry →
        ∃ result, shown.commitDraft slot entry = .ok result ∧ q.Typed result.2 := by
    intro b member view shown listed slot declared entry typed
    obtain ⟨target, hosted, rfl⟩ := List.mem_map.mp declared
    obtain ⟨result, ok⟩ := Question.commitDraft_ok_of_fits hosted fun _ hosted' =>
      typed.shown keeps member listed hosted'
    exact ⟨result, ok, inv.commitDraft member listed ok typed⟩
  refine ⟨fun p live b member view shown listed slot hosted => ?_,
    fun id slot err e' ran => ?_, fun p live b member view edits => ?_⟩
  · rw [served] at member
    exact (holds.live p live).2.shown keeps member listed hosted
  · rcases run_blur_error ran with unknown | ⟨s, b, question, found, slotBlock, owner, failed⟩
    · exact unknown
    obtain ⟨key, live⟩ := Holds.live_mem found
    rw [served] at slotBlock owner
    -- The question shown for the slot has it, and its commit succeeds.
    obtain ⟨result, ok, -⟩ := commits b (Questionnaire.mem_of_blockOf? slotBlock) _ question
      (owningQuestion_mem owner) slot (mem_slotIds_of_owningQuestion owner) _ (holds.live _ live).2
    rw [ok] at failed
    cases failed
  · rw [served] at member
    exact run_commitPending_succeeds edits (commits b member view) e (holds.live p live).2

/-- The bundled census questionnaire, served with the default settings from an empty store. -/
def censusStart : Engine :=
  create (Catalog.censusHousehold.checked []) EngineConfig.default SnapshotStore.empty

/-- A session started on it whose first answer says the respondent is under 16, which shows the
variant of the education question. -/
def censusChild : Engine :=
  (Operation.edit ⟨0⟩ "over-16-answer" (.set (.choice "No")) .commit).apply
    (Operation.start.apply censusStart)

theorem typing_along_runs_census :
    Questionnaire.ofDefinition Catalog.censusHousehold = .ok (Catalog.censusHousehold.checked []) ∧
      (Catalog.censusHousehold.checked []).VariantsKeepDeclarations ∧
      SnapshotStore.empty.snapshots = [] ∧ Reachable censusStart censusChild ∧
      WellTyped censusChild :=
  have accepted : Questionnaire.ofDefinition Catalog.censusHousehold =
      .ok (Catalog.censusHousehold.checked []) := by rfl
  have keeps : (Catalog.censusHousehold.checked []).VariantsKeepDeclarations := by decide
  have reached : Reachable censusStart censusChild := .step _ (.step _ .refl)
  ⟨accepted, keeps, rfl, reached, typing_along_runs accepted keeps EngineConfig.default rfl reached⟩

/-! ### A variant that declares a slot with another kind -/

/-- The variant of `q-question` shown once `p` is answered Yes: it declares `n` as text. -/
def textVariant : Question :=
  Catalog.question "q-question" "Q2" [AnswerSlot.text "n" "N"]

/-- A block asking `p`, then the number `n`, with the variant. -/
def kindBlock : Block :=
  { Catalog.page "b"
      [Catalog.question "p-question" "P" [Catalog.radio "p" "P" ["Yes", "No"]],
       Catalog.question "q-question" "Q" [AnswerSlot.number "n" "N"]] with
    questionVariants := [⟨.equals "p" (.text "Yes"), textVariant⟩] }

/-- A questionnaire of that one block. -/
def variantKind : QuestionnaireDefinition :=
  ⟨"variant-kind", none, [⟨"s", none, [kindBlock]⟩]⟩

/-- The questionnaire served with the default settings from an empty store. -/
def kindEngine : Engine :=
  create (variantKind.checked []) EngineConfig.default SnapshotStore.empty

/-- A session that drafted the number 5 for `n`, then answered `p` Yes, which shows the variant. -/
def kindSwitched : Engine :=
  (Operation.edit ⟨0⟩ "p" (.set (.choice "Yes")) .commit).apply <|
    (Operation.edit ⟨0⟩ "n" (.set (.number ⟨5, 0⟩)) .keystroke).apply <|
    Operation.start.apply kindEngine

/-- **Without the condition on variants, a draft stops fitting.** Loading accepts the
questionnaire, whose variant keeps the group of its question but declares `n` as text; a number
drafted for `n` before the switch is refused when the blur commits it. -/
theorem variant_kind_breaks_typing :
    Questionnaire.ofDefinition variantKind = .ok (variantKind.checked []) ∧
      ¬ (variantKind.checked []).VariantsKeepDeclarations ∧
      (variantKind.checked []).VariantsKeepGroups ∧
      Reachable kindEngine kindSwitched ∧ ¬ WellTyped kindSwitched ∧
      (Engine.run kindSwitched (blur ⟨0⟩ "n")).1 =
        .error (.answer (.invalidType "n" "Text" "Number")) := by
  have blurred : (Engine.run kindSwitched (blur ⟨0⟩ "n")).1 =
      .error (.answer (.invalidType "n" "Text" "Number")) := by
    rfl
  have broken : ¬ WellTyped kindSwitched := fun typed => by
    have unknown := typed.blurs ⟨0⟩ "n" _ _ (Prod.ext blurred rfl)
    cases unknown
  exact ⟨by rfl, by decide, by decide, .step _ (.step _ (.step _ .refl)), broken, blurred⟩

end Engine

end Survey
