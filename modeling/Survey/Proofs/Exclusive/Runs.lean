import Mathlib
import Survey.Proofs.Exclusive.Questionnaire
import Survey.Proofs.Engine.Invariant

/-!
# Exclusivity along runs of the engine

The enforcer keeps every group of the question it edits on one side, and the group state it
reports is read off the answers after the edit. Over whole runs of the engine this holds for the
questions a block shows as long as every variant keeps the slots of its question and which of
them is exclusive (`Questionnaire.VariantsKeepGroups`): the groups are then the same whichever
variant is shown.

* `Questionnaire.groupsApart_invariant` — keeping every group on one side is an invariant of the
  answers and drafts (`Engine.EntryInvariant`);
* **`Engine.exclusivity_along_runs`** — so exclusivity holds on every engine a run reaches from a
  fresh one (`Engine.ExclusivityHolds`): no shown question holds answers on both sides of its
  group, and every edit or blur reports the state of its question observed on the answers it
  leaves (`Engine.ReportsState`);
* `Engine.exclusive_variant_breaks_groups` — without the condition on variants, a variant that
  makes a plain checkbox exclusive lets both sides hold answers, and clearing the checkbox then
  reports the group unset while another slot still holds an answer.
-/

namespace Survey

/-- Clearing a slot answers no new slot. -/
theorem AnswerStore.contains_of_contains_clear {A : AnswerStore} {x y : SlotId}
    (held : (A.clear x).2.contains y = true) : A.contains y = true := by
  rw [Question.contains_eq_isSome, AnswerStore.get?_clear] at held
  rw [Question.contains_eq_isSome]
  split at held
  · simp at held
  · exact held

namespace Questionnaire

/-- With nothing answered, every group is on one side. -/
theorem groupsApart_empty (q : Questionnaire) : q.GroupsApart AnswerStore.empty := by
  intro _ _ question _ _
  -- No slot holds an answer, so the other side of every group is empty.
  simp [Question.flags, Question.othersAnswered, AnswerStore.contains, AnswerStore.empty,
    Entries.contains, Entries.lookup]

/-- **Keeping every group on one side is an invariant of answers and drafts**: edits of shown
questions keep it, and clearing answers cannot break it. -/
theorem groupsApart_invariant {q : Questionnaire} (checks : q.QuestionsChecked)
    (keeps : q.VariantsKeepGroups) : Engine.EntryInvariant q fun entry => q.GroupsApart entry.answers :=
  ⟨q.groupsApart_empty, fun _ apart => apart,
    fun _ member _ _ listed _ _ _ _ _ _ edited apart =>
      (apart.applyEdit checks keeps member listed edited).1,
    fun _ _ apart => apart.of_subset fun _ held => AnswerStore.contains_of_contains_clear held⟩

end Questionnaire

namespace Engine

/-- The edit of `slot` in the session `id`, taking `e` to `e'`, reported `applied`: the state of
the question it edited, the one the slot's block showed, observed on the answers it left. -/
def ReportsState (e e' : Engine) (id : SessionId) (slot : SlotId) (applied : Applied) : Prop :=
  ∃ s s' b question, Engine.run e (session id) = (.ok s, e) ∧
    Engine.run e' (session id) = (.ok s', e') ∧ e.questionnaire.blockOf? slot = some b ∧
    owningQuestion (b.questionsFor (e.questionnaire.onPath s.answers
      (e.questionnaire.routingPath s.answers))) slot = some question ∧
    applied.state = GroupState.observe (question.flags s'.answers)

/-- Exclusivity as an engine keeps it: no live session has answers on both sides of the group of
a question a block shows, on any view, and every edit and every blur that commits a draft reports
the state of the question it edited, observed on the answers right after. -/
structure ExclusivityHolds (e : Engine) : Prop where
  apart : ∀ p ∈ e.sessions, ∀ b ∈ e.questionnaire.blocks, ∀ (view : Lookup),
    ∀ shown ∈ b.questionsFor view, ∀ x ∈ shown.answers, x.kind.isExclusive = true →
      p.2.answers.contains x.id = true →
      ∀ y ∈ shown.answers, y.kind.isExclusive = false → p.2.answers.contains y.id = false
  edits : ∀ id slot change phase applied e',
    Engine.run e (edit id slot change phase) = (.ok applied, e') →
      ReportsState e e' id slot applied
  blurs : ∀ id slot applied e', Engine.run e (blur id slot) = (.ok (some applied), e') →
    ReportsState e e' id slot applied

/-- **Exclusive and other answers never coexist along a run.** On a questionnaire that loading
accepts and whose variants keep their question's groups, with any settings and a store holding
nothing yet, exclusivity holds on every engine a run of operations reaches. -/
theorem exclusivity_along_runs {d : QuestionnaireDefinition} {q : Questionnaire}
    (accepted : Questionnaire.ofDefinition d = .ok q) (keeps : q.VariantsKeepGroups)
    (config : EngineConfig) {store : SnapshotStore} (fresh : store.snapshots = [])
    {e : Engine} (reached : Reachable (create q config store) e) : ExclusivityHolds e := by
  have checks := questionsChecked_of_ofDefinition accepted
  have holds := Reachable.sound (Questionnaire.groupsApart_invariant checks keeps) reached rfl
    (holds_create fresh)
  have served : e.questionnaire = q := reached.serves.1
  constructor
  · intro p member b listed view shown showing x hx exclusive held y hy other
    rw [served] at listed
    exact (holds.live p member).2.shown checks keeps listed showing hx exclusive held hy other
  · intro id slot change phase applied e' ran
    obtain ⟨s, b, question, entry, found, owner, -, shown, edited, e1, -, put⟩ := run_edit_ok ran
    obtain ⟨key, live⟩ := Holds.live_mem found
    have apart := (holds.live _ live).2
    refine ⟨s, _, b, question, found, run_session_of_put put, owner, shown, ?_⟩
    rw [served] at owner shown
    -- The enforcer's report is the state it read after the edit.
    exact (apart.applyEdit checks keeps (Questionnaire.mem_of_blockOf? owner)
      (owningQuestion_mem shown) edited).2
  · intro id slot applied e' ran
    obtain ⟨s, b, question, entry, found, owner, -, shown, committed, e1, -, put⟩ := run_blur_ok ran
    obtain ⟨key, live⟩ := Holds.live_mem found
    have apart := (holds.live _ live).2
    refine ⟨s, _, b, question, found, run_session_of_put put, owner, shown, ?_⟩
    rw [served] at owner shown
    exact (apart.commitDraft checks keeps (Questionnaire.mem_of_blockOf? owner)
      (owningQuestion_mem shown) committed).2 applied rfl

/-- The bundled mutually-exclusive questionnaire, served with the default settings from an empty
store. -/
def exclusiveEngine : Engine :=
  create (Catalog.mutuallyExclusive.checked []) EngineConfig.default SnapshotStore.empty

theorem exclusivity_along_runs_bundled :
    Questionnaire.ofDefinition Catalog.mutuallyExclusive =
        .ok (Catalog.mutuallyExclusive.checked []) ∧
      (Catalog.mutuallyExclusive.checked []).VariantsKeepGroups ∧
      SnapshotStore.empty.snapshots = [] ∧
      Reachable exclusiveEngine (Operation.start.apply exclusiveEngine) ∧
      ExclusivityHolds (Operation.start.apply exclusiveEngine) :=
  have accepted : Questionnaire.ofDefinition Catalog.mutuallyExclusive =
      .ok (Catalog.mutuallyExclusive.checked []) := by rfl
  have keeps : (Catalog.mutuallyExclusive.checked []).VariantsKeepGroups := by decide
  have reached : Reachable exclusiveEngine (Operation.start.apply exclusiveEngine) := .step _ .refl
  ⟨accepted, keeps, rfl, reached, exclusivity_along_runs accepted keeps EngineConfig.default rfl reached⟩

/-! ### A variant that changes which slot is exclusive -/

/-- The variant of the question `q-question` shown once `p` is answered Yes: its checkbox `a` is
the exclusive slot of the group. -/
def exclusiveVariant : Question :=
  Catalog.question "q-question" "Q2" [Catalog.exclusiveAs "a" "None" "None", AnswerSlot.number "n" "N"]

/-- A block asking `p`, then `a` as a plain checkbox next to the number `n`, with the variant. -/
def variantBlock : Block :=
  { Catalog.page "b"
      [Catalog.question "p-question" "P" [Catalog.radio "p" "P" ["Yes", "No"]],
       Catalog.question "q-question" "Q"
         [AnswerSlot.make "a" "None" (.checkbox [.plain "None"]), AnswerSlot.number "n" "N"]] with
    questionVariants := [⟨.equals "p" (.text "Yes"), exclusiveVariant⟩] }

/-- A questionnaire of that one block. -/
def variantExclusive : QuestionnaireDefinition :=
  ⟨"variant-exclusive", none, [⟨"s", none, [variantBlock]⟩]⟩

/-- The questionnaire served with the default settings from an empty store. -/
def variantEngine : Engine :=
  create (variantExclusive.checked []) EngineConfig.default SnapshotStore.empty

/-- A session that ticked `a` and answered `n` while `a` was a plain checkbox, then answered `p`
Yes, which shows the variant. -/
def variantSwitched : Engine :=
  (Operation.edit ⟨0⟩ "p" (.set (.choice "Yes")) .commit).apply <|
    (Operation.edit ⟨0⟩ "n" (.set (.number ⟨5, 0⟩)) .commit).apply <|
    (Operation.edit ⟨0⟩ "a" (.set (.choices ["None"])) .commit).apply <|
    Operation.start.apply variantEngine

/-- The session live after the switch. -/
def variantSession : Session :=
  (variantSwitched.sessions.head?.map (·.2)).getD Session.empty

/-- The same session after clearing `a`. -/
def variantCleared : Engine := (Operation.edit ⟨0⟩ "a" .clear .commit).apply variantSwitched

/-- **Without the condition on variants, exclusivity fails.** Loading accepts the questionnaire,
whose variant makes `a` exclusive. After the switch the variant shown holds answers in `a` and in
`n`, and clearing `a` reports the group unset although `n` keeps its answer. -/
theorem exclusive_variant_breaks_groups :
    Questionnaire.ofDefinition variantExclusive = .ok (variantExclusive.checked []) ∧
      ¬ (variantExclusive.checked []).VariantsKeepGroups ∧
      Reachable variantEngine variantSwitched ∧ ¬ ExclusivityHolds variantSwitched ∧
      Engine.run variantSwitched (edit ⟨0⟩ "a" .clear .commit) =
        (.ok ⟨[], .unset, false⟩, variantCleared) ∧
      ¬ ReportsState variantSwitched variantCleared ⟨0⟩ "a" ⟨[], .unset, false⟩ := by
  have live : Engine.run variantSwitched (session ⟨0⟩) = (.ok variantSession, variantSwitched) := by
    rfl
  -- Both sides of the variant's group hold answers.
  have broken : ¬ ExclusivityHolds variantSwitched := by
    intro holds
    have sessions : variantSwitched.sessions = [(⟨0⟩, variantSession)] := by rfl
    have both : ¬ ∀ b ∈ variantSwitched.questionnaire.blocks,
        ∀ shown ∈ b.questionsFor variantSession.answers.get?, ∀ x ∈ shown.answers,
          x.kind.isExclusive = true → variantSession.answers.contains x.id = true →
          ∀ y ∈ shown.answers, y.kind.isExclusive = false →
            variantSession.answers.contains y.id = false := by
      decide
    exact both fun b member shown showing =>
      holds.apart _ (sessions ▸ List.mem_singleton_self _) b member _ shown showing
  -- The report names the state of the variant, which the answers left put on the other side.
  have unreported : ¬ ReportsState variantSwitched variantCleared ⟨0⟩ "a" ⟨[], .unset, false⟩ := by
    rintro ⟨s, s', b, question, found, found', owner, shown, reported⟩
    have live' : Engine.run variantCleared (session ⟨0⟩) =
        (.ok ((variantCleared.sessions.head?.map (·.2)).getD Session.empty), variantCleared) := by
      rfl
    have block : variantSwitched.questionnaire.blockOf? "a" = some variantBlock := by rfl
    obtain rfl : variantSession = s := Except.ok.inj (Prod.mk.inj (live.symm.trans found)).1
    obtain rfl := Except.ok.inj (Prod.mk.inj (live'.symm.trans found')).1
    obtain rfl : b = variantBlock := Option.some.inj (owner.symm.trans block)
    have owns : owningQuestion (variantBlock.questionsFor (variantSwitched.questionnaire.onPath
        variantSession.answers (variantSwitched.questionnaire.routingPath variantSession.answers)))
        "a" = some exclusiveVariant := by
      rfl
    obtain rfl : question = exclusiveVariant := Option.some.inj (shown.symm.trans owns)
    exact absurd reported (by decide)
  exact ⟨by rfl, by decide, .step _ (.step _ (.step _ (.step _ .refl))), broken, rfl, unreported⟩

end Engine

end Survey
