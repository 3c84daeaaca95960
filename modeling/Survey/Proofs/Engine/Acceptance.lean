import Mathlib
import Survey.Proofs.Engine.Reachable
import Survey.Proofs.Engine.Typing
import Survey.Proofs.Schema.Accepted

/-!
# Acceptance is exactly the business rules

A submission of a block is judged on the view of the route of the answers its edits leave, for
the questions the block showed before the edits. The rules are stated here on their own terms
(`Block.MeetsRules`): a mandatory question has a visible answer, a visible number of a slot that
no calculation sums lies within the slot's bounds, a visible text is no longer than the slot
allows, and every calculation of the block meets its target. Each check gives at most one error
when it fails, and `Block.breaches` lists them in the order the block asks its checks.

The engine does not read "no calculation sums the slot": it reads the slot's `acceptsRawText`
flag, which loading sets on the calculation sources. So the two agree on a questionnaire loaded
from a definition that marks no slot itself (`QuestionnaireDefinition.Unmarked`), as the schema
reader builds every slot.

* `Questionnaire.acceptsRawText_iff_summed` — on such a questionnaire, a slot a block shows takes
  raw text exactly when some calculation sums it;
* `Engine.submissionErrors_eq_breaches` — the errors validation finds are the breaches of the rules;
* `Block.breaches_eq_nil_iff` — there are none exactly when the rules are met;
* **`Engine.submission_accepts_exactly`** — a submission that returns lists one error per broken
  rule, is accepted exactly when the rules are met, and names no next location exactly when it
  lists an error.
-/

namespace Survey

/-! ### Which slots the calculations sum -/

/-- The slots the calculations of the questionnaire sum, block by block. -/
def Questionnaire.summedSlots (q : Questionnaire) : List SlotId :=
  q.blocks.flatMap fun b => b.calculations.flatMap (·.sources)

/-- No slot of the definition is marked to take raw text: loading alone marks slots. -/
def QuestionnaireDefinition.Unmarked (d : QuestionnaireDefinition) : Prop :=
  ∀ b ∈ d.allBlocks, ∀ question ∈ b.allQuestions, ∀ s ∈ question.answers, s.acceptsRawText = false

instance (d : QuestionnaireDefinition) : Decidable d.Unmarked :=
  inferInstanceAs (Decidable (∀ b ∈ d.allBlocks, ∀ question ∈ b.allQuestions,
    ∀ s ∈ question.answers, s.acceptsRawText = false))

/-- A `flatMapM` whose every successful step returns the value of a function returns the
`flatMap` of that function. -/
theorem except_flatMapM_eq {ε α β : Type} {f : α → Except ε (List β)} {g : α → List β}
    {l : List α} {r : List β} (each : ∀ x ∈ l, ∀ r, f x = .ok r → r = g x)
    (ok : l.flatMapM f = .ok r) : r = l.flatMap g := by
  induction l generalizing r with
  | nil =>
    simp only [List.flatMapM_nil, except_pure_eq_ok] at ok
    simp [← ok]
  | cons a rest ih =>
    simp only [List.flatMapM_cons, bind, except_bind_eq_ok, except_pure_eq_ok] at ok
    obtain ⟨first, firstOk, others, othersOk, rfl⟩ := ok
    rw [each a List.mem_cons_self first firstOk,
      ih (fun x member => each x (List.mem_cons_of_mem _ member)) othersOk, List.flatMap_cons]

namespace Questionnaire

theorem checkCalculation_eq_ok {q : Questionnaire} {rule : CalculatedRule} {sources : List SlotId}
    (ok : q.checkCalculation rule = .ok sources) : sources = rule.sources := by
  unfold checkCalculation at ok
  by_cases empty : rule.sources.isEmpty = true
  · simp [empty, bind] at ok
  · simp only [empty, Bool.false_eq_true, ↓reduceIte, bind, except_bind_eq_ok,
      except_pure_eq_ok] at ok
    obtain ⟨_, -, summed⟩ := ok
    exact summed.symm

/-- The reference checks of a block give the sources of its calculations. -/
theorem checkReferences_eq_ok {q : Questionnaire} {b : Block} {order : Nat} {sources : List SlotId}
    (ok : q.checkReferences b order = .ok sources) :
    sources = b.calculations.flatMap (·.sources) := by
  simp only [checkReferences, bind, except_bind_eq_ok, except_pure_eq_ok] at ok
  obtain ⟨summed, calculated, _, -, _, -, rfl⟩ := ok
  exact except_flatMapM_eq (fun rule _ _ checked => checkCalculation_eq_ok checked) calculated

/-- **Loading marks exactly the summed slots**: the sources it marks are those its
calculations sum. -/
theorem summedSlots_of_ofDefinition {d : QuestionnaireDefinition} {q : Questionnaire}
    (accepted : Questionnaire.ofDefinition d = .ok q) :
    ∃ sources, q = d.checked sources ∧ q.summedSlots = sources := by
  obtain ⟨-, -, sources, referencesOk, rfl⟩ := ofDefinition_ok accepted
  refine ⟨sources, rfl, ?_⟩
  have listed := except_flatMapM_eq (g := fun p => p.1.calculations.flatMap (·.sources))
    (fun p _ r checked => checkReferences_eq_ok checked) referencesOk
  -- The positions the reference pass reads are dropped, and marking keeps the calculations.
  have unindexed : ∀ l : List Block,
      (l.zipIdx.flatMap fun p => p.1.calculations.flatMap (·.sources)) =
        l.flatMap fun b => b.calculations.flatMap (·.sources) := fun l =>
    (List.flatMap_map Prod.fst (fun b : Block => b.calculations.flatMap (·.sources))
      l.zipIdx).symm.trans (by rw [List.zipIdx_map_fst])
  rw [listed, summedSlots, QuestionnaireDefinition.checked_blocks, List.flatMap_map,
    QuestionnaireDefinition.indexed_blocks, unindexed]
  rfl

end Questionnaire

/-- A question a block shows is one of its questions or variants. -/
theorem Block.mem_allQuestions_of_shown {b : Block} {view : Lookup} {question : Question}
    (listed : question ∈ b.questionsFor view) : question ∈ b.allQuestions := by
  obtain ⟨own, asked, rfl⟩ := List.mem_map.mp listed
  rcases b.shownQuestion_cases view own with same | ⟨v, variant, -, shown⟩
  · rw [same]
    exact List.mem_append_left _ asked
  · rw [shown]
    exact List.mem_append_right _ (List.mem_map_of_mem variant)

theorem Block.markRawText_allQuestions (sources : List SlotId) (b : Block) :
    (b.markRawText sources).allQuestions = b.allQuestions.map (Survey.markRawText sources) := by
  simp [Block.markRawText, Block.allQuestions, List.map_map, Function.comp_def]

/-- A slot of a marked question is one of the question's slots, marked when it is a source. -/
theorem mem_markRawText_answers {sources : List SlotId} {question : Question} {s : AnswerSlot}
    (hosted : s ∈ (markRawText sources question).answers) :
    ∃ t ∈ question.answers, s.id = t.id ∧
      s.acceptsRawText = (t.acceptsRawText || sources.contains t.id) := by
  obtain ⟨t, own, rfl⟩ := List.mem_map.mp hosted
  refine ⟨t, own, ?_⟩
  by_cases source : t.id ∈ sources <;> simp [source]

/-- **On a questionnaire loaded from an unmarked definition, a slot a block shows takes raw text
exactly when some calculation sums it.** -/
theorem Questionnaire.acceptsRawText_iff_summed {d : QuestionnaireDefinition} {q : Questionnaire}
    (accepted : Questionnaire.ofDefinition d = .ok q) (unmarked : d.Unmarked) {b : Block}
    (member : b ∈ q.blocks) {view : Lookup} {question : Question}
    (listed : question ∈ b.questionsFor view) {s : AnswerSlot} (hosted : s ∈ question.answers) :
    s.acceptsRawText = true ↔ s.id ∈ q.summedSlots := by
  obtain ⟨sources, rfl, summed⟩ := summedSlots_of_ofDefinition accepted
  rw [summed]
  rw [QuestionnaireDefinition.checked_blocks, List.mem_map] at member
  obtain ⟨original, member, rfl⟩ := member
  have shown := Block.mem_allQuestions_of_shown listed
  rw [Block.markRawText_allQuestions, List.mem_map] at shown
  obtain ⟨plain, asked, rfl⟩ := shown
  obtain ⟨t, own, sameId, raw⟩ := mem_markRawText_answers hosted
  rw [raw, unmarked original member plain asked t own, sameId]
  simp

/-! ### The rules a submission must meet -/

namespace NumberSlot

/-- A number lies within a number slot's bounds: below none of its least value and above none
of its greatest, as decimals compare. -/
def Admits (settings : NumberSlot) (value : Decimal) : Prop :=
  (∀ least ∈ settings.min, value.lt least = false) ∧
    ∀ greatest ∈ settings.max, greatest.lt value = false

instance (settings : NumberSlot) (value : Decimal) : Decidable (settings.Admits value) :=
  inferInstanceAs (Decidable ((∀ least ∈ settings.min, value.lt least = false) ∧
    ∀ greatest ∈ settings.max, greatest.lt value = false))

end NumberSlot

/-- The error of a mandatory question none of whose slots is visible. -/
def Question.unansweredBreach (view : Lookup) (question : Question) : Option ValidationError :=
  if question.mandatory = true ∧ ∀ s ∈ question.answers, view s.id = none then
    some (.mandatoryUnanswered question.id)
  else none

/-- The error of a visible answer that breaks its slot's rule: a number of a slot that no
calculation sums outside the slot's bounds, or a text longer than the slot allows, in
characters. -/
def AnswerSlot.answerBreach (summed : List SlotId) (view : Lookup) (s : AnswerSlot) :
    Option ValidationError :=
  match s.kind, view s.id with
  | .number settings, some (.number value) =>
    if s.id ∉ summed ∧ ¬ settings.Admits value then
      some (.outOfRange s.id value settings.min settings.max)
    else none
  | .textField (some maxLength), some (.text text) =>
    if maxLength < text.length then some (.tooLong s.id maxLength) else none
  | _, _ => none

/-- The error of a calculation whose total misses its target. -/
def CalculatedRule.totalBreach (view : Lookup) (rule : CalculatedRule) : Option ValidationError :=
  if rule.comparison.holds (rule.totalOf view).1 rule.target = true then none
  else some (.totalMismatch rule.id (rule.totalOf view).1 rule.target rule.comparison)

namespace Block

/-- The broken rules of a submission of `b` showing `shown`, judged on `view`, one error each:
every shown question's own check and then its slots', then the block's calculations. -/
def breaches (b : Block) (summed : List SlotId) (shown : List Question) (view : Lookup) :
    List ValidationError :=
  shown.flatMap (fun question => (question.unansweredBreach view).toList ++
      question.answers.filterMap (·.answerBreach summed view)) ++
    b.calculations.filterMap (·.totalBreach view)

/-- The business rules of a submission of `b` showing `shown`, judged on `view`. -/
structure MeetsRules (b : Block) (summed : List SlotId) (shown : List Question) (view : Lookup) :
    Prop where
  /-- Every mandatory question has a visible answer. -/
  answered : ∀ question ∈ shown, question.mandatory = true →
    ∃ s ∈ question.answers, (view s.id).isSome
  /-- A visible number of a slot that no calculation sums lies within the slot's bounds. -/
  inBounds : ∀ question ∈ shown, ∀ s ∈ question.answers, ∀ settings value,
    s.kind = .number settings → s.id ∉ summed → view s.id = some (.number value) →
      settings.Admits value
  /-- A visible text has at most as many characters as its slot allows. -/
  fitsLength : ∀ question ∈ shown, ∀ s ∈ question.answers, ∀ maxLength text,
    s.kind = .textField (some maxLength) → view s.id = some (.text text) → text.length ≤ maxLength
  /-- Every calculation of the block meets its target. -/
  meetsTargets : ∀ rule ∈ b.calculations,
    rule.comparison.holds (rule.totalOf view).1 rule.target = true

end Block

theorem Question.unansweredBreach_eq_none_iff {view : Lookup} {question : Question} :
    question.unansweredBreach view = none ↔
      (question.mandatory = true → ∃ s ∈ question.answers, (view s.id).isSome) := by
  unfold Question.unansweredBreach
  by_cases mandatory : question.mandatory = true <;> simp [mandatory, Option.isSome_iff_ne_none]

theorem AnswerSlot.answerBreach_eq_none_iff {summed : List SlotId} {view : Lookup} {s : AnswerSlot} :
    s.answerBreach summed view = none ↔
      (∀ settings value, s.kind = .number settings → s.id ∉ summed →
        view s.id = some (.number value) → settings.Admits value) ∧
      ∀ maxLength text, s.kind = .textField (some maxLength) → view s.id = some (.text text) →
        text.length ≤ maxLength := by
  unfold AnswerSlot.answerBreach
  -- Only a visible number of a number slot, or a visible text of a bounded text slot, is judged.
  split
  · next _ _ settings value kind seen =>
    simp [kind, seen]
  · next _ _ maxLength text kind seen =>
    simp [kind, seen]
  · next _ _ unjudgedNumber unjudgedText =>
    exact iff_of_true rfl
      ⟨fun settings value kind _ seen => (unjudgedNumber settings value kind seen).elim,
        fun maxLength text kind seen => (unjudgedText maxLength text kind seen).elim⟩

/-- Lengths count characters: one accented letter fits a slot of one character. -/
example : ((AnswerSlot.make "t" "T" (.textField (some 1))).answerBreach []
    (fun _ => some (.text "é"))).isNone = true := by
  decide

theorem CalculatedRule.totalBreach_eq_none_iff {view : Lookup} {rule : CalculatedRule} :
    rule.totalBreach view = none ↔ rule.comparison.holds (rule.totalOf view).1 rule.target = true := by
  unfold CalculatedRule.totalBreach
  by_cases holds : rule.comparison.holds (rule.totalOf view).1 rule.target = true <;> simp [holds]

/-- **No rule is broken exactly when the rules are met.** -/
theorem Block.breaches_eq_nil_iff {b : Block} {summed : List SlotId} {shown : List Question}
    {view : Lookup} : b.breaches summed shown view = [] ↔ b.MeetsRules summed shown view := by
  simp only [breaches, List.append_eq_nil_iff, List.flatMap_eq_nil_iff, List.filterMap_eq_nil_iff,
    Option.toList_eq_nil_iff, Question.unansweredBreach_eq_none_iff,
    AnswerSlot.answerBreach_eq_none_iff, CalculatedRule.totalBreach_eq_none_iff]
  constructor
  · rintro ⟨questions, totals⟩
    exact ⟨fun question asked => (questions question asked).1,
      fun question asked s hosted => ((questions question asked).2 s hosted).1,
      fun question asked s hosted => ((questions question asked).2 s hosted).2, totals⟩
  · rintro ⟨answered, inBounds, fitsLength, totals⟩
    exact ⟨fun question asked => ⟨answered question asked, fun s hosted =>
      ⟨inBounds question asked s hosted, fitsLength question asked s hosted⟩⟩, totals⟩

/-! ### What validation reports -/

/-- The bounds check validation makes is `NumberSlot.Admits`. -/
theorem NumberSlot.admits_iff {settings : NumberSlot} {value : Decimal} :
    settings.Admits value ↔ ((settings.min.any fun least => value.lt least) ||
      settings.max.any fun greatest => greatest.lt value) = false := by
  unfold Admits
  cases settings.min <;> cases settings.max <;> simp

namespace Engine

/-- The checks of a slot that takes raw text exactly when it is summed are its breach. -/
theorem slotErrors_eq_answerBreach {summed : List SlotId} {view : Lookup} {s : AnswerSlot}
    (raw : s.acceptsRawText = true ↔ s.id ∈ summed) :
    slotErrors view s = (s.answerBreach summed view).toList := by
  unfold slotErrors AnswerSlot.answerBreach
  cases kind : s.kind with
  | number settings =>
    -- A summed slot is not range-checked, and the engine reads that off the raw-text flag.
    by_cases summedSlot : s.id ∈ summed
    · have marked : s.acceptsRawText = true := raw.mpr summedSlot
      cases seen : view s.id with
      | none => simp [marked]
      | some value => cases value <;> simp [marked, summedSlot]
    · have unmarked : s.acceptsRawText = false :=
        Bool.eq_false_iff.mpr fun marked => summedSlot (raw.mp marked)
      cases seen : view s.id with
      | none => simp [unmarked]
      | some value =>
        cases value with
        | number value =>
          by_cases admits : settings.Admits value
          · simp [unmarked, summedSlot, admits, NumberSlot.admits_iff.mp admits]
          · simp [unmarked, summedSlot, admits, NumberSlot.admits_iff.not.mp admits]
        | _ => simp [unmarked]
  | textField maxLength =>
    cases seen : view s.id with
    | none => cases maxLength <;> simp
    | some value => cases maxLength <;> cases value <;> simp [apply_ite Option.toList]
  | _ => simp

/-- The checks of a shown question are its own breach and then its slots'. -/
theorem questionErrors_eq_breaches {summed : List SlotId} {view : Lookup} {question : Question}
    (raw : ∀ s ∈ question.answers, s.acceptsRawText = true ↔ s.id ∈ summed) :
    questionErrors view question = (question.unansweredBreach view).toList ++
      question.answers.filterMap (·.answerBreach summed view) := by
  have unanswered : (if question.mandatory && !question.answers.any fun s => (view s.id).isSome
      then [ValidationError.mandatoryUnanswered question.id] else []) =
        (question.unansweredBreach view).toList := by
    unfold Question.unansweredBreach
    by_cases mandatory : question.mandatory = true <;> simp [mandatory, apply_ite Option.toList]
  rw [questionErrors, unanswered, List.filterMap_eq_flatMap_toList]
  exact congrArg _ (List.flatMap_congr fun s hosted => slotErrors_eq_answerBreach (raw s hosted))

/-- The errors of calculations are their breaches. -/
theorem calculationErrors_eq_breaches (view : Lookup) (rules : List CalculatedRule) :
    calculationErrors view rules = rules.filterMap (·.totalBreach view) := by
  refine List.filterMap_congr fun rule _ => ?_
  unfold CalculatedRule.totalBreach CalculatedRule.evaluate
  by_cases holds : rule.comparison.holds (rule.totalOf view).1 rule.target = true <;> simp [holds]

/-- **The errors validation finds are the broken rules**, on a questionnaire loaded from an
unmarked definition. -/
theorem submissionErrors_eq_breaches {d : QuestionnaireDefinition} {q : Questionnaire}
    (accepted : Questionnaire.ofDefinition d = .ok q) (unmarked : d.Unmarked) {b : Block}
    (member : b ∈ q.blocks) (live edited : Session) :
    submissionErrors q b (shownQuestions q b live) edited =
      b.breaches q.summedSlots (shownQuestions q b live)
        (q.onPath edited.answers (q.routingPath edited.answers)) := by
  unfold submissionErrors Block.breaches
  rw [calculationErrors_eq_breaches]
  refine congrArg (· ++ _) (List.flatMap_congr fun question listed => ?_)
  exact questionErrors_eq_breaches fun s hosted =>
    q.acceptsRawText_iff_summed accepted unmarked member listed hosted

/-- **Acceptance is exactly the business rules.** A submission that returns, on an engine serving
a questionnaire loaded from an unmarked definition, lists one error per broken rule of the
questions the block showed before the edits and of its calculations, judged on the view of the
route of the answers the edits and pending drafts leave; it is accepted exactly when the rules are
met, and names no next location exactly when it lists an error. -/
theorem submission_accepts_exactly {d : QuestionnaireDefinition} {q : Questionnaire}
    (accepted : Questionnaire.ofDefinition d = .ok q) (unmarked : d.Unmarked) {e : Engine}
    (served : e.questionnaire = q) {id : SessionId} {block : BlockId} {edits : Entries Edit}
    {result : Submission} {e' : Engine}
    (ran : Engine.run e (submitBlock id block edits) = (.ok result, e')) :
    ∃ live b edited, Engine.run e (session id) = (.ok live, e) ∧ q.block? block = some b ∧
      (∃ e1 e2, LogOnly e e1 ∧
        Engine.run e1 (applyEdits live b (shownQuestions q b live) edits) = (.ok edited, e2)) ∧
      result.errors = b.breaches q.summedSlots (shownQuestions q b live)
        (q.onPath edited.answers (q.routingPath edited.answers)) ∧
      (result.isAccepted = true ↔ b.MeetsRules q.summedSlots (shownQuestions q b live)
        (q.onPath edited.answers (q.routingPath edited.answers))) ∧
      (result.next = none ↔ result.errors ≠ []) := by
  obtain ⟨live, b, edited, found, defined, -, applied, outcome⟩ := run_submitBlock_cases ran
  rw [served] at defined applied outcome
  rw [submissionErrors_eq_breaches accepted unmarked (Questionnaire.mem_of_block? defined)] at outcome
  -- Both outcomes report the breaches; only a rejection, which has some, names no next location.
  have reported : result.errors = b.breaches q.summedSlots (shownQuestions q b live)
        (q.onPath edited.answers (q.routingPath edited.answers)) ∧
      (result.next = none ↔ result.errors ≠ []) := by
    rcases outcome with ⟨broken, rfl, -⟩ | ⟨clean, rfl, -⟩
    · exact ⟨rfl, iff_of_true rfl broken⟩
    · exact ⟨clean.symm, by simp⟩
  refine ⟨live, b, edited, found, defined, applied, reported.1, ?_, reported.2⟩
  rw [Submission.isAccepted, List.isEmpty_iff, reported.1, Block.breaches_eq_nil_iff]

/-- An operation whose run succeeds returns the value its run holds. -/
theorem run_eq_of_isOk {α : Type} {e : Engine} {op : EngineM α} (fallback : α)
    (ok : (Engine.run e op).1.isOk = true) :
    Engine.run e op = (.ok (((Engine.run e op).1.toOption).getD fallback), (Engine.run e op).2) := by
  generalize Engine.run e op = r at ok ⊢
  obtain ⟨_ | value, e'⟩ := r
  · cases ok
  · rfl

/-- A session just started on the bundled breakdown. -/
def breakdownStarted : Engine := Operation.start.apply breakdownEngine

/-- A first percentage of 150: the total misses its target of 100. -/
def overHundred : Entries Edit := [("percentage-1", .set (.number ⟨150, 0⟩))]

/-- What submitting it returns. -/
def overSubmission : Submission :=
  ((Engine.run breakdownStarted (submitBlock ⟨0⟩ "block" overHundred)).1.toOption).getD ⟨[], none⟩

/-- The engine after it. -/
def overRejected : Engine := (Engine.run breakdownStarted (submitBlock ⟨0⟩ "block" overHundred)).2

theorem submission_accepts_exactly_breakdown :
    Questionnaire.ofDefinition Catalog.totalBreakdown = .ok breakdownEngine.questionnaire ∧
      Catalog.totalBreakdown.Unmarked ∧
      breakdownStarted.questionnaire = breakdownEngine.questionnaire ∧
      Engine.run breakdownStarted (submitBlock ⟨0⟩ "block" overHundred) =
        (.ok overSubmission, overRejected) ∧
      ∃ live b edited, Engine.run breakdownStarted (session ⟨0⟩) = (.ok live, breakdownStarted) ∧
        breakdownEngine.questionnaire.block? "block" = some b ∧
        (∃ e1 e2, LogOnly breakdownStarted e1 ∧ Engine.run e1 (applyEdits live b
          (shownQuestions breakdownEngine.questionnaire b live) overHundred) = (.ok edited, e2)) ∧
        overSubmission.errors = b.breaches breakdownEngine.questionnaire.summedSlots
          (shownQuestions breakdownEngine.questionnaire b live)
          (breakdownEngine.questionnaire.onPath edited.answers
            (breakdownEngine.questionnaire.routingPath edited.answers)) ∧
        (overSubmission.isAccepted = true ↔ b.MeetsRules breakdownEngine.questionnaire.summedSlots
          (shownQuestions breakdownEngine.questionnaire b live)
          (breakdownEngine.questionnaire.onPath edited.answers
            (breakdownEngine.questionnaire.routingPath edited.answers))) ∧
        (overSubmission.next = none ↔ overSubmission.errors ≠ []) := by
  have accepted : Questionnaire.ofDefinition Catalog.totalBreakdown =
      .ok breakdownEngine.questionnaire := by
    rfl
  have unmarked : Catalog.totalBreakdown.Unmarked := by decide
  have served : breakdownStarted.questionnaire = breakdownEngine.questionnaire := by rfl
  -- The submission is run by the kernel.
  have ran : Engine.run breakdownStarted (submitBlock ⟨0⟩ "block" overHundred) =
      (.ok overSubmission, overRejected) :=
    run_eq_of_isOk ⟨[], none⟩ (by decide +kernel)
  exact ⟨accepted, unmarked, served, ran, submission_accepts_exactly accepted unmarked served ran⟩

end Engine

end Survey
