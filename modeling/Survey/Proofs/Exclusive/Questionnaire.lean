import Mathlib
import Survey.Proofs.Exclusive.Group
import Survey.Proofs.Engine.Steps
import Survey.Proofs.Schema.Accepted

/-!
# Exclusivity groups across a questionnaire

A block shows each of its questions or a variant of it (`Block.shownQuestion`), chosen by the
answers. The exclusivity invariant is kept per question of the block's own list
(`Questionnaire.GroupsApart`), and it carries over to what is shown when every variant keeps the
ids of its question's slots and which of them is exclusive (`Questionnaire.VariantsKeepGroups`):
the group state reads nothing else (`Question.flags_eq_of_profile`).

* `questionsChecked_of_ofDefinition` — loading checks each question: distinct slot ids, at most
  one exclusive slot, and no slot shared by two questions (`Questionnaire.QuestionsChecked`).
* `Questionnaire.GroupsApart.applyEdit` — **an edit of a shown question keeps every group on one
  side** and reports the state read from the answers after it.
* `Questionnaire.GroupsApart.of_subset` — removing answers keeps every group on one side.
* `Questionnaire.GroupsApart.shown` — the invariant, read on the questions a block shows: an
  answered exclusive slot leaves the question's other slots unanswered.
-/

namespace Survey

/-! ### What loading checks of questions -/

/-- A question that passes its checks has at most one exclusive slot. -/
theorem checkQuestion_exclusive_le_one {q : Question} (ok : checkQuestion q = .ok ()) :
    (q.answers.filter (·.kind.isExclusive)).length ≤ 1 := by
  unfold checkQuestion at ok
  simp only [bind, Except.bind] at ok
  split at ok
  · simp at ok
  split at ok
  · simp at ok
  · next single => simpa using single

namespace Questionnaire

/-- What loading guarantees of questions: each question of a block has slots of distinct ids,
at most one of them exclusive, and two questions that share a slot are the same question. -/
structure QuestionsChecked (q : Questionnaire) : Prop where
  grouped : ∀ b ∈ q.blocks, ∀ question ∈ b.questions, question.Grouped
  apart : ∀ b ∈ q.blocks, ∀ b' ∈ q.blocks, ∀ question ∈ b.questions, ∀ other ∈ b'.questions,
    ∀ slot ∈ question.slotIds, slot ∈ other.slotIds → question = other

end Questionnaire

/-- Within a block that passed the first pass, two questions sharing a slot are one question. -/
theorem BlockPlaced.question_eq {seen : Seen} {si bi : Nat} {b : Block}
    (placed : BlockPlaced seen si bi b) {question other : Question}
    (member : question ∈ b.questions) (member' : other ∈ b.questions) {slot : SlotId}
    (declared : slot ∈ question.slotIds) (declared' : slot ∈ other.slotIds) : question = other := by
  obtain ⟨i, at_⟩ := List.getElem?_of_mem member
  obtain ⟨j, at'⟩ := List.getElem?_of_mem member'
  obtain ⟨s, answer, rfl⟩ := List.mem_map.mp declared
  obtain ⟨s', answer', same⟩ := List.mem_map.mp declared'
  have first := (placed.questions question i (List.mem_zipIdx_iff_getElem?.mpr at_)).2.2 s answer
  have second := (placed.questions other j (List.mem_zipIdx_iff_getElem?.mpr at')).2.2 s' answer'
  rw [same, first, Option.some.injEq] at second
  obtain ⟨-, -, rfl⟩ := SlotPlace.mk.inj second
  rw [at_, Option.some.injEq] at at'
  exact at'

/-- Marking a question keeps the ids of its slots and which one is exclusive. -/
theorem markRawText_profile (sources : List SlotId) (question : Question) :
    (markRawText sources question).profile = question.profile := by
  have kinds := congrArg (List.map fun p : SlotId × SlotKind => (p.1, p.2.isExclusive))
    (markRawText_answers sources question)
  simpa [Question.profile, List.map_map, Function.comp_def] using kinds

/-- **Loading checks each question.** -/
theorem questionsChecked_of_ofDefinition {d : QuestionnaireDefinition} {q : Questionnaire}
    (ok : Questionnaire.ofDefinition d = .ok q) : q.QuestionsChecked := by
  have checked := checked_of_ofDefinition ok
  obtain ⟨-, pass, sources, -, rfl⟩ := ofDefinition_ok ok
  obtain ⟨seen, placed⟩ := pass.placed
  -- Each block of the loaded questionnaire is a block of the definition, marked.
  have origin : ∀ b ∈ (d.checked sources).blocks, ∃ original ∈ d.allBlocks,
      b = original.markRawText sources ∧ ∃ si bi, BlockPlaced seen si bi original := by
    intro b member
    rw [d.checked_blocks sources, List.mem_map] at member
    obtain ⟨original, member, rfl⟩ := member
    obtain ⟨sec, si, bi, sectionAt, blockAt⟩ := QuestionnaireDefinition.coordinates_of_mem member
    exact ⟨original, member, rfl, si, bi, placed sec si sectionAt original bi blockAt⟩
  have slotIds : ∀ question : Question, (markRawText sources question).slotIds = question.slotIds :=
    fun question => markRawText_slotIds sources question
  refine ⟨fun b member question asked => ?_, fun b member b' member' question asked other asked'
    slot declared declared' => ?_⟩
  · obtain ⟨original, -, rfl, si, bi, placedBlock⟩ := origin b member
    obtain ⟨plain, own, rfl⟩ := List.mem_map.mp asked
    obtain ⟨i, at_⟩ := List.getElem?_of_mem own
    obtain ⟨checks, distinct, -⟩ := placedBlock.questions plain i (List.mem_zipIdx_iff_getElem?.mpr at_)
    exact Question.Grouped.of_profile (markRawText_profile sources plain)
      ⟨distinct, checkQuestion_exclusive_le_one checks⟩
  · -- Two questions sharing a slot sit in one block, then at one position.
    have sameBlock : b = b' := checked.slots_apart b member b' member' slot
      (Block.mem_slotIds_of_question (List.mem_append_left _ asked) declared)
      (Block.mem_slotIds_of_question (List.mem_append_left _ asked') declared')
    subst sameBlock
    obtain ⟨original, -, rfl, si, bi, placedBlock⟩ := origin b member
    obtain ⟨plain, own, rfl⟩ := List.mem_map.mp asked
    obtain ⟨plain', own', rfl⟩ := List.mem_map.mp asked'
    rw [slotIds] at declared declared'
    rw [placedBlock.question_eq own own' declared declared']

/-! ### Frames of the flags -/

namespace Question

theorem answer?_isSome_iff {question : Question} {slot : SlotId} :
    (question.answer? slot).isSome = true ↔ slot ∈ question.slotIds := by
  simp [answer?, slotIds, List.find?_isSome]

/-- The flags of a question read only its own slots. -/
theorem flags_eq_of_sameOutside {question : Question} {slots : List SlotId} {A B : AnswerStore}
    (same : AnswerStore.SameOutside slots A B) (apart : ∀ slot ∈ question.slotIds, slot ∉ slots) :
    question.flags B = question.flags A := by
  have others := othersAnswered_eq_of_sameOutside same fun s member =>
    apart s.id (mem_slotIds (List.mem_of_mem_filter member))
  have exclusive := exclusiveAnswered_eq_of_sameOutside same fun x found =>
    apart x.id (mem_slotIds (List.mem_of_find?_eq_some found))
  simp [flags, others, exclusive]

/-- Fewer answers raise no flag. -/
theorem oneSide_of_subset {question : Question} {A B : AnswerStore} (apart : question.OneSide A)
    (sub : ∀ slot, B.contains slot = true → A.contains slot = true) : question.OneSide B := by
  have exclusive : question.exclusiveAnswered B = true → question.exclusiveAnswered A = true := by
    unfold exclusiveAnswered
    cases question.exclusiveAnswer? with
    | none => simp
    | some x => simpa using sub x.id
  have others : question.othersAnswered B = true → question.othersAnswered A = true := by
    simp only [othersAnswered, List.any_eq_true]
    rintro ⟨s, member, held⟩
    exact ⟨s, member, sub s.id held⟩
  intro answered
  have blocked : question.othersAnswered A = false := apart (exclusive answered)
  show question.othersAnswered B = false
  cases held : question.othersAnswered B with
  | false => rfl
  | true => simp [others held] at blocked

end Question

/-! ### The invariant across a questionnaire -/

namespace Questionnaire

/-- Every variant of a question keeps the ids of the question's slots and which of them is
exclusive. -/
def VariantsKeepGroups (q : Questionnaire) : Prop :=
  ∀ b ∈ q.blocks, ∀ v ∈ b.questionVariants, ∀ question ∈ b.questions,
    v.question.id = question.id → v.question.profile = question.profile

instance (q : Questionnaire) : Decidable q.VariantsKeepGroups :=
  inferInstanceAs (Decidable (∀ b ∈ q.blocks, ∀ v ∈ b.questionVariants, ∀ question ∈ b.questions,
    v.question.id = question.id → v.question.profile = question.profile))

/-- No question of the questionnaire holds answers on both sides of its group. -/
def GroupsApart (q : Questionnaire) (answers : AnswerStore) : Prop :=
  ∀ b ∈ q.blocks, ∀ question ∈ b.questions, question.OneSide answers

section Shown

variable {q : Questionnaire} (checks : q.QuestionsChecked) (keeps : q.VariantsKeepGroups)

include keeps in
/-- The question a block shows in place of one of its questions is that question or a variant
of it, so it has that question's profile. -/
theorem shownQuestion_profile {b : Block} (member : b ∈ q.blocks) {question : Question}
    (asked : question ∈ b.questions) (view : Lookup) :
    (b.shownQuestion view question).profile = question.profile := by
  unfold Block.shownQuestion
  split
  · next v picked =>
    have chosen := List.find?_some picked
    have sameId : v.question.id = question.id := by
      simp only [Bool.and_eq_true, beq_iff_eq] at chosen
      exact chosen.1
    exact keeps b member v (List.mem_of_find?_eq_some picked) question asked sameId
  · rfl

include keeps in
/-- Every question a block shows has the profile of one of the block's questions. -/
theorem shown_profile {b : Block} (member : b ∈ q.blocks) {view : Lookup} {shown : Question}
    (listed : shown ∈ b.questionsFor view) :
    ∃ question ∈ b.questions, shown.profile = question.profile := by
  obtain ⟨question, asked, rfl⟩ := List.mem_map.mp listed
  exact ⟨question, asked, shownQuestion_profile keeps member asked view⟩

include checks keeps

/-- **An edit confined to a shown question that keeps that question on one side keeps every
group on one side**: the other questions' slots are untouched. -/
theorem GroupsApart.of_shown {A B : AnswerStore} (apart : q.GroupsApart A) {b : Block}
    (member : b ∈ q.blocks) {view : Lookup} {shown : Question} (listed : shown ∈ b.questionsFor view)
    (frame : AnswerStore.SameOutside shown.slotIds A B)
    (kept : shown.OneSide A → shown.OneSide B) : q.GroupsApart B := by
  obtain ⟨own, asked, profile⟩ := shown_profile keeps member listed
  have ownKept : own.OneSide B :=
    (Question.oneSide_iff_of_profile profile B).mp
      (kept ((Question.oneSide_iff_of_profile profile A).mpr (apart b member own asked)))
  rw [Question.slotIds_eq_of_profile profile] at frame
  intro b' member' other asked'
  by_cases shares : ∃ slot ∈ other.slotIds, slot ∈ own.slotIds
  · -- A question sharing a slot with the edited one is the edited one.
    obtain ⟨slot, declared, declared'⟩ := shares
    rw [← checks.apart b member b' member' own asked other asked' slot declared' declared]
    exact ownKept
  · have unchanged := Question.flags_eq_of_sameOutside frame fun slot declared inOwn =>
      shares ⟨slot, declared, inOwn⟩
    unfold Question.OneSide
    rw [unchanged]
    exact apart b' member' other asked'

/-- **An edit of a shown question keeps every group on one side** and reports the state read
from the answers after it. -/
theorem GroupsApart.applyEdit {entry entry' : Entry} (apart : q.GroupsApart entry.answers)
    {b : Block} (member : b ∈ q.blocks) {view : Lookup} {shown : Question}
    (listed : shown ∈ b.questionsFor view) {slot : SlotId} {edit : Edit} {phase : EditPhase}
    {applied : Applied} (ok : shown.applyEdit slot edit phase entry = .ok (applied, entry')) :
    q.GroupsApart entry'.answers ∧ applied.state = shown.groupState entry'.answers := by
  obtain ⟨own, asked, profile⟩ := shown_profile keeps member listed
  have grouped := (checks.grouped b member own asked).of_profile profile
  have edited := fun before => Question.applyEdit_oneSide grouped before ok
  refine ⟨apart.of_shown checks keeps member listed (Question.applyEdit_sameOutside ok)
    fun before => (edited before).1, (edited ?_).2⟩
  exact (Question.oneSide_iff_of_profile profile _).mpr (apart b member own asked)

/-- Committing a draft of a shown question keeps every group on one side, and reports the
state read from the answers after it. -/
theorem GroupsApart.commitDraft {entry entry' : Entry} (apart : q.GroupsApart entry.answers)
    {b : Block} (member : b ∈ q.blocks) {view : Lookup} {shown : Question}
    (listed : shown ∈ b.questionsFor view) {slot : SlotId} {applied : Option Applied}
    (ok : shown.commitDraft slot entry = .ok (applied, entry')) :
    q.GroupsApart entry'.answers ∧ ∀ a, applied = some a → a.state = shown.groupState entry'.answers := by
  obtain ⟨own, asked, profile⟩ := shown_profile keeps member listed
  have grouped := (checks.grouped b member own asked).of_profile profile
  have committed := fun before => Question.commitDraft_oneSide grouped before ok
  refine ⟨apart.of_shown checks keeps member listed (Question.commitDraft_sameOutside ok)
    fun before => (committed before).1, (committed ?_).2⟩
  exact (Question.oneSide_iff_of_profile profile _).mpr (apart b member own asked)

/-- **The invariant, read on the questions a block shows**: an answered exclusive slot leaves
every other slot of the question unanswered. -/
theorem GroupsApart.shown {A : AnswerStore} (apart : q.GroupsApart A) {b : Block}
    (member : b ∈ q.blocks) {view : Lookup} {shown : Question} (listed : shown ∈ b.questionsFor view)
    {x y : AnswerSlot} (hx : x ∈ shown.answers) (exclusive : x.kind.isExclusive = true)
    (held : A.contains x.id = true) (hy : y ∈ shown.answers) (other : y.kind.isExclusive = false) :
    A.contains y.id = false := by
  obtain ⟨own, asked, profile⟩ := shown_profile keeps member listed
  have grouped := (checks.grouped b member own asked).of_profile profile
  have oneSide := (Question.oneSide_iff_of_profile profile A).mpr (apart b member own asked)
  exact grouped.unanswered_of_oneSide oneSide hx exclusive held hy other

end Shown

/-- Removing answers keeps every group on one side. -/
theorem GroupsApart.of_subset {q : Questionnaire} {A B : AnswerStore} (apart : q.GroupsApart A)
    (sub : ∀ slot, B.contains slot = true → A.contains slot = true) : q.GroupsApart B :=
  fun b member question asked => Question.oneSide_of_subset (apart b member question asked) sub

end Questionnaire

end Survey
