import Mathlib
import Survey.Proofs.Exclusive.Group
import Survey.Proofs.Exclusive.Writes
import Survey.Catalog

/-!
# The enforcer refines the group state machine

`transition` is the exclusivity group's state machine; the enforcer (`Question.applyEdit`,
`Question.commitDraft`) carries it out on answers and drafts. For a question with distinct slot
ids and at most one exclusive slot (`Question.Grouped`), from answers on one side of the group,
every successful edit does what the machine promises (`Question.Refines`):

* it reports the state read from the answers after it, and these are on one side again;
* it reports as cleared exactly the slots, other than the one edited, that held an answer
  before and hold none after, each once;
* a keystroke on a slot other than the exclusive one leaves the answers as they were;
* setting the exclusive slot leaves no draft on any other slot of the question.

The pieces: `Question.applyEdit_eq_ok` says once what a successful edit is made of (the slot
found, the edit step, the effect of the transition), and the event the step reports follows from
`Question.editStep_eq_ok`; `Question.perform_cleared` what an effect
clears; `Question.perform_get?_target` that the effect never touches the edited slot; and
`Question.enforcer_refines_group` assembles them, for edits and for committed drafts.
-/

namespace Survey

/-- An effect other than keeping is asked for by one event only: clearing the others by setting
the exclusive slot, clearing the exclusive slot by committing another. -/
theorem transition_effect (state : GroupState) (event : GroupEvent) :
    (transition state event).2 = .keep ∨
      ((transition state event).2 = .clearOthers ∧ event = .exclusiveSet) ∨
      ((transition state event).2 = .clearExclusive ∧ event = .otherCommitted) := by
  cases event with
  | otherCleared remain => cases state <;> cases remain <;> simp [transition]
  | _ => cases state <;> simp [transition]

namespace Question

variable {q : Question}

/-! ### What the edit step reports -/

theorem editStep_exclusive_of_exclusiveSet {target : AnswerSlot} {edit : Edit} {phase : EditPhase}
    {entry entry' : Entry} (ok : q.editStep target edit phase entry = .ok (.exclusiveSet, entry')) :
    target.kind.isExclusive = true := by
  rcases editStep_eq_ok ok with ⟨exclusive, -⟩ |
    ⟨-, ⟨-, -, nope, -⟩ | ⟨value, old, answers, -, -, -, nope, -⟩ | ⟨-, -, nope, -⟩⟩
  · exact exclusive
  all_goals cases nope

theorem editStep_other_of_otherCommitted {target : AnswerSlot} {edit : Edit} {phase : EditPhase}
    {entry entry' : Entry} (ok : q.editStep target edit phase entry = .ok (.otherCommitted, entry')) :
    target.kind.isExclusive = false := by
  rcases editStep_eq_ok ok with
    ⟨-, ⟨value, old, answers, -, -, nope, -⟩ | ⟨-, nope, -⟩⟩ | ⟨other, -⟩
  · cases nope
  · cases nope
  · exact other

/-- A keystroke on a slot other than the exclusive one is a draft and stores nothing. -/
theorem editStep_keystroke {target : AnswerSlot} (other : target.kind.isExclusive = false)
    {edit : Edit} {entry entry' : Entry} {event : GroupEvent}
    (ok : q.editStep target edit .keystroke entry = .ok (event, entry')) :
    event = .otherDrafted := by
  rcases editStep_eq_ok ok with ⟨exclusive, -⟩ |
    ⟨-, ⟨-, -, drafted, -⟩ | ⟨value, old, answers, nope, -⟩ | ⟨nope, -⟩⟩
  · simp [other] at exclusive
  · exact drafted
  · cases nope
  · cases nope

/-- Setting the exclusive slot drops the drafts of the other slots. -/
theorem editStep_exclusive_set_drafts {target : AnswerSlot} (exclusive : target.kind.isExclusive = true)
    {value : AnswerValue} {phase : EditPhase} {entry entry' : Entry} {event : GroupEvent}
    (ok : q.editStep target (.set value) phase entry = .ok (event, entry')) :
    ∀ s ∈ q.nonExclusiveAnswers, entry'.drafts.lookup s.id = none := by
  rcases editStep_eq_ok ok with ⟨-, ⟨v, old, answers, -, -, -, rfl⟩ | ⟨nope, -⟩⟩ | ⟨other, -⟩
  · intro s member
    rw [Entries.lookup_foldl_erase (fun s : AnswerSlot => s.id)]
    simp [List.mem_map_of_mem member]
  · cases nope
  · simp [exclusive] at other

/-! ### What an effect clears -/

/-- Clearing a list of slots reports the slots of the list that held an answer. -/
theorem mem_clearAll_cleared (entry : Entry) (slots : List AnswerSlot) (slot : SlotId) :
    slot ∈ (clearAll entry slots).1 ↔ slot ∈ slots.map (·.id) ∧ entry.answers.contains slot = true := by
  induction slots generalizing entry with
  | nil => simp [clearAll]
  | cons s rest ih =>
    simp only [clearAll, List.map_cons, List.mem_cons]
    by_cases here : slot = s.id
    · -- The first clear empties the slot, so a later one of the same id reports nothing.
      subst here
      have gone : (entry.answers.clear s.id).2.contains s.id = false := by
        simp [contains_eq_isSome]
      split <;> simp_all [contains_eq_isSome]
    · have kept : (entry.answers.clear s.id).2.contains slot = entry.answers.contains slot := by
        simp [contains_eq_isSome, here]
      split <;> simp [ih, kept, here]

theorem clearAll_cleared_nodup (entry : Entry) (slots : List AnswerSlot) :
    (clearAll entry slots).1.Nodup := by
  induction slots generalizing entry with
  | nil => simp [clearAll]
  | cons s rest ih =>
    simp only [clearAll]
    split
    · refine List.nodup_cons.mpr ⟨fun later => ?_, ih _⟩
      have gone := ((mem_clearAll_cleared _ rest s.id).mp later).2
      simp [contains_eq_isSome] at gone
    · exact ih _

/-- **An effect reports exactly the slots it emptied**, each once. -/
theorem perform_cleared (effect : Effect) (entry : Entry) :
    (q.perform effect entry).1.Nodup ∧ ∀ slot, slot ∈ (q.perform effect entry).1 ↔
      entry.answers.contains slot = true ∧ (q.perform effect entry).2.answers.contains slot = false := by
  cases effect with
  | keep => simp [perform]
  | clearOthers =>
    refine ⟨clearAll_cleared_nodup entry _, fun slot => ?_⟩
    have after := clearAll_get? entry q.nonExclusiveAnswers slot
    simp only [perform, contains_eq_isSome, after, mem_clearAll_cleared]
    by_cases listed : slot ∈ q.nonExclusiveAnswers.map (·.id) <;>
      simp [listed, Option.isSome_iff_ne_none]
  | clearExclusive =>
    unfold perform
    cases q.exclusiveAnswer? with
    | none => simp
    | some x =>
      simp only [AnswerStore.clear_fst]
      by_cases held : (entry.answers.get? x.id).isSome
      · refine ⟨by simp [held], fun slot => ?_⟩
        by_cases here : slot = x.id <;>
          simp [contains_eq_isSome, held, here, Option.isSome_iff_ne_none]
      · refine ⟨by simp [held], fun slot => ?_⟩
        by_cases here : slot = x.id
        · subst here
          simp [contains_eq_isSome, held]
        · simp [contains_eq_isSome, held, here, Option.isSome_iff_ne_none]

/-- Clearing a list of slots drops their drafts and keeps the others. -/
theorem clearAll_lookup (entry : Entry) (slots : List AnswerSlot) (slot : SlotId) :
    (clearAll entry slots).2.drafts.lookup slot =
      if slot ∈ slots.map (·.id) then none else entry.drafts.lookup slot := by
  induction slots generalizing entry with
  | nil => simp [clearAll]
  | cons s rest ih =>
    simp only [clearAll, ih, List.map_cons, List.mem_cons, Entries.lookup_erase]
    by_cases here : slot = s.id <;> by_cases later : slot ∈ rest.map (·.id) <;> simp [here, later]

/-- An effect never adds a draft. -/
theorem perform_lookup_none (effect : Effect) {entry : Entry} {slot : SlotId}
    (absent : entry.drafts.lookup slot = none) :
    (q.perform effect entry).2.drafts.lookup slot = none := by
  cases effect with
  | keep => exact absent
  | clearOthers => simp [perform, clearAll_lookup, absent]
  | clearExclusive =>
    unfold perform
    cases q.exclusiveAnswer? with
    | none => exact absent
    | some x => exact absent

section Grouped

variable (grouped : q.Grouped)
include grouped

/-- **The effect leaves the edited slot alone**: clearing the others follows setting the exclusive
slot, clearing the exclusive one follows committing another, and ids are distinct. -/
theorem perform_get?_target {target : AnswerSlot} (member : target ∈ q.answers) {edit : Edit}
    {phase : EditPhase} {entry mid : Entry} {event : GroupEvent}
    (stepped : q.editStep target edit phase entry = .ok (event, mid)) (state : GroupState) :
    (q.perform (transition state event).2 mid).2.answers.get? target.id = mid.answers.get? target.id := by
  rcases transition_effect state event with keep | ⟨others, rfl⟩ | ⟨exclusive, rfl⟩
  · rw [keep]
    rfl
  · rw [others]
    have found := grouped.exclusiveAnswer?_eq member (editStep_exclusive_of_exclusiveSet stepped)
    have unlisted : target.id ∉ q.nonExclusiveAnswers.map (·.id) := fun listed => by
      obtain ⟨s, sMember, same⟩ := List.mem_map.mp listed
      exact grouped.exclusive_not_other found s sMember (List.mem_singleton.mpr same)
    simp [perform, clearAll_get?, unlisted]
  · rw [exclusive]
    have other := editStep_other_of_otherCommitted stepped
    unfold perform
    cases found : q.exclusiveAnswer? with
    | none => rfl
    | some x =>
      have sides : x.kind.isExclusive ≠ target.kind.isExclusive := by
        simp [List.find?_some found, other]
      have apart := grouped.id_ne (List.mem_of_find?_eq_some found) member sides
      simp [Ne.symm apart]

/-- A slot of the question other than the exclusive one, when the exclusive one is `target`. -/
theorem mem_nonExclusive_of_ne {target s : AnswerSlot} (member : target ∈ q.answers)
    (exclusive : target.kind.isExclusive = true) (sMember : s ∈ q.answers) (other : s.id ≠ target.id) :
    s ∈ q.nonExclusiveAnswers := by
  refine List.mem_filter.mpr ⟨sMember, ?_⟩
  cases sides : s.kind.isExclusive
  · rfl
  · have same := (grouped.exclusiveAnswer?_eq sMember sides).symm.trans
      (grouped.exclusiveAnswer?_eq member exclusive)
    exact absurd (congrArg AnswerSlot.id (Option.some.inj same)) other

end Grouped

/-! ### The refinement -/

/-- What a successful edit of `slot` with `edit` in `phase`, taking `entry` to `entry'` and
reporting `applied`, owes the group state machine. -/
structure Refines (q : Question) (slot : SlotId) (edit : Edit) (phase : EditPhase)
    (entry : Entry) (applied : Applied) (entry' : Entry) : Prop where
  /-- The state reported is the state read from the answers after the edit. -/
  state_eq : applied.state = q.groupState entry'.answers
  /-- The answers after the edit are on one side of the group. -/
  oneSide : q.OneSide entry'.answers
  cleared_nodup : applied.cleared.Nodup
  /-- The slots reported cleared are those, other than the edited one, emptied by the edit. -/
  mem_cleared : ∀ s, s ∈ applied.cleared ↔
    s ≠ slot ∧ entry.answers.contains s = true ∧ entry'.answers.contains s = false
  /-- A keystroke on a slot other than the exclusive one stores nothing. -/
  keystroke_keeps : phase = .keystroke →
    (∀ target, q.answer? slot = some target → target.kind.isExclusive = false) →
    entry'.answers = entry.answers
  /-- Setting the exclusive slot leaves no draft on the question's other slots. -/
  exclusive_drops_drafts : ∀ value, edit = .set value →
    ∀ target, q.answer? slot = some target → target.kind.isExclusive = true →
    ∀ s ∈ q.answers, s.id ≠ slot → entry'.drafts.lookup s.id = none

section Grouped

variable (grouped : q.Grouped)
include grouped

/-- **Every successful edit refines the machine**, from answers on one side of the group. -/
theorem applyEdit_refines {slot : SlotId} {edit : Edit} {phase : EditPhase} {entry entry' : Entry}
    {applied : Applied} (apart : q.OneSide entry.answers)
    (ok : q.applyEdit slot edit phase entry = .ok (applied, entry')) :
    q.Refines slot edit phase entry applied entry' := by
  obtain ⟨stillApart, named⟩ := applyEdit_oneSide grouped apart ok
  obtain ⟨target, event, mid, found, stepped, reported, after⟩ := applyEdit_eq_ok ok
  have member := answer?_mem found
  have own : target.id = slot := answer?_id found
  -- The edit step changes the edited slot only, and the effect leaves that slot alone.
  have outside : ∀ s, s ≠ slot → mid.answers.get? s = entry.answers.get? s := fun s other =>
    editStep_sameOutside stepped s (by simp [own, other])
  have targetKept := perform_get?_target grouped member stepped (q.groupState entry.answers)
  obtain ⟨nodup, cleared⟩ := perform_cleared (q := q) (transition (q.groupState entry.answers) event).2 mid
  have clearedEq : applied.cleared =
      (q.perform (transition (q.groupState entry.answers) event).2 mid).1 := by rw [reported]
  rw [← after] at targetKept cleared
  rw [← clearedEq] at nodup cleared
  refine ⟨named, stillApart, nodup, fun s => ?_, fun keystroke others => ?_,
    fun value setting target' found' exclusive s sMember other => ?_⟩
  · rw [cleared s]
    by_cases here : s = slot
    · subst here
      simp [contains_eq_isSome, ← own, targetKept, Option.isSome_iff_ne_none]
    · simp [contains_eq_isSome, here, outside s here]
  · -- A keystroke on another slot is a draft, which has no effect on the answers.
    subst keystroke
    have drafted := editStep_keystroke (others target found) stepped
    have flagged : applied.drafted = true := by simp [reported, drafted]
    exact (applyEdit_drafted ok flagged).1
  · subst setting
    obtain rfl : target' = target := Option.some.inj (found'.symm.trans found)
    have otherSlot := mem_nonExclusive_of_ne grouped member exclusive sMember (own ▸ other)
    rw [after]
    exact perform_lookup_none _ (editStep_exclusive_set_drafts exclusive stepped s otherSlot)

/-- **The enforcer refines the group state machine.** For a question with distinct slot ids and at
most one exclusive slot, from answers on one side of its group, every successful edit (any slot,
set or clear, keystroke or commit) and every committed draft reports the state read from the
answers after it, keeps them on one side, reports as cleared exactly the other slots it emptied,
stores nothing on a keystroke of a slot other than the exclusive one, and leaves no draft on the
other slots once the exclusive one is set. -/
theorem enforcer_refines_group {entry : Entry} (apart : q.OneSide entry.answers) :
    (∀ slot edit phase applied entry', q.applyEdit slot edit phase entry = .ok (applied, entry') →
      q.Refines slot edit phase entry applied entry') ∧
    (∀ slot applied entry', q.commitDraft slot entry = .ok (some applied, entry') →
      ∃ edit, entry.drafts.lookup slot = some edit ∧ q.Refines slot edit .commit entry applied entry') := by
  refine ⟨fun slot edit phase applied entry' ok => applyEdit_refines grouped apart ok,
    fun slot applied entry' ok => ?_⟩
  obtain ⟨edit, drafted, edited⟩ := commitDraft_eq_some ok
  exact ⟨edit, drafted, applyEdit_refines grouped apart edited⟩

end Grouped

/-- The number question of the mutually exclusive questionnaire: a number, and "I prefer not to
say", with nothing answered. -/
theorem enforcer_refines_group_number :
    let question := Catalog.question "number-question" "Enter a number"
      [AnswerSlot.number "number-answer" "Number",
        Catalog.exclusiveAs "number-exclusive-answer" Catalog.preferNotToSay Catalog.preferNotToSay]
    question.Grouped ∧ question.OneSide AnswerStore.empty ∧
      (∀ slot edit phase applied entry',
        question.applyEdit slot edit phase ⟨AnswerStore.empty, []⟩ = .ok (applied, entry') →
          question.Refines slot edit phase ⟨AnswerStore.empty, []⟩ applied entry') ∧
      (∀ slot applied entry',
        question.commitDraft slot ⟨AnswerStore.empty, []⟩ = .ok (some applied, entry') →
          ∃ edit, ([] : Drafts).lookup slot = some edit ∧
            question.Refines slot edit .commit ⟨AnswerStore.empty, []⟩ applied entry') := by
  intro question
  have grouped : question.Grouped := ⟨by decide, by decide⟩
  have apart : question.OneSide AnswerStore.empty := fun answered => absurd answered (by decide)
  exact ⟨grouped, apart, enforcer_refines_group grouped apart⟩

end Question

end Survey
