import Mathlib
import Survey.Proofs.Exclusive.Refinement

/-!
# Commits, one after another

A submission commits pending drafts and edits one after another, each through the enforcer
(`Entry.commitEdits`). From answers on one side of its group, one commit acts on each slot in a
way read off the edit alone (`Question.commitWrite`): the slot edited takes the edit's value,
storing an answer empties the slots on the other side of the group, and every other slot keeps
its answer. Over a sequence of commits each slot therefore holds what the last commit writing it
wrote, or its old answer (`writtenAt`).

* `Question.applyEdit_commit_get?` — one commit, slot by slot;
* `Entry.commitEdits_get?` — a sequence of commits, slot by slot, while every question committed
  to stays on one side of its group;
* `writtenAt_of_untouched`, `writtenAt_of_written` — reading the last write;
* `Entry.commitEdits_lookup`, `Entry.commitEdits_lookup_none` — commits only drop drafts, and the
  commit of a slot other than the exclusive one drops that slot's draft.
-/

namespace Survey

/-- The answer a committed edit leaves in its slot. -/
def Edit.value? : Edit → Option AnswerValue
  | .set value => some value
  | .clear => none

@[simp] theorem Edit.value?_set (value : AnswerValue) : (Edit.set value).value? = some value := rfl

@[simp] theorem Edit.value?_clear : Edit.clear.value? = none := rfl

namespace Question

variable {q : Question}

/-- Whether the slot of the question with this id is its exclusive one. -/
def exclusiveAt (q : Question) (slot : SlotId) : Bool := (q.answer? slot).any (·.kind.isExclusive)

/-- Whether two slots of the question sit on opposite sides of its group. -/
def opposite (q : Question) (slot u : SlotId) : Bool :=
  match q.answer? slot, q.answer? u with
  | some s, some t => s.kind.isExclusive != t.kind.isExclusive
  | _, _ => false

/-- What committing `change` to `slot` writes at the slot `u`, if anything: the change's value at
`slot` itself, and no answer on the other side of the group when the change stores one. -/
def commitWrite (q : Question) (slot : SlotId) (change : Edit) (u : SlotId) :
    Option (Option AnswerValue) :=
  if u = slot then some change.value?
  else if change.value?.isSome && q.opposite slot u then some none
  else none

theorem opposite_eq_true {slot u : SlotId} :
    q.opposite slot u = true ↔ ∃ s t, q.answer? slot = some s ∧ q.answer? u = some t ∧
      s.kind.isExclusive ≠ t.kind.isExclusive := by
  unfold opposite
  cases q.answer? slot <;> cases q.answer? u <;> simp

theorem commitWrite_eq_some {slot u : SlotId} {change : Edit} {w : Option AnswerValue} :
    q.commitWrite slot change u = some w ↔
      (u = slot ∧ w = change.value?) ∨
        (u ≠ slot ∧ change.value?.isSome = true ∧ q.opposite slot u = true ∧ w = none) := by
  unfold commitWrite
  by_cases self : u = slot
  · simp only [self, if_true, Option.some.injEq, true_and, ne_eq, not_true_eq_false, false_and,
      or_false]
    exact eq_comm
  · by_cases both : change.value?.isSome = true ∧ q.opposite slot u = true
    · rw [if_neg self, if_pos (by simp [both.1, both.2])]
      simp only [Option.some.injEq, self, false_and, false_or, ne_eq, not_false_eq_true, both.1,
        both.2, true_and]
      exact eq_comm
    · rw [if_neg self, if_neg (by simpa using both)]
      simp only [reduceCtorEq, false_iff, self, false_and, false_or]
      exact fun ⟨_, storing, sides, _⟩ => both ⟨storing, sides⟩

/-- A commit writes only at slots of its question. -/
theorem mem_slotIds_of_commitWrite {slot u : SlotId} {change : Edit}
    (held : slot ∈ q.slotIds) (writes : (q.commitWrite slot change u).isSome = true) :
    u ∈ q.slotIds := by
  obtain ⟨w, written⟩ := Option.isSome_iff_exists.mp writes
  rcases commitWrite_eq_some.mp written with ⟨rfl, -⟩ | ⟨-, -, sides, -⟩
  · exact held
  · obtain ⟨-, t, -, found, -⟩ := opposite_eq_true.mp sides
    exact answer?_id found ▸ mem_slotIds (answer?_mem found)

/-- Where a question's slot ids are distinct, each id finds its own slot. -/
theorem Grouped.answer?_of_mem (grouped : q.Grouped) {s : AnswerSlot} (member : s ∈ q.answers) :
    q.answer? s.id = some s := by
  obtain ⟨t, found⟩ : ∃ t, q.answer? s.id = some t :=
    Option.isSome_iff_exists.mp (List.find?_isSome.mpr ⟨s, member, by simp⟩)
  have same : t = s :=
    List.inj_on_of_nodup_map grouped.ids_nodup (answer?_mem found) member (answer?_id found)
  rw [found, same]

theorem Grouped.exclusiveAt_of_mem (grouped : q.Grouped) {s : AnswerSlot} (member : s ∈ q.answers) :
    q.exclusiveAt s.id = s.kind.isExclusive := by
  simp [exclusiveAt, grouped.answer?_of_mem member]

theorem Grouped.opposite_of_mem (grouped : q.Grouped) {s t : AnswerSlot} (hs : s ∈ q.answers)
    (ht : t ∈ q.answers) : q.opposite s.id t.id = (s.kind.isExclusive != t.kind.isExclusive) := by
  simp [opposite, grouped.answer?_of_mem hs, grouped.answer?_of_mem ht]

/-! ### One commit, slot by slot -/

/-- **A commit's edit step, exactly**: its slot holds the edit's value; ticking the exclusive slot
drops the drafts of the other slots, clearing it drops none, and committing another slot drops that
slot's draft. -/
theorem editStep_commit_eq_ok {target : AnswerSlot} {change : Edit} {entry mid : Entry}
    {event : GroupEvent} (ok : q.editStep target change .commit entry = .ok (event, mid)) :
    mid.answers.get? target.id = change.value? ∧
      mid.drafts = if target.kind.isExclusive then
          (if change.value?.isSome then
            q.nonExclusiveAnswers.foldl (fun ds s => ds.erase s.id) entry.drafts
          else entry.drafts)
        else entry.drafts.erase target.id := by
  rcases editStep_eq_ok ok with
    ⟨exclusive, ⟨value, old, answers, rfl, stored, -, rfl⟩ | ⟨rfl, -, rfl⟩⟩ |
      ⟨other, ⟨nope, -⟩ | ⟨value, old, answers, -, rfl, stored, -, rfl⟩ | ⟨-, rfl, -, rfl⟩⟩
  · simp [AnswerStore.get?_set_of_ok stored, exclusive]
  · simp [exclusive]
  · cases nope
  · simp [AnswerStore.get?_set_of_ok stored, other]
  · simp [other]

/-- Only an edit that stores an answer reports setting the exclusive slot or committing another. -/
theorem editStep_stores {target : AnswerSlot} {change : Edit} {phase : EditPhase}
    {entry mid : Entry} {event : GroupEvent}
    (ok : q.editStep target change phase entry = .ok (event, mid))
    (storing : event = .exclusiveSet ∨ event = .otherCommitted) : change.value?.isSome = true := by
  rcases editStep_eq_ok ok with
    ⟨-, ⟨value, old, answers, rfl, -⟩ | ⟨-, rfl, -⟩⟩ |
      ⟨-, ⟨-, -, rfl, -⟩ | ⟨value, old, answers, -, rfl, -⟩ | ⟨-, -, rfl, -⟩⟩
  · rfl
  · rcases storing with nope | nope <;> cases nope
  · rcases storing with nope | nope <;> cases nope
  · rfl
  · rcases storing with nope | nope <;> cases nope

section Grouped

variable (grouped : q.Grouped)
include grouped

/-- **A commit leaves slots it does not write alone**: the edit step changes its own slot, and the
effect empties the other side of the group only after an edit that stores an answer. -/
theorem applyEdit_get?_of_untouched {slot u : SlotId} {change : Edit} {phase : EditPhase}
    {entry entry' : Entry} {applied : Applied}
    (ok : q.applyEdit slot change phase entry = .ok (applied, entry')) (other : u ≠ slot)
    (apart : change.value?.isSome = true → q.opposite slot u = false) :
    entry'.answers.get? u = entry.answers.get? u := by
  obtain ⟨target, event, mid, found, stepped, -, after⟩ := applyEdit_eq_ok ok
  have midSame : mid.answers.get? u = entry.answers.get? u :=
    editStep_sameOutside stepped u (by simp [answer?_id found, other])
  rw [after]
  rcases transition_effect (q.groupState entry.answers) event with keep | ⟨others, rfl⟩ |
    ⟨exclusive, rfl⟩
  · rw [keep]
    exact midSame
  · -- Setting the exclusive slot empties the other side, and `u` is not on it.
    have unlisted : u ∉ q.nonExclusiveAnswers.map (·.id) := by
      intro listed
      obtain ⟨s, sMember, rfl⟩ := List.mem_map.mp listed
      have sOther := List.mem_filter.mp sMember
      have sides : q.opposite slot s.id = true := opposite_eq_true.mpr
        ⟨target, s, found, grouped.answer?_of_mem sOther.1, by
          simpa [editStep_exclusive_of_exclusiveSet stepped] using sOther.2⟩
      simp [apart (editStep_stores stepped (.inl rfl))] at sides
    rw [others]
    simp [perform, clearAll_get?, unlisted, midSame]
  · -- Committing another slot empties the exclusive one, and `u` is not it.
    rw [exclusive]
    unfold perform
    cases foundX : q.exclusiveAnswer? with
    | none => exact midSame
    | some x =>
      have notX : u ≠ x.id := by
        rintro rfl
        have sides : q.opposite slot x.id = true := opposite_eq_true.mpr
          ⟨target, x, found, grouped.answer?_of_mem (List.mem_of_find?_eq_some foundX), by
            simp [editStep_other_of_otherCommitted stepped, List.find?_some foundX]⟩
        simp [apart (editStep_stores stepped (.inr rfl))] at sides
      simp [notX, midSame]

/-- A commit leaves the edit's value in its slot. -/
theorem applyEdit_commit_get?_self {slot : SlotId} {change : Edit} {entry entry' : Entry}
    {applied : Applied} (ok : q.applyEdit slot change .commit entry = .ok (applied, entry')) :
    entry'.answers.get? slot = change.value? := by
  obtain ⟨target, event, mid, found, stepped, -, after⟩ := applyEdit_eq_ok ok
  rw [after, ← answer?_id found, perform_get?_target grouped (answer?_mem found) stepped]
  exact (editStep_commit_eq_ok stepped).1

/-- **Storing an answer empties the other side of the group**: the group stays on one side, and
the edited slot now holds an answer. -/
theorem applyEdit_commit_get?_opposite {slot u : SlotId} {change : Edit} {entry entry' : Entry}
    {applied : Applied} (apart : q.OneSide entry.answers)
    (ok : q.applyEdit slot change .commit entry = .ok (applied, entry'))
    (storing : change.value?.isSome = true) (sides : q.opposite slot u = true) :
    entry'.answers.get? u = none := by
  obtain ⟨s, t, found, foundU, differ⟩ := opposite_eq_true.mp sides
  have after := (applyEdit_oneSide grouped apart ok).1
  have held : entry'.answers.contains s.id = true := by
    rw [contains_eq_isSome, answer?_id found, applyEdit_commit_get?_self grouped ok]
    exact storing
  rw [← answer?_id foundU, ← Option.not_isSome_iff_eq_none, ← contains_eq_isSome]
  cases excl : s.kind.isExclusive
  · -- The edited slot is another slot, so `t` is the exclusive one.
    have tExcl : t.kind.isExclusive = true := by simpa [excl] using differ.symm
    intro tHeld
    have gone := grouped.unanswered_of_oneSide after (answer?_mem foundU) tExcl tHeld
      (answer?_mem found) excl
    simp [gone] at held
  · have tOther : t.kind.isExclusive = false := by simpa [excl] using differ.symm
    simp [grouped.unanswered_of_oneSide after (answer?_mem found) excl held (answer?_mem foundU)
      tOther]

/-- **One commit, slot by slot**: from answers on one side of the group, every slot holds what the
commit writes there, or its old answer. -/
theorem applyEdit_commit_get? {slot : SlotId} {change : Edit} {entry entry' : Entry}
    {applied : Applied} (apart : q.OneSide entry.answers)
    (ok : q.applyEdit slot change .commit entry = .ok (applied, entry')) (u : SlotId) :
    entry'.answers.get? u = (q.commitWrite slot change u).getD (entry.answers.get? u) := by
  unfold commitWrite
  by_cases self : u = slot
  · subst self
    simp [applyEdit_commit_get?_self grouped ok]
  · by_cases both : change.value?.isSome = true ∧ q.opposite slot u = true
    · simp [self, both.1, both.2, applyEdit_commit_get?_opposite grouped apart ok both.1 both.2]
    · rw [if_neg self, if_neg (by simpa using both), Option.getD_none]
      exact applyEdit_get?_of_untouched grouped ok self fun storing => by simpa [storing] using both

end Grouped

/-! ### One commit, draft by draft -/

/-- An effect drops drafts or keeps them. -/
theorem perform_lookup (effect : Effect) (entry : Entry) (u : SlotId) :
    (q.perform effect entry).2.drafts.lookup u = entry.drafts.lookup u ∨
      (q.perform effect entry).2.drafts.lookup u = none := by
  cases effect with
  | keep => exact .inl rfl
  | clearOthers =>
    rw [perform, clearAll_lookup]
    split
    · exact .inr rfl
    · exact .inl rfl
  | clearExclusive =>
    unfold perform
    cases q.exclusiveAnswer? with
    | none => exact .inl rfl
    | some x => exact .inl rfl

/-- A commit's edit step drops drafts or keeps them. -/
theorem editStep_commit_lookup {target : AnswerSlot} {change : Edit} {entry mid : Entry}
    {event : GroupEvent} (ok : q.editStep target change .commit entry = .ok (event, mid))
    (u : SlotId) : mid.drafts.lookup u = entry.drafts.lookup u ∨ mid.drafts.lookup u = none := by
  rw [(editStep_commit_eq_ok ok).2]
  split
  · split
    · rw [Entries.lookup_foldl_erase (fun s : AnswerSlot => s.id)]
      split
      · exact .inr rfl
      · exact .inl rfl
    · exact .inl rfl
  · rw [Entries.lookup_erase]
    split
    · exact .inr rfl
    · exact .inl rfl

/-- A commit drops drafts or keeps them; it never adds one. -/
theorem applyEdit_commit_lookup {slot : SlotId} {change : Edit} {entry entry' : Entry}
    {applied : Applied} (ok : q.applyEdit slot change .commit entry = .ok (applied, entry'))
    (u : SlotId) :
    entry'.drafts.lookup u = entry.drafts.lookup u ∨ entry'.drafts.lookup u = none := by
  obtain ⟨target, event, mid, -, stepped, -, after⟩ := applyEdit_eq_ok ok
  rw [after]
  rcases perform_lookup (q := q) (transition (q.groupState entry.answers) event).2 mid u with
    kept | gone
  · rw [kept]
    exact editStep_commit_lookup stepped u
  · exact .inr gone

/-- **The commit of a slot other than the exclusive one drops that slot's draft and keeps every
other draft**: its effect, if any, clears the exclusive slot's answer only. -/
theorem applyEdit_commit_lookup_of_other {slot : SlotId} {change : Edit} {entry entry' : Entry}
    {applied : Applied} (ok : q.applyEdit slot change .commit entry = .ok (applied, entry'))
    (other : q.exclusiveAt slot = false) (u : SlotId) :
    entry'.drafts.lookup u = if u = slot then none else entry.drafts.lookup u := by
  obtain ⟨target, event, mid, found, stepped, -, after⟩ := applyEdit_eq_ok ok
  have targetOther : target.kind.isExclusive = false := by simpa [exclusiveAt, found] using other
  have own := answer?_id found
  -- The edit step commits or clears the slot, dropping its draft.
  have midDrafts : mid.drafts = entry.drafts.erase slot := by
    rw [(editStep_commit_eq_ok stepped).2, if_neg (by simp [targetOther]), own]
  -- Its effect is not the one that drops drafts.
  have kept : (q.perform (transition (q.groupState entry.answers) event).2 mid).2.drafts =
      mid.drafts := by
    rcases transition_effect (q.groupState entry.answers) event with keep | ⟨-, rfl⟩ | ⟨exclusive, -⟩
    · rw [keep]
      rfl
    · simp [editStep_exclusive_of_exclusiveSet stepped] at targetOther
    · rw [exclusive]
      unfold perform
      cases q.exclusiveAnswer? with
      | none => rfl
      | some x => rfl
  rw [after, kept, midDrafts, Entries.lookup_erase]

end Question

/-! ### Sequences of commits -/

/-- Commit a sequence of edits, each to a slot of its question, one after another. -/
def Entry.commitEdits (entry : Entry) (steps : List (Question × SlotId × Edit)) :
    Except AnswerError Entry :=
  steps.foldlM (fun entry step => do pure (← step.1.applyEdit step.2.1 step.2.2 .commit entry).2)
    entry

/-- What a sequence of commits leaves at the slot `u`, from its old answer: what the last commit
writing `u` wrote. -/
def writtenAt (steps : List (Question × SlotId × Edit)) (u : SlotId) (old : Option AnswerValue) :
    Option AnswerValue :=
  steps.foldl (fun old step => (step.1.commitWrite step.2.1 step.2.2 u).getD old) old

@[simp] theorem writtenAt_cons (step : Question × SlotId × Edit)
    (rest : List (Question × SlotId × Edit)) (u : SlotId) (old : Option AnswerValue) :
    writtenAt (step :: rest) u old =
      writtenAt rest u ((step.1.commitWrite step.2.1 step.2.2 u).getD old) := rfl

theorem writtenAt_append (xs ys : List (Question × SlotId × Edit)) (u : SlotId)
    (old : Option AnswerValue) : writtenAt (xs ++ ys) u old = writtenAt ys u (writtenAt xs u old) :=
  List.foldl_append

/-- A slot no commit writes keeps its answer. -/
theorem writtenAt_of_untouched {steps : List (Question × SlotId × Edit)} {u : SlotId}
    (untouched : ∀ step ∈ steps, step.1.commitWrite step.2.1 step.2.2 u = none)
    (old : Option AnswerValue) : writtenAt steps u old = old := by
  induction steps generalizing old with
  | nil => rfl
  | cons step rest ih =>
    rw [writtenAt_cons, untouched step List.mem_cons_self, Option.getD_none]
    exact ih (fun step' later => untouched step' (List.mem_cons_of_mem _ later)) old

/-- A slot that some commit writes, where every commit writing it writes `w`, holds `w`. -/
theorem writtenAt_of_written {steps : List (Question × SlotId × Edit)} {u : SlotId}
    {w : Option AnswerValue}
    (written : ∃ step ∈ steps, (step.1.commitWrite step.2.1 step.2.2 u).isSome = true)
    (same : ∀ step ∈ steps, ∀ w', step.1.commitWrite step.2.1 step.2.2 u = some w' → w' = w)
    (old : Option AnswerValue) : writtenAt steps u old = w := by
  induction steps generalizing old with
  | nil => simp at written
  | cons step rest ih =>
    rw [writtenAt_cons]
    have sameRest := fun step' later => same step' (List.mem_cons_of_mem _ later)
    by_cases later : ∃ step' ∈ rest, (step'.1.commitWrite step'.2.1 step'.2.2 u).isSome = true
    · exact ih later sameRest _
    · -- The first commit is the only one writing `u`.
      have untouched : ∀ step' ∈ rest, step'.1.commitWrite step'.2.1 step'.2.2 u = none :=
        fun step' member => Option.not_isSome_iff_eq_none.mp fun writes => later ⟨step', member, writes⟩
      obtain ⟨w', first⟩ : ∃ w', step.1.commitWrite step.2.1 step.2.2 u = some w' := by
        obtain ⟨step', member, writes⟩ := written
        rcases List.mem_cons.mp member with rfl | member
        · exact Option.isSome_iff_exists.mp writes
        · exact absurd ⟨step', member, writes⟩ later
      rw [writtenAt_of_untouched untouched, first, Option.getD_some]
      exact same step List.mem_cons_self w' first

namespace Entry

variable {steps : List (Question × SlotId × Edit)} {entry final : Entry}

theorem commitEdits_nil (entry : Entry) : entry.commitEdits [] = .ok entry := rfl

theorem commitEdits_cons {step : Question × SlotId × Edit} {rest : List (Question × SlotId × Edit)} :
    entry.commitEdits (step :: rest) = .ok final ↔
      ∃ applied mid, step.1.applyEdit step.2.1 step.2.2 .commit entry = .ok (applied, mid) ∧
        mid.commitEdits rest = .ok final := by
  simp only [commitEdits, List.foldlM_cons, bind, Except.bind, pure, Except.pure]
  cases step.1.applyEdit step.2.1 step.2.2 .commit entry with
  | error err => simp
  | ok result =>
    obtain ⟨applied, mid⟩ := result
    simp

theorem commitEdits_append {xs ys : List (Question × SlotId × Edit)} :
    entry.commitEdits (xs ++ ys) = .ok final ↔
      ∃ mid, entry.commitEdits xs = .ok mid ∧ mid.commitEdits ys = .ok final := by
  induction xs generalizing entry with
  | nil => simp [commitEdits_nil]
  | cons step rest ih =>
    rw [List.cons_append, commitEdits_cons]
    constructor
    · rintro ⟨applied, mid, first, later⟩
      obtain ⟨mid', rested, final'⟩ := ih.mp later
      exact ⟨mid', commitEdits_cons.mpr ⟨applied, mid, first, rested⟩, final'⟩
    · rintro ⟨mid', started, later⟩
      obtain ⟨applied, mid, first, rested⟩ := commitEdits_cons.mp started
      exact ⟨applied, mid, first, ih.mpr ⟨mid', rested, later⟩⟩

/-- **A sequence of commits, slot by slot**: while every question committed to stays on one side
of its group (an invariant `P` of the answers that each commit keeps), every slot holds what the
last commit writing it wrote, or its old answer. -/
theorem commitEdits_get? {P : AnswerStore → Prop}
    (keeps : ∀ step ∈ steps, ∀ entry applied entry', P entry.answers →
      step.1.applyEdit step.2.1 step.2.2 .commit entry = .ok (applied, entry') → P entry'.answers)
    (sided : ∀ step ∈ steps, step.1.Grouped ∧ ∀ A, P A → step.1.OneSide A)
    (holds : P entry.answers) (ok : entry.commitEdits steps = .ok final) (u : SlotId) :
    final.answers.get? u = writtenAt steps u (entry.answers.get? u) := by
  induction steps generalizing entry with
  | nil =>
    obtain rfl : entry = final := Except.ok.inj ok
    rfl
  | cons step rest ih =>
    obtain ⟨applied, mid, first, later⟩ := commitEdits_cons.mp ok
    obtain ⟨grouped, apart⟩ := sided step List.mem_cons_self
    have midHolds := keeps step List.mem_cons_self entry applied mid holds first
    rw [ih (fun step' member => keeps step' (List.mem_cons_of_mem _ member))
      (fun step' member => sided step' (List.mem_cons_of_mem _ member)) midHolds later,
      Question.applyEdit_commit_get? grouped (apart _ holds) first]
    rfl

/-- A sequence of commits drops drafts or keeps them; it never adds one. -/
theorem commitEdits_lookup (ok : entry.commitEdits steps = .ok final) (u : SlotId) :
    final.drafts.lookup u = entry.drafts.lookup u ∨ final.drafts.lookup u = none := by
  induction steps generalizing entry with
  | nil =>
    obtain rfl : entry = final := Except.ok.inj ok
    exact .inl rfl
  | cons step rest ih =>
    obtain ⟨applied, mid, first, later⟩ := commitEdits_cons.mp ok
    rcases ih later with kept | gone
    · rw [kept]
      exact Question.applyEdit_commit_lookup first u
    · exact .inr gone

/-- A slot without a draft gets none from commits. -/
theorem commitEdits_lookup_of_none (ok : entry.commitEdits steps = .ok final) {u : SlotId}
    (absent : entry.drafts.lookup u = none) : final.drafts.lookup u = none := by
  rcases commitEdits_lookup ok u with kept | gone
  · rw [kept, absent]
  · exact gone

/-- After the commit of a slot other than its question's exclusive one, that slot has no draft. -/
theorem commitEdits_lookup_none (ok : entry.commitEdits steps = .ok final) {u : SlotId}
    (committed : ∃ step ∈ steps, step.2.1 = u ∧ step.1.exclusiveAt u = false) :
    final.drafts.lookup u = none := by
  induction steps generalizing entry with
  | nil => simp at committed
  | cons step rest ih =>
    obtain ⟨applied, mid, first, later⟩ := commitEdits_cons.mp ok
    obtain ⟨step', member, named, other⟩ := committed
    rcases List.mem_cons.mp member with rfl | member
    · subst named
      refine commitEdits_lookup_of_none later ?_
      rw [Question.applyEdit_commit_lookup_of_other first other, if_pos rfl]
    · exact ih later ⟨step', member, named, other⟩

end Entry

end Survey
