import Mathlib
import Survey.Proofs.Exclusive.Sequence
import Survey.Proofs.Exclusive.Runs
import Survey.Proofs.Engine.Typing
import Survey.Proofs.Engine.Completion
import Survey.Proofs.Engine.Frame

/-!
# A submission's edits land

Submitting a block commits, through the enforcer, first the pending drafts of the questions it
shows that the submission does not edit, then the submitted edits of slots other than the
exclusive ones, then those of exclusive slots. `Engine.run_applyEdits_commits` says so as one
sequence of commits (`Entry.commitEdits`), and `Survey.Proofs.Exclusive.Sequence` reads every slot
off such a sequence. What a question shown in the block is left with (`EditsLand`):

* no slot of it keeps a draft;
* an edit that ticks its exclusive slot wins: that slot holds the edit's value and every other
  slot is empty;
* otherwise every edited slot holds its edited value (a cleared slot is empty), another slot
  without an edit holds its pending draft's value if it had one and its answer if not, and the
  exclusive slot is empty once an edit or a committed draft stored an answer in another slot,
  and keeps its answer if none did.

The results:

* `Engine.editsLand_of_commits` — every shown question is left so by the sequence, whatever the
  order of the slots within each phase;
* **`Engine.submission_lands_edits`** — so on a questionnaire that loading accepts and whose
  variants keep their question's groups, along every run from a fresh engine, every submission
  that returns leaves every question its block showed so, rejected or accepted;
* `Engine.variant_exclusive_loses` — without the condition on variants, ticking a slot that a
  variant made exclusive leaves another slot of the question answered.
-/

namespace Survey

namespace Entries

variable {α : Type} {entries : Entries α} {key : String} {value : α}

theorem mem_of_lookup (found : entries.lookup key = some value) : (key, value) ∈ entries := by
  induction entries with
  | nil => simp [lookup] at found
  | cons pair rest ih =>
    obtain ⟨other, v⟩ := pair
    simp only [lookup] at found
    split at found
    · next same =>
      rw [Option.some.injEq] at found
      rw [same, found]
      exact List.mem_cons_self
    · exact List.mem_cons_of_mem _ (ih found)

/-- In a map whose keys are distinct, a pair it holds is the value of its key. -/
theorem lookup_of_mem (distinct : (entries.map (·.1)).Nodup) (member : (key, value) ∈ entries) :
    entries.lookup key = some value := by
  induction entries with
  | nil => simp at member
  | cons pair rest ih =>
    obtain ⟨other, v⟩ := pair
    rw [List.map_cons, List.nodup_cons] at distinct
    simp only [lookup]
    rcases List.mem_cons.mp member with same | later
    · obtain ⟨rfl, rfl⟩ := Prod.mk.inj same
      simp
    · have differ : key ≠ other := fun same => distinct.1 (by
        rw [← same]
        exact List.mem_map.mpr ⟨(key, value), later, rfl⟩)
      rw [if_neg differ]
      exact ih distinct.2 later

end Entries

namespace Question

/-- Two slots of a grouped question with one id are one slot. -/
theorem Grouped.eq_of_id {q : Question} (grouped : q.Grouped) {s t : AnswerSlot}
    (hs : s ∈ q.answers) (ht : t ∈ q.answers) (same : s.id = t.id) : s = t :=
  List.inj_on_of_nodup_map grouped.ids_nodup hs ht same

/-- A grouped question has one exclusive slot at most. -/
theorem Grouped.eq_of_exclusive {q : Question} (grouped : q.Grouped) {x y : AnswerSlot}
    (hx : x ∈ q.answers) (hy : y ∈ q.answers) (ex : x.kind.isExclusive = true)
    (ey : y.kind.isExclusive = true) : x = y :=
  Option.some.inj ((grouped.exclusiveAnswer?_eq hx ex).symm.trans (grouped.exclusiveAnswer?_eq hy ey))

end Question

theorem Edit.eq_set_of_value? {change : Edit} (storing : change.value?.isSome = true) :
    ∃ value, change = .set value := by
  cases change with
  | set value => exact ⟨value, rfl⟩
  | clear => simp at storing

/-! ### What the edits owe a shown question -/

namespace Question

/-- Whether the edits tick the question's exclusive slot. -/
def SetsExclusive (question : Question) (edits : Entries Edit) : Prop :=
  ∃ x ∈ question.answers, x.kind.isExclusive = true ∧ ∃ value, edits.lookup x.id = some (.set value)

/-- Whether an edit, or the pending draft of a slot without an edit, stores an answer in a slot of
the question other than the exclusive one. -/
def SetsOther (question : Question) (edits : Entries Edit) (drafts : Drafts) : Prop :=
  ∃ s ∈ question.answers, s.kind.isExclusive = false ∧ ∃ value,
    edits.lookup s.id = some (.set value) ∨
      (edits.lookup s.id = none ∧ drafts.lookup s.id = some (.set value))

end Question

/-- The answer of a slot once its pending draft, if any, is committed. -/
def Entry.pendingValue (entry : Entry) (slot : SlotId) : Option AnswerValue :=
  match entry.drafts.lookup slot with
  | some change => change.value?
  | none => entry.answers.get? slot

/-- What submitting the edits `edits` owes a question it showed, from the answers and drafts
`before` to `after`. -/
structure EditsLand (question : Question) (edits : Entries Edit) (before after : Entry) : Prop where
  /-- No slot of the question keeps a draft. -/
  undrafted : ∀ slot ∈ question.slotIds, after.drafts.lookup slot = none
  /-- Ticking the exclusive slot wins: it holds the edit's value and every other slot is empty. -/
  exclusive_wins : ∀ x ∈ question.answers, x.kind.isExclusive = true → ∀ value,
    edits.lookup x.id = some (.set value) → after.answers.get? x.id = some value ∧
      ∀ s ∈ question.answers, s.id ≠ x.id → after.answers.get? s.id = none
  /-- Otherwise every edited slot holds its edited value, none once cleared. -/
  edited : ¬ question.SetsExclusive edits → ∀ s ∈ question.answers, ∀ change,
    edits.lookup s.id = some change → after.answers.get? s.id = change.value?
  /-- Another slot without an edit holds its pending draft's value, or its answer. -/
  pending : ¬ question.SetsExclusive edits → ∀ s ∈ question.answers,
    s.kind.isExclusive = false → edits.lookup s.id = none →
      after.answers.get? s.id = before.pendingValue s.id
  /-- The exclusive slot is empty once another slot was given an answer. -/
  exclusive_cleared : ¬ question.SetsExclusive edits → question.SetsOther edits before.drafts →
    ∀ x ∈ question.answers, x.kind.isExclusive = true → after.answers.get? x.id = none
  /-- If not, the exclusive slot without an edit keeps its answer. -/
  exclusive_kept : ¬ question.SetsExclusive edits → ¬ question.SetsOther edits before.drafts →
    ∀ x ∈ question.answers, x.kind.isExclusive = true → edits.lookup x.id = none →
      after.answers.get? x.id = before.answers.get? x.id

/-- What agrees, at the question's slots, with answers and drafts the edits landed on is landed
on too. -/
theorem EditsLand.of_agree {question : Question} {edits : Entries Edit} {before after after' : Entry}
    (land : EditsLand question edits before after)
    (agree : ∀ slot ∈ question.slotIds, after'.answers.get? slot = after.answers.get? slot ∧
      after'.drafts.lookup slot = after.drafts.lookup slot) :
    EditsLand question edits before after' := by
  have answer : ∀ s ∈ question.answers, after'.answers.get? s.id = after.answers.get? s.id :=
    fun s hs => (agree s.id (Question.mem_slotIds hs)).1
  refine ⟨fun slot declared => (agree slot declared).2.trans (land.undrafted slot declared),
    fun x hx exclusive value found => ?_, fun unset s hs change found => ?_,
    fun unset s hs other unedited => ?_, fun unset sets x hx exclusive => ?_,
    fun unset unsetOther x hx exclusive unedited => ?_⟩
  · obtain ⟨wins, others⟩ := land.exclusive_wins x hx exclusive value found
    exact ⟨(answer x hx).trans wins, fun s hs differ => (answer s hs).trans (others s hs differ)⟩
  · exact (answer s hs).trans (land.edited unset s hs change found)
  · exact (answer s hs).trans (land.pending unset s hs other unedited)
  · exact (answer x hx).trans (land.exclusive_cleared unset sets x hx exclusive)
  · exact (answer x hx).trans (land.exclusive_kept unset unsetOther x hx exclusive unedited)

/-- Questions whose groups stay apart: each has distinct slot ids and at most one exclusive slot,
two that share a slot are one question, and `Apart`, a property of the answers that every commit
to any of them keeps, puts each on one side of its group. -/
structure SeparateGroups (questions : List Question) (Apart : AnswerStore → Prop) : Prop where
  grouped : ∀ question ∈ questions, question.Grouped
  eq_of_shared : ∀ question ∈ questions, ∀ other ∈ questions, ∀ slot ∈ question.slotIds,
    slot ∈ other.slotIds → question = other
  oneSide : ∀ A, Apart A → ∀ question ∈ questions, question.OneSide A
  keeps : ∀ question ∈ questions, ∀ slot change entry applied entry', Apart entry.answers →
    question.applyEdit slot change .commit entry = .ok (applied, entry') → Apart entry'.answers

namespace Engine

/-! ### A submission's edits as one sequence of commits -/

/-- The order a submission commits its placed edits in: those of slots other than the exclusive
one first, then those of exclusive slots. -/
def commitOrder (placed : List (Question × SlotId × Edit)) : List (Question × SlotId × Edit) :=
  placed.filter (fun p => !p.1.exclusiveAt p.2.1) ++ placed.filter (fun p => p.1.exclusiveAt p.2.1)

theorem mem_commitOrder {placed : List (Question × SlotId × Edit)} {p : Question × SlotId × Edit}
    (member : p ∈ placed) : p ∈ commitOrder placed := by
  cases exclusive : p.1.exclusiveAt p.2.1
  · exact List.mem_append_left _ (List.mem_filter.mpr ⟨member, by simp [exclusive]⟩)
  · exact List.mem_append_right _ (List.mem_filter.mpr ⟨member, exclusive⟩)

/-- The pending drafts a submission with edits `edits` commits, from the drafts `drafts` of the
questions `questions` it shows: drafts of slots other than the exclusive ones that the submission
does not edit, each committed as it was, and every such draft among them. -/
structure PendingCommits (edits : Entries Edit) (questions : List Question) (drafts : Drafts)
    (steps : List (Question × SlotId × Edit)) : Prop where
  mem : ∀ step ∈ steps, step.1 ∈ questions ∧ step.2.1 ∈ step.1.slotIds
  unedited : ∀ step ∈ steps, edits.lookup step.2.1 = none
  drafted : ∀ step ∈ steps, drafts.lookup step.2.1 = some step.2.2
  other : ∀ step ∈ steps, step.1.exclusiveAt step.2.1 = false
  covers : ∀ question ∈ questions, ∀ slot ∈ question.slotIds, edits.lookup slot = none →
    drafts.lookup slot ≠ none → ∃ step ∈ steps, step.2.1 = slot

/-- The edits `edits`, each placed in the first of the questions `questions` that holds its slot. -/
structure Placed (questions : List Question) (edits : Entries Edit)
    (placed : List (Question × SlotId × Edit)) : Prop where
  edits_eq : placed.map Prod.snd = edits
  owner : ∀ p ∈ placed, owningQuestion questions p.2.1 = some p.1

theorem run_mapM_forall₂ {X Y : Type} (R : X → Y → Prop) (f : X → EngineM Y) (xs : List X)
    (step : ∀ x ∈ xs, ∀ e y e', Engine.run e (f x) = (.ok y, e') → e' = e ∧ R x y)
    {e e' : Engine} {ys : List Y} (ran : Engine.run e (xs.mapM f) = (.ok ys, e')) :
    e' = e ∧ List.Forall₂ R xs ys := by
  induction xs generalizing e ys with
  | nil =>
    simp only [List.mapM_nil, run_pure, Prod.mk.injEq, Except.ok.injEq] at ran
    obtain ⟨rfl, rfl⟩ := ran
    exact ⟨rfl, .nil⟩
  | cons x rest ih =>
    rw [List.mapM_cons, run_bind_eq_ok] at ran
    obtain ⟨y, e1, first, ran⟩ := ran
    rw [run_bind_eq_ok] at ran
    obtain ⟨others, e2, later, ran⟩ := ran
    simp only [run_pure, Prod.mk.injEq, Except.ok.injEq] at ran
    obtain ⟨rfl, rfl⟩ := ran
    obtain ⟨rfl, holds⟩ := step x List.mem_cons_self e y e1 first
    obtain ⟨rfl, hold⟩ := ih (fun x member => step x (List.mem_cons_of_mem _ member)) later
    exact ⟨rfl, .cons holds hold⟩

theorem placed_of_forall₂ {questions : List Question} {edits : Entries Edit}
    {placed : List (Question × SlotId × Edit)}
    (related : List.Forall₂ (fun (pair : SlotId × Edit) (p : Question × SlotId × Edit) =>
      p.2 = pair ∧ owningQuestion questions pair.1 = some p.1) edits placed) :
    Placed questions edits placed := by
  induction related with
  | nil => exact ⟨rfl, by simp⟩
  | cons head _ ih =>
    obtain ⟨named, owned⟩ := head
    refine ⟨by rw [List.map_cons, named, ih.edits_eq], fun p member => ?_⟩
    rcases List.mem_cons.mp member with rfl | later
    · rw [named]
      exact owned
    · exact ih.owner p later

/-- A fold whose every step commits an edit through the enforcer is a sequence of commits. -/
theorem run_foldlM_commits {f : Entry → Question × SlotId × Edit → EngineM Entry}
    (commits : ∀ acc step e acc' e', Engine.run e (f acc step) = (.ok acc', e') →
      (∃ applied, step.1.applyEdit step.2.1 step.2.2 .commit acc = .ok (applied, acc')) ∧
        LogOnly e e')
    {steps : List (Question × SlotId × Edit)} {entry entry' : Entry} {e e' : Engine}
    (ran : Engine.run e (steps.foldlM f entry) = (.ok entry', e')) :
    entry.commitEdits steps = .ok entry' ∧ LogOnly e e' := by
  induction steps generalizing entry e with
  | nil =>
    simp only [List.foldlM_nil, run_pure, Prod.mk.injEq, Except.ok.injEq] at ran
    obtain ⟨rfl, rfl⟩ := ran
    exact ⟨rfl, LogOnly.refl e⟩
  | cons step rest ih =>
    rw [List.foldlM_cons, run_bind_eq_ok] at ran
    obtain ⟨mid, e1, first, ran⟩ := ran
    obtain ⟨⟨applied, edited⟩, only⟩ := commits entry step e mid e1 first
    obtain ⟨later, only'⟩ := ih ran
    exact ⟨Entry.commitEdits_cons.mpr ⟨applied, mid, edited, later⟩, only.trans only'⟩

/-- A slot with a draft is not the exclusive one of a question whose exclusive slots have none. -/
theorem exclusiveAt_of_drafted {question : Question} {entry : Entry} {slot : SlotId} {change : Edit}
    (undrafted : ∀ x ∈ question.answers, x.kind.isExclusive = true → entry.drafts.lookup x.id = none)
    (drafted : entry.drafts.lookup slot = some change) : question.exclusiveAt slot = false := by
  cases found : question.answer? slot with
  | none => simp [Question.exclusiveAt, found]
  | some target =>
    cases exclusive : target.kind.isExclusive
    · simp [Question.exclusiveAt, found, exclusive]
    · have gone := undrafted target (Question.answer?_mem found) exclusive
      rw [Question.answer?_id found, drafted] at gone
      cases gone

/-- **Committing the pending drafts of one question's slots**, in order: each slot with a draft
commits it as it was, a slot other than the exclusive one (no draft sits on the exclusive slot);
exactly the drafts committed are dropped. -/
theorem run_commitDrafts {e e' : Engine} {question : Question} {slots : List SlotId}
    {entry entry' : Entry}
    (ran : Engine.run e (slots.foldlM (fun entry slot => do
      pure (← commitDraft question slot entry).2) entry) = (.ok entry', e'))
    (undrafted : ∀ x ∈ question.answers, x.kind.isExclusive = true → entry.drafts.lookup x.id = none) :
    ∃ steps, (∀ step ∈ steps, step.1 = question ∧ step.2.1 ∈ slots ∧
        entry.drafts.lookup step.2.1 = some step.2.2 ∧ question.exclusiveAt step.2.1 = false) ∧
      (∀ slot ∈ slots, entry.drafts.lookup slot ≠ none → slot ∈ steps.map (·.2.1)) ∧
      (∀ u, entry'.drafts.lookup u = if u ∈ steps.map (·.2.1) then none else entry.drafts.lookup u) ∧
      entry.commitEdits steps = .ok entry' ∧ LogOnly e e' := by
  induction slots generalizing entry e with
  | nil =>
    simp only [List.foldlM_nil, run_pure, Prod.mk.injEq, Except.ok.injEq] at ran
    obtain ⟨rfl, rfl⟩ := ran
    exact ⟨[], by simp, by simp, by simp, rfl, LogOnly.refl e⟩
  | cons slot rest ih =>
    rw [List.foldlM_cons, run_bind_eq_ok] at ran
    obtain ⟨next, e1, first, ran⟩ := ran
    rw [run_bind_eq_ok] at first
    obtain ⟨⟨applied, mid⟩, e2, committed, first⟩ := first
    simp only [run_pure, Prod.mk.injEq, Except.ok.injEq] at first
    obtain ⟨rfl, rfl⟩ := first
    obtain ⟨committedOk, only⟩ := run_commitDraft_eq committed
    rcases Question.commitDraft_eq_ok committedOk with ⟨absent, -, rfl⟩ | ⟨change, a, drafted, -, edited⟩
    · -- No draft: nothing is committed.
      obtain ⟨steps, props, covers, drafts, commits, only'⟩ := ih ran undrafted
      refine ⟨steps, fun step member => ?_, fun slot' listed present => ?_, drafts, commits,
        only.trans only'⟩
      · obtain ⟨named, held, drafted, other⟩ := props step member
        exact ⟨named, List.mem_cons_of_mem _ held, drafted, other⟩
      · rcases List.mem_cons.mp listed with rfl | later
        · exact absurd absent present
        · exact covers slot' later present
    · -- The draft sits on a slot other than the exclusive one, and only it is dropped.
      have other : question.exclusiveAt slot = false := exclusiveAt_of_drafted undrafted drafted
      have midDrafts := Question.applyEdit_commit_lookup_of_other edited other
      have undrafted' : ∀ x ∈ question.answers, x.kind.isExclusive = true →
          mid.drafts.lookup x.id = none := fun x member exclusive => by
        rw [midDrafts, undrafted x member exclusive]
        simp
      obtain ⟨steps, props, covers, drafts, commits, only'⟩ := ih ran undrafted'
      refine ⟨(question, slot, change) :: steps, fun step member => ?_, fun slot' listed present => ?_,
        fun u => ?_, Entry.commitEdits_cons.mpr ⟨a, mid, edited, commits⟩, only.trans only'⟩
      · rcases List.mem_cons.mp member with rfl | later
        · exact ⟨rfl, List.mem_cons_self, drafted, other⟩
        · obtain ⟨named, held, drafted', other'⟩ := props step later
          rw [midDrafts] at drafted'
          split at drafted'
          · cases drafted'
          · exact ⟨named, List.mem_cons_of_mem _ held, drafted', other'⟩
      · by_cases same : slot' = slot
        · simp [same]
        · rcases List.mem_cons.mp listed with rfl | later
          · exact absurd rfl same
          · have kept : mid.drafts.lookup slot' ≠ none := by rw [midDrafts, if_neg same]; exact present
            exact List.mem_cons_of_mem _ (covers slot' later kept)
      · rw [drafts u, midDrafts u]
        by_cases same : u = slot
        · simp [same]
        · by_cases later : u ∈ steps.map (·.2.1) <;> simp [same, later]

/-- The slots of a question whose drafts a submission commits: those with a draft and without an
edit. -/
theorem mem_pendingSlots {question : Question} {drafts : Drafts} {edits : Entries Edit}
    {slot : SlotId} :
    slot ∈ (question.answers.map (·.id)).filter (fun slot => drafts.contains slot && !edits.contains slot) ↔
      slot ∈ question.slotIds ∧ drafts.lookup slot ≠ none ∧ edits.lookup slot = none := by
  simp only [List.mem_filter, Bool.and_eq_true, Bool.not_eq_eq_eq_not, Bool.not_true,
    Entries.contains, Option.isSome_eq_false_iff, Option.isNone_iff_eq_none,
    Option.isSome_iff_ne_none]
  rfl

/-- **Committing the pending drafts of the questions a submission shows** is a sequence of
commits of those drafts (`PendingCommits`). -/
theorem run_commitPending_commits {e e' : Engine} {edits : Entries Edit} {entry entry' : Entry}
    {questions : List Question}
    (ran : Engine.run e (commitPending edits entry questions) = (.ok entry', e'))
    (undrafted : ∀ question ∈ questions, ∀ x ∈ question.answers, x.kind.isExclusive = true →
      entry.drafts.lookup x.id = none) :
    ∃ steps, PendingCommits edits questions entry.drafts steps ∧
      entry.commitEdits steps = .ok entry' ∧ LogOnly e e' := by
  induction questions generalizing entry e with
  | nil =>
    simp only [commitPending, run_pure, Prod.mk.injEq, Except.ok.injEq] at ran
    obtain ⟨rfl, rfl⟩ := ran
    exact ⟨[], ⟨by simp, by simp, by simp, by simp, by simp⟩, rfl, LogOnly.refl e⟩
  | cons question rest ih =>
    simp only [commitPending] at ran
    rw [run_bind_eq_ok] at ran
    obtain ⟨mid, e1, folded, ran⟩ := ran
    obtain ⟨steps, props, covers, drafts, commits, only⟩ :=
      run_commitDrafts folded (undrafted question List.mem_cons_self)
    have undrafted' : ∀ other ∈ rest, ∀ x ∈ other.answers, x.kind.isExclusive = true →
        mid.drafts.lookup x.id = none := fun other listed x member exclusive => by
      rw [drafts, undrafted other (List.mem_cons_of_mem _ listed) x member exclusive]
      simp
    obtain ⟨steps', pend, commits', only'⟩ := ih ran undrafted'
    -- A slot this question commits is one of its slots with a draft and without an edit.
    have pending : ∀ step ∈ steps, step.2.1 ∈ question.slotIds ∧ edits.lookup step.2.1 = none := by
      intro step member
      have listed := mem_pendingSlots.mp (props step member).2.1
      exact ⟨listed.1, listed.2.2⟩
    -- A draft committed later was there from the start.
    have earlier : ∀ slot change, mid.drafts.lookup slot = some change →
        entry.drafts.lookup slot = some change := fun slot change found => by
      rw [drafts] at found
      split at found
      · cases found
      · exact found
    refine ⟨steps ++ steps', ⟨fun step member => ?_, fun step member => ?_, fun step member => ?_,
      fun step member => ?_, fun other listed slot declared unedited present => ?_⟩,
      Entry.commitEdits_append.mpr ⟨mid, commits, commits'⟩, only.trans only'⟩
    · rcases List.mem_append.mp member with first | second
      · rw [(props step first).1]
        exact ⟨List.mem_cons_self, (pending step first).1⟩
      · exact ⟨List.mem_cons_of_mem _ (pend.mem step second).1, (pend.mem step second).2⟩
    · rcases List.mem_append.mp member with first | second
      · exact (pending step first).2
      · exact pend.unedited step second
    · rcases List.mem_append.mp member with first | second
      · exact (props step first).2.2.1
      · exact earlier _ _ (pend.drafted step second)
    · rcases List.mem_append.mp member with first | second
      · exact (props step first).1 ▸ (props step first).2.2.2
      · exact pend.other step second
    · by_cases committed : slot ∈ steps.map (·.2.1)
      · obtain ⟨step, member, named⟩ := List.mem_map.mp committed
        exact ⟨step, List.mem_append_left _ member, named⟩
      · have kept : mid.drafts.lookup slot ≠ none := by rw [drafts, if_neg committed]; exact present
        rcases List.mem_cons.mp listed with rfl | later
        · -- This question's own slot was pending, so it was committed.
          exact absurd (covers slot (mem_pendingSlots.mpr ⟨declared, present, unedited⟩) present)
            committed
        · obtain ⟨step, member, named⟩ := pend.covers other later slot declared unedited kept
          exact ⟨step, List.mem_append_right _ member, named⟩

/-- **Applying a submission's edits is one sequence of commits**: the pending drafts
(`PendingCommits`), then the placed edits in their commit order. Only events are reported. -/
theorem run_applyEdits_commits {e e' : Engine} {s s' : Session} {b : Block}
    {questions : List Question} {edits : Entries Edit}
    (ran : Engine.run e (applyEdits s b questions edits) = (.ok s', e'))
    (undrafted : ∀ question ∈ questions, ∀ x ∈ question.answers, x.kind.isExclusive = true →
      s.drafts.lookup x.id = none) :
    ∃ pending placed final, PendingCommits edits questions s.drafts pending ∧
      Placed questions edits placed ∧
      Entry.commitEdits ⟨s.answers, s.drafts⟩ (pending ++ commitOrder placed) = .ok final ∧
      s' = Session.withEntry s final ∧ LogOnly e e' := by
  unfold applyEdits at ran
  rw [run_bind_eq_ok] at ran
  obtain ⟨entry, e1, committed, ran⟩ := ran
  rw [run_bind_eq_ok] at ran
  obtain ⟨placed, e2, mapped, ran⟩ := ran
  rw [run_bind_eq_ok] at ran
  obtain ⟨final, e3, folded, ran⟩ := ran
  simp only [run_pure, Prod.mk.injEq, Except.ok.injEq] at ran
  obtain ⟨rfl, rfl⟩ := ran
  obtain ⟨pending, pend, pendingOk, only⟩ := run_commitPending_commits committed undrafted
  -- Every edit is placed in the first shown question holding its slot.
  obtain ⟨rfl, related⟩ := run_mapM_forall₂ (fun (pair : SlotId × Edit) (p : Question × SlotId × Edit) =>
      p.2 = pair ∧ owningQuestion questions pair.1 = some p.1) _ _
    (fun pair _ e y e' placedOk => by
      obtain ⟨slot, change⟩ := pair
      dsimp only at placedOk
      cases found : owningQuestion questions slot with
      | none =>
        simp only [found, run_throw] at placedOk
        simp at placedOk
      | some question =>
        simp only [found, run_pure, Prod.mk.injEq, Except.ok.injEq] at placedOk
        obtain ⟨rfl, rfl⟩ := placedOk
        exact ⟨rfl, rfl, rfl⟩) mapped
  obtain ⟨orderedOk, only'⟩ := run_foldlM_commits (fun acc step e4 acc' e5 stepped => by
      obtain ⟨question, slot, change⟩ := step
      dsimp only at stepped
      rw [run_bind_eq_ok] at stepped
      obtain ⟨⟨applied, entry''⟩, e6, enforced, stepped⟩ := stepped
      simp only [run_pure, Prod.mk.injEq, Except.ok.injEq] at stepped
      obtain ⟨rfl, rfl⟩ := stepped
      obtain ⟨editedOk, only⟩ := run_enforce_ok enforced
      exact ⟨⟨applied, editedOk⟩, only⟩) folded
  exact ⟨pending, placed, final, pend, placed_of_forall₂ related,
    Entry.commitEdits_append.mpr ⟨entry, pendingOk, orderedOk⟩, rfl, only.trans only'⟩

/-! ### Reading the sequence slot by slot -/

section Commits

variable {questions : List Question} {Apart : AnswerStore → Prop} {edits : Entries Edit}
  {entry final : Entry} {pending placed : List (Question × SlotId × Edit)}

namespace Placed

variable (placing : Placed questions edits placed)
include placing

theorem mem {p : Question × SlotId × Edit} (member : p ∈ placed) :
    p.1 ∈ questions ∧ p.2.1 ∈ p.1.slotIds :=
  ⟨owningQuestion_mem (placing.owner p member), mem_slotIds_of_owningQuestion (placing.owner p member)⟩

theorem slots_nodup (distinct : (edits.map (·.1)).Nodup) : (placed.map (·.2.1)).Nodup := by
  have slots : placed.map (·.2.1) = edits.map (·.1) := by
    rw [← placing.edits_eq, List.map_map]
    rfl
  rw [slots]
  exact distinct

theorem lookup (distinct : (edits.map (·.1)).Nodup) {p : Question × SlotId × Edit}
    (member : p ∈ placed) : edits.lookup p.2.1 = some p.2.2 := by
  refine Entries.lookup_of_mem distinct ?_
  rw [← placing.edits_eq]
  exact List.mem_map_of_mem member

/-- The edit of a slot of a shown question is placed in that question. -/
theorem of_lookup (groups : SeparateGroups questions Apart) {question : Question}
    (listed : question ∈ questions) {slot : SlotId} (declared : slot ∈ question.slotIds)
    {change : Edit} (found : edits.lookup slot = some change) : (question, slot, change) ∈ placed := by
  have member : (slot, change) ∈ placed.map Prod.snd := by
    rw [placing.edits_eq]
    exact Entries.mem_of_lookup found
  obtain ⟨⟨owner, slot', change'⟩, placedAs, named⟩ := List.mem_map.mp member
  obtain ⟨rfl, rfl⟩ := Prod.mk.inj named
  obtain ⟨owned, held⟩ := placing.mem placedAs
  obtain rfl := groups.eq_of_shared owner owned question listed slot' held declared
  exact placedAs

end Placed

variable (groups : SeparateGroups questions Apart)
  (pend : PendingCommits edits questions entry.drafts pending)
  (placing : Placed questions edits placed) (distinct : (edits.map (·.1)).Nodup)

include pend placing distinct in
/-- A commit of the sequence is of a slot of a shown question: its pending draft, on a slot other
than the exclusive one and without an edit, or its edit. -/
theorem step_cases {step : Question × SlotId × Edit} (member : step ∈ pending ++ commitOrder placed) :
    step.1 ∈ questions ∧ step.2.1 ∈ step.1.slotIds ∧
      ((edits.lookup step.2.1 = none ∧ entry.drafts.lookup step.2.1 = some step.2.2 ∧
          step.1.exclusiveAt step.2.1 = false) ∨
        edits.lookup step.2.1 = some step.2.2) := by
  rcases List.mem_append.mp member with fromPending | fromOrder
  · exact ⟨(pend.mem step fromPending).1, (pend.mem step fromPending).2,
      .inl ⟨pend.unedited step fromPending, pend.drafted step fromPending, pend.other step fromPending⟩⟩
  · have placedStep : step ∈ placed := by
      rcases List.mem_append.mp fromOrder with first | second
      · exact List.mem_of_mem_filter first
      · exact List.mem_of_mem_filter second
    exact ⟨(placing.mem placedStep).1, (placing.mem placedStep).2,
      .inr (placing.lookup distinct placedStep)⟩

include groups pend placing distinct in
/-- **Who writes a slot of a shown question**: a commit to that question, either of the slot
itself, writing the change's value, or storing an answer across the group from it, writing none;
its change is the pending draft of a slot other than the exclusive one, or the slot's edit. -/
theorem writer_cases {question : Question} (listed : question ∈ questions) {s : AnswerSlot}
    (hs : s ∈ question.answers) {step : Question × SlotId × Edit}
    (member : step ∈ pending ++ commitOrder placed) {w : Option AnswerValue}
    (writes : step.1.commitWrite step.2.1 step.2.2 s.id = some w) :
    step.1 = question ∧ ∃ s' ∈ question.answers, step.2.1 = s'.id ∧
      ((s'.id = s.id ∧ w = step.2.2.value?) ∨
        (s'.id ≠ s.id ∧ step.2.2.value?.isSome = true ∧
          s'.kind.isExclusive ≠ s.kind.isExclusive ∧ w = none)) ∧
      ((edits.lookup s'.id = none ∧ entry.drafts.lookup s'.id = some step.2.2 ∧
          s'.kind.isExclusive = false) ∨
        edits.lookup s'.id = some step.2.2) := by
  obtain ⟨owned, held, origin⟩ := step_cases pend placing distinct member
  have same : step.1 = question := groups.eq_of_shared _ owned question listed s.id
    (Question.mem_slotIds_of_commitWrite held (Option.isSome_iff_exists.mpr ⟨w, writes⟩))
    (Question.mem_slotIds hs)
  obtain ⟨P, t, c⟩ := step
  dsimp only at same held origin writes ⊢
  subst same
  obtain ⟨s', hs', rfl⟩ := List.mem_map.mp held
  have grouped := groups.grouped P listed
  refine ⟨rfl, s', hs', rfl, ?_, ?_⟩
  · rcases Question.commitWrite_eq_some.mp writes with ⟨same, rfl⟩ | ⟨other, storing, sides, rfl⟩
    · exact .inl ⟨same.symm, rfl⟩
    · rw [grouped.opposite_of_mem hs' hs] at sides
      exact .inr ⟨Ne.symm other, storing, by simpa using sides, rfl⟩
  · rcases origin with ⟨unedited, drafted, other⟩ | edited
    · exact .inl ⟨unedited, drafted, by rw [← grouped.exclusiveAt_of_mem hs']; exact other⟩
    · exact .inr edited

include groups pend in
/-- The pending draft of a slot without an edit is committed. -/
theorem pending_mem {question : Question} (listed : question ∈ questions) {s : AnswerSlot}
    (hs : s ∈ question.answers) (unedited : edits.lookup s.id = none) {change : Edit}
    (drafted : entry.drafts.lookup s.id = some change) : (question, s.id, change) ∈ pending := by
  obtain ⟨⟨P, t, c⟩, member, named⟩ :=
    pend.covers question listed s.id (Question.mem_slotIds hs) unedited (by simp [drafted])
  dsimp only at named
  subst named
  obtain ⟨owned, held⟩ := pend.mem _ member
  obtain rfl := groups.eq_of_shared P owned question listed _ held (Question.mem_slotIds hs)
  have same := pend.drafted _ member
  rw [drafted, Option.some.injEq] at same
  rw [same]
  exact member

include groups placing in
/-- The edit of a slot of a shown question is committed. -/
theorem edit_mem {question : Question} (listed : question ∈ questions) {s : AnswerSlot}
    (hs : s ∈ question.answers) {change : Edit} (found : edits.lookup s.id = some change) :
    (question, s.id, change) ∈ pending ++ commitOrder placed :=
  List.mem_append_right _ (mem_commitOrder (placing.of_lookup groups listed (Question.mem_slotIds hs) found))

/-- A commit of the exclusive slot is its edit: no draft sits there. -/
theorem edited_of_exclusive {s : AnswerSlot} (exclusive : s.kind.isExclusive = true) {change : Edit}
    (origin : (edits.lookup s.id = none ∧ entry.drafts.lookup s.id = some change ∧
        s.kind.isExclusive = false) ∨ edits.lookup s.id = some change) :
    edits.lookup s.id = some change := by
  rcases origin with ⟨-, -, other⟩ | edited
  · rw [exclusive] at other
    cases other
  · exact edited

/-- A commit storing an answer in the exclusive slot is the edit ticking it. -/
theorem setsExclusive_of_storing {question : Question} {s : AnswerSlot} (hs : s ∈ question.answers)
    (exclusive : s.kind.isExclusive = true) {change : Edit} (storing : change.value?.isSome = true)
    (origin : (edits.lookup s.id = none ∧ entry.drafts.lookup s.id = some change ∧
        s.kind.isExclusive = false) ∨ edits.lookup s.id = some change) :
    question.SetsExclusive edits := by
  obtain ⟨v, rfl⟩ := Edit.eq_set_of_value? storing
  exact ⟨s, hs, exclusive, v, edited_of_exclusive exclusive origin⟩

/-- A commit storing an answer in another slot is its edit or its pending draft. -/
theorem setsOther_of_storing {question : Question} {s : AnswerSlot} (hs : s ∈ question.answers)
    (other : s.kind.isExclusive = false) {change : Edit} (storing : change.value?.isSome = true)
    (origin : (edits.lookup s.id = none ∧ entry.drafts.lookup s.id = some change ∧
        s.kind.isExclusive = false) ∨ edits.lookup s.id = some change) :
    question.SetsOther edits entry.drafts := by
  obtain ⟨v, rfl⟩ := Edit.eq_set_of_value? storing
  rcases origin with ⟨unedited, drafted, -⟩ | edited
  · exact ⟨s, hs, other, v, .inr ⟨unedited, drafted⟩⟩
  · exact ⟨s, hs, other, v, .inl edited⟩

variable (apart : Apart entry.answers) (ok : entry.commitEdits (pending ++ commitOrder placed) = .ok final)

include groups pend placing distinct apart ok in
theorem commits_get? (u : SlotId) :
    final.answers.get? u = writtenAt (pending ++ commitOrder placed) u (entry.answers.get? u) :=
  Entry.commitEdits_get?
    (fun step member _ _ _ held edited =>
      groups.keeps step.1 (step_cases pend placing distinct member).1 _ _ _ _ _ held edited)
    (fun step member => ⟨groups.grouped step.1 (step_cases pend placing distinct member).1,
      fun A held => groups.oneSide A held step.1 (step_cases pend placing distinct member).1⟩)
    apart ok u

include groups pend placing ok in
/-- No slot of a shown question keeps a draft: another slot's draft goes with its edit or is
committed, and none sits on the exclusive slot. -/
theorem commits_undrafted
    (undrafted : ∀ question ∈ questions, ∀ x ∈ question.answers, x.kind.isExclusive = true →
      entry.drafts.lookup x.id = none)
    {question : Question} (listed : question ∈ questions) :
    ∀ slot ∈ question.slotIds, final.drafts.lookup slot = none := by
  intro slot declared
  obtain ⟨s, hs, rfl⟩ := List.mem_map.mp declared
  have grouped := groups.grouped question listed
  cases exclusive : s.kind.isExclusive
  · have other : question.exclusiveAt s.id = false := by rw [grouped.exclusiveAt_of_mem hs, exclusive]
    cases found : edits.lookup s.id with
    | some change =>
      exact Entry.commitEdits_lookup_none ok ⟨_, edit_mem groups placing listed hs found, rfl, other⟩
    | none =>
      cases drafted : entry.drafts.lookup s.id with
      | none => exact Entry.commitEdits_lookup_of_none ok drafted
      | some change =>
        exact Entry.commitEdits_lookup_none ok
          ⟨_, List.mem_append_left _ (pending_mem groups pend listed hs found drafted), rfl, other⟩
  · exact Entry.commitEdits_lookup_of_none ok (undrafted question listed s hs exclusive)

include groups pend placing distinct apart ok in
/-- **Ticking the exclusive slot wins**: its edit is committed last among the question's, and
empties every other slot. -/
theorem commits_exclusive_wins {question : Question} (listed : question ∈ questions)
    {x : AnswerSlot} (hx : x ∈ question.answers) (exclusive : x.kind.isExclusive = true)
    {value : AnswerValue} (found : edits.lookup x.id = some (.set value)) :
    final.answers.get? x.id = some value ∧
      ∀ s ∈ question.answers, s.id ≠ x.id → final.answers.get? s.id = none := by
  have grouped := groups.grouped question listed
  have edit : (question, x.id, Edit.set value) ∈ placed.filter (fun p => p.1.exclusiveAt p.2.1) :=
    List.mem_filter.mpr ⟨placing.of_lookup groups listed (Question.mem_slotIds hx) found,
      by simp [grouped.exclusiveAt_of_mem hx, exclusive]⟩
  obtain ⟨pre, post, split⟩ := List.append_of_mem edit
  -- After it, no commit writes a slot of the question: that would be an exclusive edit of the
  -- question, so an edit of `x` again, and the edits' slots are distinct.
  have fresh : x.id ∉ post.map (·.2.1) := by
    have nodup : ((placed.filter fun p => p.1.exclusiveAt p.2.1).map
        fun p : Question × SlotId × Edit => p.2.1).Nodup :=
      (placing.slots_nodup distinct).sublist (List.filter_sublist.map _)
    rw [split, List.map_append, List.map_cons] at nodup
    exact (List.nodup_cons.mp (List.nodup_append.mp nodup).2.1).1
  have untouched : ∀ s ∈ question.answers, ∀ step ∈ post,
      step.1.commitWrite step.2.1 step.2.2 s.id = none := by
    intro s hs step later
    have exclusiveStep : step ∈ placed.filter (fun p => p.1.exclusiveAt p.2.1) := by
      rw [split]
      exact List.mem_append_right _ (List.mem_cons_of_mem _ later)
    rw [← Option.not_isSome_iff_eq_none]
    intro writes
    obtain ⟨w, written⟩ := Option.isSome_iff_exists.mp writes
    obtain ⟨same, s', hs', slotEq, -⟩ := writer_cases groups pend placing distinct listed hs
      (List.mem_append_right _ (List.mem_append_right _ exclusiveStep)) written
    have exclusive' : s'.kind.isExclusive = true := by
      have marked := (List.mem_filter.mp exclusiveStep).2
      rwa [same, slotEq, grouped.exclusiveAt_of_mem hs'] at marked
    obtain rfl := grouped.eq_of_exclusive hs' hx exclusive' exclusive
    exact fresh (slotEq ▸ List.mem_map_of_mem later)
  have finalAt : ∀ s ∈ question.answers, final.answers.get? s.id =
      (question.commitWrite x.id (.set value) s.id).getD
        (writtenAt (pending ++ placed.filter (fun p => !p.1.exclusiveAt p.2.1) ++ pre) s.id
          (entry.answers.get? s.id)) := by
    intro s hs
    rw [commits_get? groups pend placing distinct apart ok, commitOrder, split,
      ← List.append_assoc, ← List.append_assoc, writtenAt_append, writtenAt_cons,
      writtenAt_of_untouched (untouched s hs)]
  refine ⟨by simp [finalAt x hx, Question.commitWrite], fun s hs differ => ?_⟩
  have other : s.kind.isExclusive = false := by
    cases sides : s.kind.isExclusive
    · rfl
    · exact absurd (congrArg AnswerSlot.id (grouped.eq_of_exclusive hs hx sides exclusive)) differ
  have across : question.opposite x.id s.id = true := by
    simp [grouped.opposite_of_mem hx hs, exclusive, other]
  simp [finalAt s hs, Question.commitWrite, differ, across]

include groups pend placing distinct apart ok in
/-- Unless the exclusive slot is ticked, every edited slot holds its edited value: only its
edit writes it, or, for the exclusive slot, only clears do. -/
theorem commits_edited {question : Question} (listed : question ∈ questions)
    (unset : ¬ question.SetsExclusive edits) {s : AnswerSlot} (hs : s ∈ question.answers)
    {change : Edit} (found : edits.lookup s.id = some change) :
    final.answers.get? s.id = change.value? := by
  rw [commits_get? groups pend placing distinct apart ok]
  refine writtenAt_of_written ⟨_, edit_mem groups placing listed hs found,
    by simp [Question.commitWrite]⟩ (fun step member w writes => ?_) _
  obtain ⟨-, s', hs', -, write, origin⟩ :=
    writer_cases groups pend placing distinct listed hs member writes
  rcases write with ⟨same, rfl⟩ | ⟨-, storing, sides, rfl⟩
  · -- A commit of `s` itself commits its edit.
    rcases origin with ⟨unedited, -⟩ | edited
    · rw [same, found] at unedited
      cases unedited
    · rw [same, found] at edited
      rw [Option.some.inj edited]
  · -- A commit storing an answer across the group: `s` is the exclusive slot, and its edit clears.
    cases sExclusive : s.kind.isExclusive
    · have exclusive : s'.kind.isExclusive = true := by simpa [sExclusive] using sides
      exact absurd (setsExclusive_of_storing hs' exclusive storing origin) unset
    · cases change with
      | set v => exact absurd ⟨s, hs, sExclusive, v, found⟩ unset
      | clear => rfl

include groups pend placing distinct apart ok in
/-- Unless the exclusive slot is ticked, another slot without an edit holds its pending draft's
value, or its answer: only its pending draft writes it. -/
theorem commits_pending {question : Question} (listed : question ∈ questions)
    (unset : ¬ question.SetsExclusive edits) {s : AnswerSlot} (hs : s ∈ question.answers)
    (other : s.kind.isExclusive = false) (unedited : edits.lookup s.id = none) :
    final.answers.get? s.id = entry.pendingValue s.id := by
  rw [commits_get? groups pend placing distinct apart ok]
  have drafts : ∀ step ∈ pending ++ commitOrder placed, ∀ w,
      step.1.commitWrite step.2.1 step.2.2 s.id = some w →
        entry.drafts.lookup s.id = some step.2.2 ∧ w = step.2.2.value? := by
    intro step member w writes
    obtain ⟨-, s', hs', -, write, origin⟩ :=
      writer_cases groups pend placing distinct listed hs member writes
    rcases write with ⟨same, rfl⟩ | ⟨-, storing, sides, -⟩
    · rcases origin with ⟨-, drafted, -⟩ | edited
      · rw [same] at drafted
        exact ⟨drafted, rfl⟩
      · rw [same, unedited] at edited
        cases edited
    · -- Only the exclusive slot sits across from `s`, and nothing stores an answer in it.
      have exclusive : s'.kind.isExclusive = true := by simpa [other] using sides
      exact absurd (setsExclusive_of_storing hs' exclusive storing origin) unset
  unfold Entry.pendingValue
  cases drafted : entry.drafts.lookup s.id with
  | none =>
    refine writtenAt_of_untouched (fun step member => ?_) _
    rw [← Option.not_isSome_iff_eq_none]
    intro writes
    obtain ⟨w, written⟩ := Option.isSome_iff_exists.mp writes
    have present := (drafts step member w written).1
    rw [drafted] at present
    cases present
  | some change =>
    refine writtenAt_of_written ⟨_, List.mem_append_left _
      (pending_mem groups pend listed hs unedited drafted), by simp [Question.commitWrite]⟩
      (fun step member w writes => ?_) _
    obtain ⟨present, rfl⟩ := drafts step member w writes
    rw [drafted, Option.some.injEq] at present
    rw [present]

include groups pend placing distinct apart ok in
/-- Unless the exclusive slot is ticked, it is empty once an edit or a committed draft stored an
answer in another slot: that commit empties it, and every commit of it clears. -/
theorem commits_exclusive_cleared {question : Question} (listed : question ∈ questions)
    (unset : ¬ question.SetsExclusive edits) (sets : question.SetsOther edits entry.drafts)
    {x : AnswerSlot} (hx : x ∈ question.answers) (exclusive : x.kind.isExclusive = true) :
    final.answers.get? x.id = none := by
  have grouped := groups.grouped question listed
  obtain ⟨s, hs, other, v, stored⟩ := sets
  have differ : x.id ≠ s.id := grouped.id_ne hx hs (by simp [exclusive, other])
  have across : question.opposite s.id x.id = true := by
    simp [grouped.opposite_of_mem hs hx, exclusive, other]
  have storing : (question, s.id, Edit.set v) ∈ pending ++ commitOrder placed := by
    rcases stored with edited | ⟨unedited, drafted⟩
    · exact edit_mem groups placing listed hs edited
    · exact List.mem_append_left _ (pending_mem groups pend listed hs unedited drafted)
  rw [commits_get? groups pend placing distinct apart ok]
  refine writtenAt_of_written ⟨_, storing, by simp [Question.commitWrite, differ, across]⟩
    (fun step member w writes => ?_) _
  obtain ⟨-, s', hs', -, write, origin⟩ :=
    writer_cases groups pend placing distinct listed hx member writes
  rcases write with ⟨same, rfl⟩ | ⟨-, -, -, rfl⟩
  · obtain rfl := grouped.eq_of_id hs' hx same
    have edited := edited_of_exclusive exclusive origin
    cases change : step.2.2 with
    | set v' =>
      rw [change] at edited
      exact absurd ⟨s', hs', exclusive, v', edited⟩ unset
    | clear => rfl
  · rfl

include groups pend placing distinct apart ok in
/-- Unless an answer was stored on either side, the exclusive slot without an edit keeps its
answer: no commit writes it. -/
theorem commits_exclusive_kept {question : Question} (listed : question ∈ questions)
    (unsetOther : ¬ question.SetsOther edits entry.drafts)
    {x : AnswerSlot} (hx : x ∈ question.answers) (exclusive : x.kind.isExclusive = true)
    (unedited : edits.lookup x.id = none) :
    final.answers.get? x.id = entry.answers.get? x.id := by
  have grouped := groups.grouped question listed
  rw [commits_get? groups pend placing distinct apart ok]
  refine writtenAt_of_untouched (fun step member => ?_) _
  rw [← Option.not_isSome_iff_eq_none]
  intro writes
  obtain ⟨w, written⟩ := Option.isSome_iff_exists.mp writes
  obtain ⟨-, s', hs', -, write, origin⟩ :=
    writer_cases groups pend placing distinct listed hx member written
  rcases write with ⟨same, -⟩ | ⟨-, storing, sides, -⟩
  · -- `x` has no edit, and no draft to commit.
    obtain rfl := grouped.eq_of_id hs' hx same
    have edited := edited_of_exclusive exclusive origin
    rw [unedited] at edited
    cases edited
  · -- A commit storing an answer in another slot is its edit or its pending draft.
    have other : s'.kind.isExclusive = false := by simpa [exclusive] using sides
    exact unsetOther (setsOther_of_storing hs' other storing origin)

include groups pend placing distinct apart ok in
/-- **The edits land on every shown question**, whatever the order of the slots within each
phase of the sequence. -/
theorem editsLand_of_commits
    (undrafted : ∀ question ∈ questions, ∀ x ∈ question.answers, x.kind.isExclusive = true →
      entry.drafts.lookup x.id = none) :
    ∀ question ∈ questions, EditsLand question edits entry final := fun _ listed =>
  ⟨commits_undrafted groups pend placing ok undrafted listed,
    fun _ hx exclusive _ found =>
      commits_exclusive_wins groups pend placing distinct apart ok listed hx exclusive found,
    fun unset _ hs _ found => commits_edited groups pend placing distinct apart ok listed unset hs found,
    fun unset _ hs other unedited =>
      commits_pending groups pend placing distinct apart ok listed unset hs other unedited,
    fun unset sets _ hx exclusive =>
      commits_exclusive_cleared groups pend placing distinct apart ok listed unset sets hx exclusive,
    fun _ unsetOther _ hx exclusive unedited =>
      commits_exclusive_kept groups pend placing distinct apart ok listed unsetOther hx exclusive
        unedited⟩

end Commits

end Engine

/-! ### Along runs -/

namespace Questionnaire

/-- No question of the questionnaire keeps a draft on its exclusive slot. -/
def ExclusiveUndrafted (q : Questionnaire) (entry : Entry) : Prop :=
  ∀ b ∈ q.blocks, ∀ question ∈ b.questions, ∀ x ∈ question.answers, x.kind.isExclusive = true →
    entry.drafts.lookup x.id = none

section Shown

variable {q : Questionnaire} (keeps : q.VariantsKeepGroups)
include keeps

/-- A slot of a question a block shows is, by id and side, a slot of one of the block's own
questions. -/
theorem slot_of_shown {b : Block} (member : b ∈ q.blocks) {view : Lookup} {shown : Question}
    (listed : shown ∈ b.questionsFor view) {target : AnswerSlot} (hosted : target ∈ shown.answers) :
    ∃ own ∈ b.questions, ∃ t ∈ own.answers, t.id = target.id ∧
      t.kind.isExclusive = target.kind.isExclusive := by
  obtain ⟨own, asked, profile⟩ := shown_profile keeps member listed
  have inProfile : (target.id, target.kind.isExclusive) ∈ own.profile := by
    rw [← profile, Question.profile]
    exact List.mem_map.mpr ⟨target, hosted, rfl⟩
  obtain ⟨t, ht, same⟩ := List.mem_map.mp inProfile
  obtain ⟨ids, sides⟩ := Prod.mk.inj same
  exact ⟨own, asked, t, ht, ids, sides⟩

/-- The shown questions keep no draft on their exclusive slots where the block's own don't. -/
theorem ExclusiveUndrafted.shown {entry : Entry} (undrafted : q.ExclusiveUndrafted entry)
    {b : Block} (member : b ∈ q.blocks) (view : Lookup) :
    ∀ shown ∈ b.questionsFor view, ∀ x ∈ shown.answers, x.kind.isExclusive = true →
      entry.drafts.lookup x.id = none := by
  intro shown listed x hx exclusive
  obtain ⟨own, asked, t, ht, ids, sides⟩ := slot_of_shown keeps member listed hx
  rw [← ids]
  exact undrafted b member own asked t ht (sides.trans exclusive)

variable (checks : q.QuestionsChecked)
include checks

/-- **A slot of a shown question is on the same side in every question holding its id**: its
question is a variant of the one question that has the id, which declares it once. -/
theorem exclusive_eq_of_shown {b : Block} (member : b ∈ q.blocks) {view : Lookup}
    {shown : Question} (listed : shown ∈ b.questionsFor view) {target : AnswerSlot}
    (hosted : target ∈ shown.answers) {b' : Block} (member' : b' ∈ q.blocks) {question : Question}
    (asked' : question ∈ b'.questions) {x : AnswerSlot} (hx : x ∈ question.answers)
    (sameId : x.id = target.id) : x.kind.isExclusive = target.kind.isExclusive := by
  obtain ⟨own, asked, t, ht, ids, sides⟩ := slot_of_shown keeps member listed hosted
  have sameQuestion : own = question := checks.apart b member b' member' own asked question asked'
    x.id (by rw [sameId, ← ids]; exact Question.mem_slotIds ht) (Question.mem_slotIds hx)
  subst sameQuestion
  rw [← (checks.grouped b member own asked).eq_of_id ht hx (ids.trans sameId.symm), sides]

/-- The questions a block shows keep their groups apart while every group of the questionnaire
is on one side. -/
theorem separateGroups_shown {b : Block} (member : b ∈ q.blocks) (view : Lookup) :
    SeparateGroups (b.questionsFor view) q.GroupsApart := by
  refine ⟨fun shown listed => ?_, fun shown listed other listed' slot held held' => ?_,
    fun A apart shown listed => ?_,
    fun shown listed _ _ _ _ _ apart edited => (apart.applyEdit checks keeps member listed edited).1⟩
  · obtain ⟨own, asked, profile⟩ := shown_profile keeps member listed
    exact (checks.grouped b member own asked).of_profile profile
  · -- Two shown questions sharing a slot show the one question holding it.
    obtain ⟨own, asked, rfl⟩ := List.mem_map.mp listed
    obtain ⟨own', asked', rfl⟩ := List.mem_map.mp listed'
    rw [Question.slotIds_eq_of_profile (shownQuestion_profile keeps member asked view)] at held
    rw [Question.slotIds_eq_of_profile (shownQuestion_profile keeps member asked' view)] at held'
    rw [checks.apart b member b member own asked own' asked' slot held held']
  · obtain ⟨own, asked, profile⟩ := shown_profile keeps member listed
    exact (Question.oneSide_iff_of_profile profile A).mpr (apart b member own asked)

/-- **Keeping every group on one side and no draft on an exclusive slot is an invariant of answers
and drafts**: an edit keeps a draft only on a slot that is not exclusive in any question. -/
theorem landing_invariant :
    Engine.EntryInvariant q fun entry => q.GroupsApart entry.answers ∧ q.ExclusiveUndrafted entry := by
  refine ⟨⟨q.groupsApart_empty, fun _ _ _ _ _ _ _ => rfl⟩,
    fun _ held => ⟨held.1, fun _ _ _ _ _ _ _ => rfl⟩, ?_, ?_⟩
  · intro b member view shown listed _ _ _ entry _ entry' edited ⟨apart, undrafted⟩
    refine ⟨(apart.applyEdit checks keeps member listed edited).1,
      fun b' member' question asked' x hx exclusive => ?_⟩
    obtain ⟨target, found, writes⟩ := Question.applyEdit_writesChecked edited
    rcases writes.draft x.id with kept | gone | ⟨_, -, own, other, -⟩
    · rw [kept]
      exact undrafted b' member' question asked' x hx exclusive
    · exact gone
    · -- A new draft sits on the edited slot, which no question makes exclusive.
      have sides := exclusive_eq_of_shown keeps checks member listed (Question.answer?_mem found)
        member' asked' hx own
      rw [exclusive, other] at sides
      cases sides
  · intro entry slot ⟨apart, undrafted⟩
    refine ⟨apart.of_subset fun _ held => AnswerStore.contains_of_contains_clear held,
      fun b member question asked x hx exclusive => ?_⟩
    simp only [Entries.lookup_erase]
    split
    · rfl
    · exact undrafted b member question asked x hx exclusive

end Shown

/-- Wiping the blocks a route skips keeps the drafts of every block on it. -/
theorem Checked.wipeAll_lookup_of_onPath {q : Questionnaire} (checked : q.Checked)
    (config : EngineConfig) (path : RoutingPath) (s : Session) {b : Block} (member : b ∈ q.blocks)
    (listed : path.contains b.id = true) {slot : SlotId} (declared : slot ∈ b.slotIds) :
    (q.blocks.foldl (fun s w => if Engine.wipes config path w then Engine.wipeBlock s w else s)
      s).drafts.lookup slot = s.drafts.lookup slot := by
  exact (Engine.wipeAll_frame q config path s q.blocks fun _ inside => inside).entry.draft slot
    (Engine.not_wiped_of_onlyOnPath (checked.onlyOnPath_of_mem member listed declared))

end Questionnaire

namespace Engine

/-- **A submission's edits land.** On a questionnaire that loading accepts and whose variants keep
their question's groups, with any settings and a store holding nothing yet, along every run from
a fresh engine: a submission of a block that returns, accepted or rejected, found the block on the
route of the live session, and leaves every question the block showed as its edits owe it
(`EditsLand`), whatever the order of their slots, given that they edit each slot once. -/
theorem submission_lands_edits {d : QuestionnaireDefinition} {q : Questionnaire}
    (accepted : Questionnaire.ofDefinition d = .ok q) (keeps : q.VariantsKeepGroups)
    (config : EngineConfig) {store : SnapshotStore} (fresh : store.snapshots = [])
    {e : Engine} (reached : Reachable (create q config store) e) {id : SessionId}
    {block : BlockId} {edits : Entries Edit} (distinct : (edits.map (·.1)).Nodup)
    {result : Submission} {e' : Engine}
    (ran : Engine.run e (submitBlock id block edits) = (.ok result, e')) :
    ∃ live final b, Engine.run e (session id) = (.ok live, e) ∧
      Engine.run e' (session id) = (.ok final, e') ∧ q.block? block = some b ∧
      (q.routingPath live.answers).contains block = true ∧
      ∀ question ∈ shownQuestions q b live,
        EditsLand question edits ⟨live.answers, live.drafts⟩ ⟨final.answers, final.drafts⟩ := by
  have checks := questionsChecked_of_ofDefinition accepted
  have checked := checked_of_ofDefinition accepted
  have holds := Reachable.sound (Questionnaire.landing_invariant keeps checks) reached rfl
    (holds_create fresh)
  have served : e.questionnaire = q := reached.serves.1
  obtain ⟨live, b, edited, found, defined, onPath, ⟨e1, e2, -, applied⟩, outcome⟩ :=
    run_submitBlock_cases ran
  rw [served] at defined onPath applied outcome
  obtain ⟨member, named⟩ := checked.block?_spec defined
  obtain ⟨key, isLive⟩ := Holds.live_mem found
  obtain ⟨-, apart, undrafted⟩ := holds.live _ isLive
  have shownUndrafted := undrafted.shown keeps member (q.onPath live.answers (q.routingPath live.answers))
  -- The edits land on the answers and drafts the sequence of commits leaves.
  obtain ⟨pending, placed, entry, pend, placing, ok, rfl, -⟩ :=
    run_applyEdits_commits applied shownUndrafted
  have land := editsLand_of_commits (Questionnaire.separateGroups_shown keeps checks member _) pend
    placing distinct apart ok shownUndrafted
  -- The edits changed slots of the block only, so it stays on the route and wiping spares it.
  have kept : (q.routingPath entry.answers).contains b.id = true := by
    refine checked.contains_of_sameOutside member
      ((run_applyEdits_ok applied).1.mono (Block.questionsFor_slotIds b _)) ?_
    rw [named]
    exact onPath
  rcases outcome with ⟨-, -, e3, -, put⟩ | ⟨-, -, store', e3, e4, -, -, put, only⟩
  · exact ⟨live, _, b, found, run_session_of_put put, defined, onPath,
      fun question listed => (land question listed).of_agree fun _ _ => ⟨rfl, rfl⟩⟩
  · refine ⟨live, _, b, found, only.run_session (run_session_of_put put), defined, onPath,
      fun question listed => (land question listed).of_agree fun slot declared => ?_⟩
    have inBlock : slot ∈ b.slotIds :=
      Block.questionsFor_slotIds b _ (List.mem_flatMap.mpr ⟨question, listed, declared⟩)
    exact ⟨checked.wipeAll_get?_of_onPath _ _ _ member kept inBlock,
      checked.wipeAll_lookup_of_onPath _ _ _ member kept inBlock⟩

/-- The bundled mutually exclusive questionnaire once a session is started. -/
def exclusiveStarted : Engine := Operation.start.apply exclusiveEngine

/-- A number and a tick of "I prefer not to say" for it, in one submission. -/
def numberAndNone : Entries Edit :=
  [("number-answer", .set (.number ⟨5, 0⟩)),
    ("number-exclusive-answer", .set (.choices [Catalog.preferNotToSay]))]

/-- The engine after submitting both. -/
def exclusiveSubmitted : Engine :=
  (Engine.run exclusiveStarted (submitBlock ⟨0⟩ "mutually-exclusive-number" numberAndNone)).2

theorem submission_lands_edits_bundled :
    Questionnaire.ofDefinition Catalog.mutuallyExclusive =
        .ok (Catalog.mutuallyExclusive.checked []) ∧
      (Catalog.mutuallyExclusive.checked []).VariantsKeepGroups ∧
      SnapshotStore.empty.snapshots = [] ∧ Reachable exclusiveEngine exclusiveStarted ∧
      (numberAndNone.map (·.1)).Nodup ∧
      Engine.run exclusiveStarted (submitBlock ⟨0⟩ "mutually-exclusive-number" numberAndNone) =
        (.ok ⟨[], some (.block ⟨"textfield-section", "mutually-exclusive-textfield"⟩)⟩,
          exclusiveSubmitted) ∧
      ∃ live final b, Engine.run exclusiveStarted (session ⟨0⟩) = (.ok live, exclusiveStarted) ∧
        Engine.run exclusiveSubmitted (session ⟨0⟩) = (.ok final, exclusiveSubmitted) ∧
        (Catalog.mutuallyExclusive.checked []).block? "mutually-exclusive-number" = some b ∧
        ((Catalog.mutuallyExclusive.checked []).routingPath live.answers).contains
          "mutually-exclusive-number" = true ∧
        ∀ question ∈ shownQuestions (Catalog.mutuallyExclusive.checked []) b live,
          EditsLand question numberAndNone ⟨live.answers, live.drafts⟩
            ⟨final.answers, final.drafts⟩ :=
  have accepted : Questionnaire.ofDefinition Catalog.mutuallyExclusive =
      .ok (Catalog.mutuallyExclusive.checked []) := by rfl
  have keeps : (Catalog.mutuallyExclusive.checked []).VariantsKeepGroups := by decide
  have reached : Reachable exclusiveEngine exclusiveStarted := .step _ .refl
  have distinct : (numberAndNone.map (·.1)).Nodup := by decide
  have submitted : Engine.run exclusiveStarted
      (submitBlock ⟨0⟩ "mutually-exclusive-number" numberAndNone) =
        (.ok ⟨[], some (.block ⟨"textfield-section", "mutually-exclusive-textfield"⟩)⟩,
          exclusiveSubmitted) := by rfl
  ⟨accepted, keeps, rfl, reached, distinct, submitted,
    submission_lands_edits accepted keeps EngineConfig.default rfl reached distinct submitted⟩

/-- Ticking `a`, which the variant shown makes exclusive, in a submission. -/
def noneTicked : Entries Edit := [("a", .set (.choices ["None"]))]

/-- The engine after the switched session submits the tick. -/
def variantTicked : Engine := (Engine.run variantSwitched (submitBlock ⟨0⟩ "b" noneTicked)).2

/-- The session live under the first id after the submission. -/
def variantTickedSession : Session :=
  ((variantTicked.sessions.find? (·.1 == ⟨0⟩)).map (·.2)).getD Session.empty

/-- A stored session is read back as the one stored first under its id. -/
theorem run_session_of_isSome {e : Engine} {id : SessionId}
    (stored : (e.sessions.find? (·.1 == id)).isSome = true) :
    Engine.run e (session id) =
      (.ok (((e.sessions.find? (·.1 == id)).map (·.2)).getD Session.empty), e) := by
  obtain ⟨⟨key, s⟩, found⟩ := Option.isSome_iff_exists.mp stored
  rw [run_session_of_find? found, found]
  rfl

/-- **Without the condition on variants, the exclusive answer can lose.** Loading accepts the
questionnaire whose variant makes `a` exclusive. After the switch, submitting a tick of `a` is
accepted, yet the variant it showed keeps its other slot `n` answered. -/
theorem variant_exclusive_loses :
    Questionnaire.ofDefinition variantExclusive = .ok (variantExclusive.checked []) ∧
      ¬ (variantExclusive.checked []).VariantsKeepGroups ∧
      Reachable variantEngine variantSwitched ∧
      (∃ submission, Engine.run variantSwitched (submitBlock ⟨0⟩ "b" noneTicked) =
        (.ok submission, variantTicked) ∧ submission.isAccepted = true) ∧
      Engine.run variantSwitched (session ⟨0⟩) = (.ok variantSession, variantSwitched) ∧
      Engine.run variantTicked (session ⟨0⟩) = (.ok variantTickedSession, variantTicked) ∧
      exclusiveVariant ∈ shownQuestions variantSwitched.questionnaire variantBlock variantSession ∧
      ¬ EditsLand exclusiveVariant noneTicked ⟨variantSession.answers, variantSession.drafts⟩
        ⟨variantTickedSession.answers, variantTickedSession.drafts⟩ := by
  -- The runs are evaluated by the kernel, through decidable readings of their results.
  have accepted : (Engine.run variantSwitched (submitBlock ⟨0⟩ "b" noneTicked)).1.toOption.map
      Submission.isAccepted = some true := by
    decide +kernel
  have submitted : ∃ submission, Engine.run variantSwitched (submitBlock ⟨0⟩ "b" noneTicked) =
      (.ok submission, variantTicked) ∧ submission.isAccepted = true := by
    generalize ran : (Engine.run variantSwitched (submitBlock ⟨0⟩ "b" noneTicked)).1 = result
      at accepted
    cases result with
    | error _ => cases accepted
    | ok submission => exact ⟨submission, Prod.ext ran rfl, Option.some.inj accepted⟩
  have stored : (variantTicked.sessions.find? (·.1 == ⟨0⟩)).isSome = true := by
    decide +kernel
  have owns : owningQuestion (shownQuestions variantSwitched.questionnaire variantBlock
      variantSession) "a" = some exclusiveVariant := by
    decide +kernel
  -- The tick should leave `n` empty, but `n` keeps its answer.
  have unlanded : ¬ EditsLand exclusiveVariant noneTicked ⟨variantSession.answers, variantSession.drafts⟩
      ⟨variantTickedSession.answers, variantTickedSession.drafts⟩ := by
    intro land
    have wins := land.exclusive_wins (Catalog.exclusiveAs "a" "None" "None") List.mem_cons_self rfl
      (.choices ["None"]) rfl
    have gone := wins.2 (AnswerSlot.number "n" "N") (List.mem_cons_of_mem _ List.mem_cons_self)
      (by decide)
    have held : (variantTickedSession.answers.get? (AnswerSlot.number "n" "N").id).isSome = true := by
      decide +kernel
    simp [gone] at held
  exact ⟨by rfl, by decide, .step _ (.step _ (.step _ (.step _ .refl))), submitted, by rfl,
    run_session_of_isSome stored, owningQuestion_mem owns, unlanded⟩

end Engine

end Survey
