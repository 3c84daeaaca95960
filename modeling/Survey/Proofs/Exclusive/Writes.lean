import Mathlib
import Survey.Proofs.Exclusive.Enforcer

/-!
# What an edit writes

An edit stores a value only after checking it against the slot it edits, keeps a draft only on a
slot that is not the exclusive one (checking a set value first), and otherwise only removes
answers and drafts. `Entry.WritesChecked target` says this slot by slot; it composes, and every
step of the enforcer has it for the slot it edits (`Question.applyEdit_writesChecked`).

So the answer and draft of a slot that fit its declaration (`Entry.Fits`) still fit after an edit
whose target, where it has the slot's id, has the slot's declaration (`Entry.Fits.of_writesChecked`),
and a draft that fits commits without error (`Question.commitDraft_ok_of_fits`).
-/

namespace Survey

namespace AnswerSlot

/-- What the check of a slot reads: its id, its kind, and whether it takes raw text. -/
def declaration (s : AnswerSlot) : SlotId × SlotKind × Bool := (s.id, s.kind, s.acceptsRawText)

theorem id_eq_of_declaration {s t : AnswerSlot} (same : s.declaration = t.declaration) :
    s.id = t.id :=
  congrArg (·.1) same

theorem kind_eq_of_declaration {s t : AnswerSlot} (same : s.declaration = t.declaration) :
    s.kind = t.kind :=
  congrArg (·.2.1) same

/-- The check of a slot reads its declaration only, not its label. -/
theorem check_eq_of_declaration {s t : AnswerSlot} (same : s.declaration = t.declaration) :
    s.check = t.check := by
  obtain ⟨id, label, kind, raw⟩ := s
  obtain ⟨id', label', kind', raw'⟩ := t
  simp only [declaration, Prod.mk.injEq] at same
  obtain ⟨rfl, rfl, rfl⟩ := same
  rfl

end AnswerSlot

namespace AnswerStore

/-- A stored value passed the slot's check. -/
theorem check_of_set {store store' : AnswerStore} {slot : AnswerSlot} {value : AnswerValue}
    {old : Option AnswerValue} (stored : store.set slot value = .ok (old, store')) :
    slot.check value = .ok () := by
  unfold set at stored
  cases checked : slot.check value with
  | error err => simp [checked, bind, Except.bind] at stored
  | ok u => rfl

/-- A value that passes the slot's check is stored. -/
theorem set_ok_of_check (store : AnswerStore) {slot : AnswerSlot} {value : AnswerValue}
    (checked : slot.check value = .ok ()) : ∃ result, store.set slot value = .ok result := by
  unfold set
  rw [checked]
  exact ⟨_, rfl⟩

end AnswerStore

namespace Entry

/-- An optional value that stays, goes, or becomes one that `allowed` admits. -/
def Narrows {α : Type} (allowed : α → Prop) (before after : Option α) : Prop :=
  after = before ∨ after = none ∨ ∃ a, after = some a ∧ allowed a

namespace Narrows

variable {α : Type} {allowed : α → Prop} {a b c : Option α}

theorem refl (allowed : α → Prop) (a : Option α) : Narrows allowed a a := .inl rfl

theorem trans (first : Narrows allowed a b) (second : Narrows allowed b c) : Narrows allowed a c := by
  rcases second with rfl | gone | fresh
  · exact first
  · exact .inr (.inl gone)
  · exact .inr (.inr fresh)

theorem of_ite {p : Prop} [Decidable p] (a : Option α) : Narrows allowed a (if p then none else a) := by
  split
  · exact .inr (.inl rfl)
  · exact .inl rfl

end Narrows

/-- The changes an edit of `target` may make: each answer and each draft stays or goes, except
at the target's own slot, which may gain an answer that passed the target's check, or, when the
target is not the exclusive slot, a draft whose value, if any, passed it. -/
structure WritesChecked (target : AnswerSlot) (entry entry' : Entry) : Prop where
  answer : ∀ slot, Narrows (fun value => slot = target.id ∧ target.check value = .ok ())
    (entry.answers.get? slot) (entry'.answers.get? slot)
  draft : ∀ slot, Narrows (fun edit => slot = target.id ∧ target.kind.isExclusive = false ∧
      ∀ value, edit = .set value → target.check value = .ok ())
    (entry.drafts.lookup slot) (entry'.drafts.lookup slot)

namespace WritesChecked

variable {target : AnswerSlot} {entry entry' entry'' : Entry}

theorem refl (target : AnswerSlot) (entry : Entry) : WritesChecked target entry entry :=
  ⟨fun _ => Narrows.refl _ _, fun _ => Narrows.refl _ _⟩

theorem trans (first : WritesChecked target entry entry') (second : WritesChecked target entry' entry'') :
    WritesChecked target entry entry'' :=
  ⟨fun slot => (first.answer slot).trans (second.answer slot),
    fun slot => (first.draft slot).trans (second.draft slot)⟩

/-- Answers that only go, and drafts that only go. -/
theorem of_removal {entry' : Entry}
    (answers : ∀ slot, entry'.answers.get? slot = entry.answers.get? slot ∨
      entry'.answers.get? slot = none)
    (drafts : ∀ slot, entry'.drafts.lookup slot = entry.drafts.lookup slot ∨
      entry'.drafts.lookup slot = none) : WritesChecked target entry entry' :=
  ⟨fun slot => (answers slot).elim .inl fun gone => .inr (.inl gone),
    fun slot => (drafts slot).elim .inl fun gone => .inr (.inl gone)⟩

theorem of_clear (slot : SlotId) :
    WritesChecked target entry { entry with answers := (entry.answers.clear slot).2 } :=
  ⟨fun slot' => by simpa using Narrows.of_ite _, fun _ => Narrows.refl _ _⟩

theorem of_erase_draft (slot : SlotId) :
    WritesChecked target entry { entry with drafts := entry.drafts.erase slot } :=
  ⟨fun _ => Narrows.refl _ _, fun slot' => by simpa using Narrows.of_ite _⟩

/-- Storing a value in the target's slot: the store checked it. -/
theorem of_set {value : AnswerValue} {old : Option AnswerValue} {answers : AnswerStore}
    (stored : entry.answers.set target value = .ok (old, answers)) :
    WritesChecked target entry { entry with answers } := by
  refine ⟨fun slot => ?_, fun _ => Narrows.refl _ _⟩
  rw [AnswerStore.get?_set_of_ok stored]
  split
  · next own => exact .inr (.inr ⟨value, rfl, own, AnswerStore.check_of_set stored⟩)
  · exact .inl rfl

/-- Keeping a draft in the target's slot, which is not the exclusive one. -/
theorem of_insert_draft {edit : Edit} (other : target.kind.isExclusive = false)
    (checked : ∀ value, edit = .set value → target.check value = .ok ()) :
    WritesChecked target entry { entry with drafts := entry.drafts.insert target.id edit } := by
  refine ⟨fun _ => Narrows.refl _ _, fun slot => ?_⟩
  simp only [Entries.lookup_insert]
  split
  · next own => exact .inr (.inr ⟨edit, rfl, own, other, checked⟩)
  · exact .inl rfl

end WritesChecked

/-- The answer and the draft of a slot fit its declaration: a stored value and a set draft pass
its check, and the exclusive slot, which takes every edit at once, has no draft. -/
structure Fits (slot : AnswerSlot) (entry : Entry) : Prop where
  answer : ∀ value, entry.answers.get? slot.id = some value → slot.check value = .ok ()
  draft : ∀ value, entry.drafts.lookup slot.id = some (.set value) → slot.check value = .ok ()
  exclusive : slot.kind.isExclusive = true → entry.drafts.lookup slot.id = none

namespace Fits

variable {slot target : AnswerSlot} {entry entry' : Entry}

theorem empty (slot : AnswerSlot) : Fits slot ⟨AnswerStore.empty, []⟩ :=
  ⟨fun _ found => (nomatch found), fun _ found => (nomatch found), fun _ => rfl⟩

theorem dropDrafts (fits : Fits slot entry) : Fits slot { entry with drafts := [] } :=
  ⟨fits.answer, fun _ found => (nomatch found), fun _ => rfl⟩

/-- Fitting reads the declaration only. -/
theorem of_declaration (fits : Fits slot entry) (same : slot.declaration = target.declaration) :
    Fits target entry := by
  have id := AnswerSlot.id_eq_of_declaration same
  have check := AnswerSlot.check_eq_of_declaration same
  have kind := AnswerSlot.kind_eq_of_declaration same
  refine ⟨fun value found => ?_, fun value found => ?_, fun exclusive => ?_⟩
  · rw [← check]
    exact fits.answer value (id ▸ found)
  · rw [← check]
    exact fits.draft value (id ▸ found)
  · rw [← id]
    exact fits.exclusive (kind ▸ exclusive)

/-- **A slot still fits after an edit that writes only checked values**, as long as a target
of the slot's id has the slot's declaration. -/
theorem of_writesChecked (fits : Fits slot entry) (step : WritesChecked target entry entry')
    (same : slot.id = target.id → slot.declaration = target.declaration) : Fits slot entry' := by
  refine ⟨fun value found => ?_, fun value found => ?_, fun exclusive => ?_⟩
  · rcases step.answer slot.id with kept | gone | ⟨value', found', own, checked⟩
    · exact fits.answer value (kept ▸ found)
    · simp [gone] at found
    · rw [found', Option.some.injEq] at found
      rw [AnswerSlot.check_eq_of_declaration (same own), ← found]
      exact checked
  · rcases step.draft slot.id with kept | gone | ⟨edit, found', own, -, checked⟩
    · exact fits.draft value (kept ▸ found)
    · simp [gone] at found
    · rw [found', Option.some.injEq] at found
      rw [AnswerSlot.check_eq_of_declaration (same own)]
      exact checked value found
  · rcases step.draft slot.id with kept | gone | ⟨edit, -, own, other, -⟩
    · exact kept ▸ fits.exclusive exclusive
    · exact gone
    · -- A slot declared like the target is exclusive exactly when the target is.
      rw [AnswerSlot.kind_eq_of_declaration (same own)] at exclusive
      simp [exclusive] at other

/-- Clearing a slot, answer and draft, keeps every slot fitting. -/
theorem clear (fits : Fits slot entry) (cleared : SlotId) :
    Fits slot ⟨(entry.answers.clear cleared).2, entry.drafts.erase cleared⟩ := by
  have removed : WritesChecked slot entry { entry with answers := (entry.answers.clear cleared).2 } :=
    WritesChecked.of_clear cleared
  exact fits.of_writesChecked (removed.trans (WritesChecked.of_erase_draft cleared)) fun _ => rfl

end Fits

end Entry

namespace Question

variable {q : Question} {target : AnswerSlot}

theorem clearAll_writesChecked (entry : Entry) (slots : List AnswerSlot) :
    Entry.WritesChecked target entry (clearAll entry slots).2 := by
  induction slots generalizing entry with
  | nil => exact Entry.WritesChecked.refl _ _
  | cons s rest ih =>
    have erased : Entry.WritesChecked target entry { entry with drafts := entry.drafts.erase s.id } :=
      Entry.WritesChecked.of_erase_draft s.id
    exact (erased.trans (Entry.WritesChecked.of_clear s.id)).trans (ih _)

/-- A transition's side effect only removes answers and drafts. -/
theorem perform_writesChecked (effect : Effect) (entry : Entry) :
    Entry.WritesChecked target entry (q.perform effect entry).2 := by
  cases effect with
  | keep => exact Entry.WritesChecked.refl _ _
  | clearOthers => exact clearAll_writesChecked entry _
  | clearExclusive =>
    unfold perform
    cases q.exclusiveAnswer? with
    | none => exact Entry.WritesChecked.refl _ _
    | some x => exact Entry.WritesChecked.of_clear x.id

/-- **The edit itself writes only checked values in its own slot**: the store checks what it
stores, a draft is kept only for a slot that is not the exclusive one, its set value checked
first, and ticking the exclusive slot drops other drafts. -/
theorem editStep_writesChecked {edit : Edit} {phase : EditPhase} {entry entry' : Entry}
    {event : GroupEvent} (ok : q.editStep target edit phase entry = .ok (event, entry')) :
    Entry.WritesChecked target entry entry' := by
  rcases editStep_eq_ok ok with
    ⟨-, ⟨value, old, answers, -, stored, -, rfl⟩ | ⟨-, -, rfl⟩⟩ |
      ⟨other, ⟨-, checked, -, rfl⟩ | ⟨value, old, answers, -, -, stored, -, rfl⟩ | ⟨-, -, -, rfl⟩⟩
  · -- The other slots' drafts are only dropped.
    have dropped : Entry.WritesChecked target { entry with answers }
        ⟨answers, q.nonExclusiveAnswers.foldl (fun ds s => ds.erase s.id) entry.drafts⟩ :=
      Entry.WritesChecked.of_removal (fun _ => .inl rfl) fun slot => by
        rw [Entries.lookup_foldl_erase (fun s : AnswerSlot => s.id)]
        split
        · exact .inr rfl
        · exact .inl rfl
    exact (Entry.WritesChecked.of_set stored).trans dropped
  · exact Entry.WritesChecked.of_clear _
  · exact Entry.WritesChecked.of_insert_draft other checked
  · exact (Entry.WritesChecked.of_set stored).trans (Entry.WritesChecked.of_erase_draft _)
  · exact (Entry.WritesChecked.of_clear _).trans (Entry.WritesChecked.of_erase_draft _)

/-- **An edit writes only checked values, in the slot it edits.** -/
theorem applyEdit_writesChecked {slot : SlotId} {edit : Edit} {phase : EditPhase}
    {entry entry' : Entry} {applied : Applied}
    (ok : q.applyEdit slot edit phase entry = .ok (applied, entry')) :
    ∃ target, q.answer? slot = some target ∧ Entry.WritesChecked target entry entry' := by
  obtain ⟨target, event, mid, found, stepped, -, rfl⟩ := applyEdit_eq_ok ok
  exact ⟨target, found, (editStep_writesChecked stepped).trans (perform_writesChecked _ _)⟩

/-! ### Committing a draft that fits -/

/-- A commit of a draft that fits goes through the edit step: the draft is on a slot that is not
the exclusive one, and a set value passes the store's check. -/
theorem editStep_commit_ok {edit : Edit} {entry : Entry} (fits : Entry.Fits target entry)
    (drafted : entry.drafts.lookup target.id = some edit) :
    ∃ result, q.editStep target edit .commit entry = .ok result := by
  have other : target.kind.isExclusive = false := by
    cases exclusive : target.kind.isExclusive with
    | false => rfl
    | true => simp [fits.exclusive exclusive] at drafted
  cases edit with
  | set value =>
    obtain ⟨⟨old, answers⟩, stored⟩ := entry.answers.set_ok_of_check (fits.draft value drafted)
    refine ⟨(.otherCommitted, ⟨answers, entry.drafts.erase target.id⟩), ?_⟩
    unfold editStep
    simp [other, stored, bind, Except.bind, pure, Except.pure]
  | clear =>
    refine ⟨(.otherCleared (q.othersAnswered (entry.answers.clear target.id).2),
      ⟨(entry.answers.clear target.id).2, entry.drafts.erase target.id⟩), ?_⟩
    unfold editStep
    simp [other, pure, Except.pure]

theorem answer?_id {slot : SlotId} (found : q.answer? slot = some target) : target.id = slot := by
  simpa using List.find?_some found

/-- **A draft that fits commits without error**: where every slot of the question fits, committing
the draft of any of its slots succeeds. -/
theorem commitDraft_ok_of_fits {slot : AnswerSlot} (member : slot ∈ q.answers) {entry : Entry}
    (fits : ∀ s ∈ q.answers, Entry.Fits s entry) :
    ∃ result, q.commitDraft slot.id entry = .ok result := by
  unfold commitDraft
  split
  · exact ⟨_, rfl⟩
  · next edit drafted =>
    obtain ⟨target, found⟩ : ∃ target, q.answer? slot.id = some target :=
      Option.isSome_iff_exists.mp (List.find?_isSome.mpr ⟨slot, member, by simp⟩)
    have own := answer?_id found
    obtain ⟨⟨event, stepped⟩, ok⟩ :=
      editStep_commit_ok (q := q) (fits target (answer?_mem found)) (own ▸ drafted)
    unfold applyEdit
    simp only [found, ok, bind, Except.bind, pure, Except.pure]
    exact ⟨_, rfl⟩

end Question

end Survey
