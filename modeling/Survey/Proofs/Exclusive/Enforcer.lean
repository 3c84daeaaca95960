import Mathlib
import Survey.Exclusive.Enforcer
import Survey.Proofs.Answer.Store

/-!
# What an edit of a question can change

Each of the enforcer's functions is taken apart once, and every later fact about an edit starts
from that description rather than from the definitions: `Question.editStep_eq_ok` lists the five
things the edit step can do, `Question.applyEdit_eq_ok` splits an edit into that step and the
effect of its transition, and `Question.commitDraft_eq_ok` says a blur commits the slot's draft
or nothing.

From these: an edit of one of a question's slots changes that question's slots only, in answers,
touched marks and drafts (`Entry.Frame`; `Question.applyEdit_frame`, `Question.commitDraft_frame`),
so in particular its answers are `SameOutside` the question's slot ids
(`Question.applyEdit_sameOutside`); and a keystroke kept as a draft changes no answer
(`Question.applyEdit_drafted`).
-/

namespace Survey

namespace Question

/-- The ids of a question's slots. -/
def slotIds (q : Question) : List SlotId := q.answers.map (·.id)

theorem mem_slotIds {q : Question} {s : AnswerSlot} (member : s ∈ q.answers) : s.id ∈ q.slotIds :=
  List.mem_map_of_mem member

theorem answer?_mem {q : Question} {slot : SlotId} {target : AnswerSlot}
    (found : q.answer? slot = some target) : target ∈ q.answers :=
  List.mem_of_find?_eq_some found

/-! ### What a successful edit is made of -/

/-- **What the edit step does**, for each kind of slot, edit and phase: setting the exclusive slot
stores the value and drops the drafts of the other slots; clearing it clears its answer; a
keystroke on another slot only keeps a draft, a set value checked first; a commit on another slot
stores the value or clears the answer, and drops the slot's draft. -/
theorem editStep_eq_ok {q : Question} {target : AnswerSlot} {edit : Edit} {phase : EditPhase}
    {entry entry' : Entry} {event : GroupEvent}
    (ok : q.editStep target edit phase entry = .ok (event, entry')) :
    (target.kind.isExclusive = true ∧
      ((∃ value old answers, edit = .set value ∧
          entry.answers.set target value = .ok (old, answers) ∧ event = .exclusiveSet ∧
          entry' = ⟨answers, q.nonExclusiveAnswers.foldl (fun ds s => ds.erase s.id) entry.drafts⟩) ∨
        (edit = .clear ∧ event = .exclusiveCleared ∧
          entry' = { entry with answers := (entry.answers.clear target.id).2 }))) ∨
    (target.kind.isExclusive = false ∧
      ((phase = .keystroke ∧ (∀ value, edit = .set value → target.check value = .ok ()) ∧
          event = .otherDrafted ∧ entry' = { entry with drafts := entry.drafts.insert target.id edit }) ∨
        (∃ value old answers, phase = .commit ∧ edit = .set value ∧
          entry.answers.set target value = .ok (old, answers) ∧ event = .otherCommitted ∧
          entry' = ⟨answers, entry.drafts.erase target.id⟩) ∨
        (phase = .commit ∧ edit = .clear ∧
          event = .otherCleared (q.othersAnswered (entry.answers.clear target.id).2) ∧
          entry' = ⟨(entry.answers.clear target.id).2, entry.drafts.erase target.id⟩))) := by
  unfold editStep at ok
  split at ok
  · next exclusive =>
    refine .inl ⟨exclusive, ?_⟩
    cases edit with
    | set value =>
      simp only [bind, Except.bind] at ok
      split at ok
      · simp at ok
      · next result stored =>
        obtain ⟨old, answers⟩ := result
        simp only [pure, Except.pure, Except.ok.injEq, Prod.mk.injEq] at ok
        obtain ⟨rfl, rfl⟩ := ok
        exact .inl ⟨value, old, answers, rfl, stored, rfl, rfl⟩
    | clear =>
      simp only [pure, Except.pure, Except.ok.injEq, Prod.mk.injEq] at ok
      obtain ⟨rfl, rfl⟩ := ok
      exact .inr ⟨rfl, rfl, rfl⟩
  · next other =>
    refine .inr ⟨by simpa using other, ?_⟩
    cases edit with
    | set value =>
      cases phase with
      | keystroke =>
        simp only [bind, Except.bind] at ok
        split at ok
        · simp at ok
        · next checked =>
          simp only [pure, Except.pure, Except.ok.injEq, Prod.mk.injEq] at ok
          obtain ⟨rfl, rfl⟩ := ok
          exact .inl ⟨rfl, (fun _ same => by cases same; exact checked), rfl, rfl⟩
      | commit =>
        simp only [bind, Except.bind] at ok
        split at ok
        · simp at ok
        · next result stored =>
          obtain ⟨old, answers⟩ := result
          simp only [pure, Except.pure, Except.ok.injEq, Prod.mk.injEq] at ok
          obtain ⟨rfl, rfl⟩ := ok
          exact .inr (.inl ⟨value, old, answers, rfl, rfl, stored, rfl, rfl⟩)
    | clear =>
      cases phase with
      | keystroke =>
        simp only [pure, Except.pure, Except.ok.injEq, Prod.mk.injEq] at ok
        obtain ⟨rfl, rfl⟩ := ok
        exact .inl ⟨rfl, (fun _ nope => by cases nope), rfl, rfl⟩
      | commit =>
        simp only [pure, Except.pure, Except.ok.injEq, Prod.mk.injEq] at ok
        obtain ⟨rfl, rfl⟩ := ok
        exact .inr (.inr ⟨rfl, rfl, rfl, rfl⟩)

/-- **A successful edit, taken apart**: the slot is one of the question's, the edit step succeeds
with some event, and the transition from the state read before picks the effect, whose clears
are reported. -/
theorem applyEdit_eq_ok {q : Question} {slot : SlotId} {edit : Edit} {phase : EditPhase}
    {entry entry' : Entry} {applied : Applied}
    (ok : q.applyEdit slot edit phase entry = .ok (applied, entry')) :
    ∃ target event mid, q.answer? slot = some target ∧
      q.editStep target edit phase entry = .ok (event, mid) ∧
      applied = ⟨(q.perform (transition (q.groupState entry.answers) event).2 mid).1,
        (transition (q.groupState entry.answers) event).1, event == .otherDrafted⟩ ∧
      entry' = (q.perform (transition (q.groupState entry.answers) event).2 mid).2 := by
  unfold applyEdit at ok
  cases found : q.answer? slot with
  | none => simp [found, bind, Except.bind, throw, throwThe, MonadExceptOf.throw] at ok
  | some target =>
    cases stepped : q.editStep target edit phase entry with
    | error err => simp [found, stepped, bind, Except.bind, pure, Except.pure] at ok
    | ok result =>
      obtain ⟨event, mid⟩ := result
      simp only [found, stepped, bind, Except.bind, pure, Except.pure, Except.ok.injEq,
        Prod.mk.injEq] at ok
      exact ⟨target, event, mid, rfl, stepped, ok.1.symm, ok.2.symm⟩

/-- A committed draft is the edit of its slot with the draft's change, and no draft commits
nothing. -/
theorem commitDraft_eq_ok {q : Question} {slot : SlotId} {entry entry' : Entry}
    {applied : Option Applied} (ok : q.commitDraft slot entry = .ok (applied, entry')) :
    (entry.drafts.lookup slot = none ∧ applied = none ∧ entry' = entry) ∨
      ∃ change a, entry.drafts.lookup slot = some change ∧ applied = some a ∧
        q.applyEdit slot change .commit entry = .ok (a, entry') := by
  unfold commitDraft at ok
  split at ok
  · next absent =>
    simp only [pure, Except.pure, Except.ok.injEq, Prod.mk.injEq] at ok
    exact .inl ⟨absent, ok.1.symm, ok.2.symm⟩
  · next change drafted =>
    simp only [bind, Except.bind] at ok
    split at ok
    · simp at ok
    · next result edited =>
      simp only [pure, Except.pure, Except.ok.injEq, Prod.mk.injEq] at ok
      obtain ⟨rfl, rfl⟩ := ok
      exact .inr ⟨change, result.1, drafted, rfl, edited⟩

/-- A committed draft is an edit of its slot with the draft's change. -/
theorem commitDraft_eq_some {q : Question} {slot : SlotId} {entry entry' : Entry} {applied : Applied}
    (ok : q.commitDraft slot entry = .ok (some applied, entry')) :
    ∃ edit, entry.drafts.lookup slot = some edit ∧
      q.applyEdit slot edit .commit entry = .ok (applied, entry') := by
  rcases commitDraft_eq_ok ok with ⟨-, nope, -⟩ | ⟨change, a, drafted, same, edited⟩
  · cases nope
  · obtain rfl := Option.some.inj same
    exact ⟨change, drafted, edited⟩

end Question

/-! ### Everything an edit can change: answers, touched marks and drafts -/

namespace Entry

/-- Two entries that differ at most at the slots `changed`: in their answers, in the slots
marked touched, and in their drafts. -/
structure Frame (changed : SlotId → Prop) (entry entry' : Entry) : Prop where
  answer : ∀ slot, ¬ changed slot → entry'.answers.get? slot = entry.answers.get? slot
  touched : ∀ slot, ¬ changed slot → entry'.answers.isTouched slot = entry.answers.isTouched slot
  draft : ∀ slot, ¬ changed slot → entry'.drafts.lookup slot = entry.drafts.lookup slot

namespace Frame

variable {changed others : SlotId → Prop} {entry entry' entry'' : Entry}

theorem refl (changed : SlotId → Prop) (entry : Entry) : Frame changed entry entry :=
  ⟨fun _ _ => rfl, fun _ _ => rfl, fun _ _ => rfl⟩

theorem trans (first : Frame changed entry entry') (second : Frame changed entry' entry'') :
    Frame changed entry entry'' :=
  ⟨fun slot outside => (second.answer slot outside).trans (first.answer slot outside),
    fun slot outside => (second.touched slot outside).trans (first.touched slot outside),
    fun slot outside => (second.draft slot outside).trans (first.draft slot outside)⟩

theorem mono (frame : Frame changed entry entry') (sub : ∀ slot, changed slot → others slot) :
    Frame others entry entry' :=
  ⟨fun slot outside => frame.answer slot fun inside => outside (sub slot inside),
    fun slot outside => frame.touched slot fun inside => outside (sub slot inside),
    fun slot outside => frame.draft slot fun inside => outside (sub slot inside)⟩

theorem sameOutside {slots : List SlotId} (frame : Frame (· ∈ slots) entry entry') :
    AnswerStore.SameOutside slots entry.answers entry'.answers :=
  frame.answer

/-- Storing a value changes its own slot only. -/
theorem of_set {target : AnswerSlot} {value : AnswerValue} {old : Option AnswerValue}
    {answers : AnswerStore} (stored : entry.answers.set target value = .ok (old, answers))
    (member : changed target.id) : Frame changed entry { entry with answers } := by
  refine ⟨fun slot outside => ?_, fun slot outside => ?_, fun _ _ => rfl⟩
  · have other : slot ≠ target.id := fun same => outside (same ▸ member)
    simp [AnswerStore.get?_set_of_ok stored, other]
  · exact AnswerStore.isTouched_set_of_ok stored fun same => outside (same ▸ member)

/-- Clearing a slot's answer changes that slot only. -/
theorem of_clear {slot : SlotId} (member : changed slot) :
    Frame changed entry { entry with answers := (entry.answers.clear slot).2 } := by
  refine ⟨fun slot' outside => ?_, fun _ _ => rfl, fun _ _ => rfl⟩
  have other : slot' ≠ slot := fun same => outside (same ▸ member)
  simp [other]

/-- Putting or dropping a slot's draft changes that slot only. -/
theorem of_drafts {drafts : Drafts} {slot : SlotId} (member : changed slot)
    (kept : ∀ slot', slot' ≠ slot → drafts.lookup slot' = entry.drafts.lookup slot') :
    Frame changed entry { entry with drafts } :=
  ⟨fun _ _ => rfl, fun _ _ => rfl, fun slot' outside => kept slot' fun same => outside (same ▸ member)⟩

theorem of_insert_draft {slot : SlotId} (edit : Edit) (member : changed slot) :
    Frame changed entry { entry with drafts := entry.drafts.insert slot edit } :=
  of_drafts member fun slot' other => by simp [other]

theorem of_erase_draft {slot : SlotId} (member : changed slot) :
    Frame changed entry { entry with drafts := entry.drafts.erase slot } :=
  of_drafts member fun slot' other => by simp [other]

end Frame

end Entry

namespace Question

/-- Clearing a list of slots, answers and drafts, changes those slots only. -/
theorem clearAll_frame (entry : Entry) (slots : List AnswerSlot) :
    Entry.Frame (· ∈ slots.map (·.id)) entry (clearAll entry slots).2 := by
  induction slots generalizing entry with
  | nil => exact Entry.Frame.refl _ _
  | cons s rest ih =>
    have own : s.id ∈ (s :: rest).map (·.id) := List.mem_map_of_mem List.mem_cons_self
    have erased : Entry.Frame (· ∈ (s :: rest).map (·.id)) entry
        { entry with drafts := entry.drafts.erase s.id } := Entry.Frame.of_erase_draft own
    have cleared : Entry.Frame (· ∈ (s :: rest).map (·.id))
        { entry with drafts := entry.drafts.erase s.id }
        ⟨(entry.answers.clear s.id).2, entry.drafts.erase s.id⟩ := Entry.Frame.of_clear own
    have later : Entry.Frame (· ∈ (s :: rest).map (·.id))
        ⟨(entry.answers.clear s.id).2, entry.drafts.erase s.id⟩
        (clearAll ⟨(entry.answers.clear s.id).2, entry.drafts.erase s.id⟩ rest).2 :=
      (ih _).mono fun slot member => List.mem_cons_of_mem s.id member
    exact (erased.trans cleared).trans later

/-- A transition's side effect changes slots of the question only. -/
theorem perform_frame (q : Question) (effect : Effect) (entry : Entry) :
    Entry.Frame (· ∈ q.slotIds) entry (q.perform effect entry).2 := by
  cases effect with
  | keep => exact Entry.Frame.refl _ _
  | clearOthers =>
    refine (clearAll_frame entry _).mono fun slot member => ?_
    obtain ⟨s, kept, rfl⟩ := List.mem_map.mp member
    exact mem_slotIds (List.mem_of_mem_filter kept)
  | clearExclusive =>
    unfold perform
    cases found : q.exclusiveAnswer? with
    | none => exact Entry.Frame.refl _ _
    | some x => exact Entry.Frame.of_clear (mem_slotIds (List.mem_of_find?_eq_some found))

/-- The edit itself changes slots of the question only: its own, and when the exclusive slot
is ticked, the drafts of the others. -/
theorem editStep_frame {q : Question} {target : AnswerSlot} (member : target ∈ q.answers)
    {edit : Edit} {phase : EditPhase} {entry entry' : Entry} {event : GroupEvent}
    (ok : q.editStep target edit phase entry = .ok (event, entry')) :
    Entry.Frame (· ∈ q.slotIds) entry entry' := by
  have own : target.id ∈ q.slotIds := mem_slotIds member
  rcases editStep_eq_ok ok with
    ⟨-, ⟨value, old, answers, -, stored, -, rfl⟩ | ⟨-, -, rfl⟩⟩ |
      ⟨-, ⟨-, -, -, rfl⟩ | ⟨value, old, answers, -, -, stored, -, rfl⟩ | ⟨-, -, -, rfl⟩⟩
  · -- Ticking the exclusive slot also drops the other slots' drafts.
    have dropped : Entry.Frame (· ∈ q.slotIds) { entry with answers }
        ⟨answers, q.nonExclusiveAnswers.foldl (fun ds s => ds.erase s.id) entry.drafts⟩ := by
      refine ⟨fun _ _ => rfl, fun _ _ => rfl, fun slot outside => ?_⟩
      rw [Entries.lookup_foldl_erase (fun s : AnswerSlot => s.id)]
      have absent : slot ∉ q.nonExclusiveAnswers.map (·.id) := fun listed => by
        obtain ⟨s, kept, rfl⟩ := List.mem_map.mp listed
        exact outside (mem_slotIds (List.mem_of_mem_filter kept))
      simp [absent]
    exact (Entry.Frame.of_set stored own).trans dropped
  · exact Entry.Frame.of_clear own
  · exact Entry.Frame.of_insert_draft _ own
  · exact (Entry.Frame.of_set stored own).trans (Entry.Frame.of_erase_draft own)
  · exact (Entry.Frame.of_clear own).trans (Entry.Frame.of_erase_draft own)

/-- **An edit of a question changes its slots only**: answers, touched marks and drafts. -/
theorem applyEdit_frame {q : Question} {slot : SlotId} {edit : Edit} {phase : EditPhase}
    {entry entry' : Entry} {applied : Applied}
    (ok : q.applyEdit slot edit phase entry = .ok (applied, entry')) :
    Entry.Frame (· ∈ q.slotIds) entry entry' := by
  obtain ⟨target, event, mid, found, stepped, -, rfl⟩ := applyEdit_eq_ok ok
  exact (editStep_frame (answer?_mem found) stepped).trans (perform_frame q _ _)

/-- Committing a draft changes the question's slots only. -/
theorem commitDraft_frame {q : Question} {slot : SlotId} {entry entry' : Entry}
    {applied : Option Applied} (ok : q.commitDraft slot entry = .ok (applied, entry')) :
    Entry.Frame (· ∈ q.slotIds) entry entry' := by
  rcases commitDraft_eq_ok ok with ⟨-, -, rfl⟩ | ⟨change, a, -, -, edited⟩
  · exact Entry.Frame.refl _ _
  · exact applyEdit_frame edited

/-! ### What an edit can change in the answers -/

/-- Clearing a list of slots changes the answers of those slots only. -/
theorem clearAll_sameOutside (entry : Entry) (slots : List AnswerSlot) :
    AnswerStore.SameOutside (slots.map (·.id)) entry.answers (clearAll entry slots).2.answers :=
  (clearAll_frame entry slots).sameOutside

/-- The edit itself changes the answer of its own slot only. -/
theorem editStep_sameOutside {q : Question} {target : AnswerSlot} {edit : Edit} {phase : EditPhase}
    {entry entry' : Entry} {event : GroupEvent}
    (ok : q.editStep target edit phase entry = .ok (event, entry')) :
    AnswerStore.SameOutside [target.id] entry.answers entry'.answers := by
  have own : target.id ∈ [target.id] := List.mem_singleton_self _
  rcases editStep_eq_ok ok with
    ⟨-, ⟨value, old, answers, -, stored, -, rfl⟩ | ⟨-, -, rfl⟩⟩ |
      ⟨-, ⟨-, -, -, rfl⟩ | ⟨value, old, answers, -, -, stored, -, rfl⟩ | ⟨-, -, -, rfl⟩⟩
  · exact AnswerStore.SameOutside.of_set stored own
  · exact AnswerStore.SameOutside.of_clear _ own
  · exact AnswerStore.SameOutside.refl _ _
  · exact AnswerStore.SameOutside.of_set stored own
  · exact AnswerStore.SameOutside.of_clear _ own

/-- **An edit of a question changes answers of its slots only.** -/
theorem applyEdit_sameOutside {q : Question} {slot : SlotId} {edit : Edit} {phase : EditPhase}
    {entry entry' : Entry} {applied : Applied}
    (ok : q.applyEdit slot edit phase entry = .ok (applied, entry')) :
    AnswerStore.SameOutside q.slotIds entry.answers entry'.answers :=
  (applyEdit_frame ok).sameOutside

/-- Committing a draft changes answers of the question's slots only. -/
theorem commitDraft_sameOutside {q : Question} {slot : SlotId} {entry entry' : Entry}
    {applied : Option Applied} (ok : q.commitDraft slot entry = .ok (applied, entry')) :
    AnswerStore.SameOutside q.slotIds entry.answers entry'.answers :=
  (commitDraft_frame ok).sameOutside

/-! ### Drafts and blurs that change no answer -/

/-- **A keystroke kept as a draft leaves the answers alone**: an edit reported as drafted changed
no answer and cleared nothing, since a draft never moves the group's state. -/
theorem applyEdit_drafted {q : Question} {slot : SlotId} {edit : Edit} {phase : EditPhase}
    {entry entry' : Entry} {applied : Applied}
    (ok : q.applyEdit slot edit phase entry = .ok (applied, entry'))
    (drafted : applied.drafted = true) : entry'.answers = entry.answers ∧ applied.cleared = [] := by
  obtain ⟨target, event, mid, -, stepped, rfl, rfl⟩ := applyEdit_eq_ok ok
  have isDraft : event = .otherDrafted := by simpa using drafted
  subst isDraft
  -- A draft keeps the group's state and has no side effect.
  have kept : transition (q.groupState entry.answers) .otherDrafted =
      (q.groupState entry.answers, .keep) := by
    cases q.groupState entry.answers <;> rfl
  rcases editStep_eq_ok stepped with
    ⟨-, ⟨-, -, -, -, -, nope, -⟩ | ⟨-, nope, -⟩⟩ |
      ⟨-, ⟨-, -, -, rfl⟩ | ⟨-, -, -, -, -, -, nope, -⟩ | ⟨-, -, nope, -⟩⟩
  · cases nope
  · cases nope
  · simp [kept, perform]
  · cases nope
  · cases nope

/-- A blur of a slot without a draft changes nothing. -/
theorem commitDraft_none {q : Question} {slot : SlotId} {entry entry' : Entry}
    (ok : q.commitDraft slot entry = .ok (none, entry')) : entry' = entry := by
  rcases commitDraft_eq_ok ok with ⟨-, -, rfl⟩ | ⟨change, a, -, nope, -⟩
  · rfl
  · cases nope

/-- An edit that neither keeps a draft nor clears a slot is the only kind that may leave its
block submitted, and it changed no answer. -/
theorem applyEdit_answers_of_kept {q : Question} {slot : SlotId} {edit : Edit} {phase : EditPhase}
    {entry entry' : Entry} {applied : Applied}
    (ok : q.applyEdit slot edit phase entry = .ok (applied, entry'))
    (kept : (!applied.drafted || !applied.cleared.isEmpty) = false) : entry'.answers = entry.answers := by
  simp only [Bool.or_eq_false_iff, Bool.not_eq_eq_eq_not, Bool.not_false] at kept
  exact (applyEdit_drafted ok kept.1).1

/-- A blur that committed nothing changed no answer. -/
theorem commitDraft_answers_of_none {q : Question} {slot : SlotId} {entry entry' : Entry}
    {applied : Option Applied} (ok : q.commitDraft slot entry = .ok (applied, entry'))
    (absent : applied.isSome = false) : entry'.answers = entry.answers := by
  cases applied with
  | none => rw [commitDraft_none ok]
  | some _ => cases absent

end Question

end Survey
