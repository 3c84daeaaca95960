import Mathlib
import Survey.Proofs.Engine.Snapshot
import Survey.Proofs.Engine.Steps

/-!
# The engine keeps its maps sorted

Every map and set of a session is a list kept in key order by the insertions and removals that
change it. That order is what lets a snapshot read back as the session it was written from
(`SessionSnapshot.decodeText_toText`), so it is shown here to survive everything the engine does
to a session.

* Inserting keeps keys strictly increasing, removing keeps any order (`Entries.Sorted.insert`,
  `Entries.Sorted.erase`, and the same for key sets).
* So do the store's, the progress's and the totals' updates, and with them every step of an
  edit (`Question.applyEdit_sorted`, `Question.commitDraft_sorted`).
* The engine's own steps follow: a submission's edits (`Engine.run_applyEdits_sorted`), the totals
  it records, the marks it makes and the blocks it wipes (`Session.Sorted.wipeAll`).
-/

namespace Survey

variable {α : Type}

/-! ### Keys in order -/

namespace Entries

theorem mem_insert_of_mem {key : String} {value : α} {es : Entries α} {p : String × α}
    (member : p ∈ es.insert key value) : p = (key, value) ∨ p ∈ es := by
  induction es with
  | nil => simpa [insert] using member
  | cons q rest ih =>
    obtain ⟨other, previous⟩ := q
    unfold insert at member
    split_ifs at member with same less
    · rcases List.mem_cons.mp member with here | later
      · exact .inl here
      · exact .inr (List.mem_cons_of_mem _ later)
    · rcases List.mem_cons.mp member with here | later
      · exact .inl here
      · exact .inr later
    · rcases List.mem_cons.mp member with here | later
      · exact .inr (here ▸ List.mem_cons_self)
      · rcases ih later with new | old
        · exact .inl new
        · exact .inr (List.mem_cons_of_mem _ old)

theorem Sorted.insert {es : Entries α} (sorted : es.Sorted) (key : String) (value : α) :
    (es.insert key value).Sorted := by
  induction es with
  | nil => simp [Entries.insert, Sorted]
  | cons q rest ih =>
    obtain ⟨other, previous⟩ := q
    unfold Sorted at sorted ih ⊢
    obtain ⟨above, restSorted⟩ := List.pairwise_cons.mp sorted
    unfold Entries.insert
    split_ifs with same less
    · subst same
      exact List.pairwise_cons.mpr ⟨above, restSorted⟩
    · refine List.pairwise_cons.mpr ⟨fun p member => ?_, sorted⟩
      rcases List.mem_cons.mp member with rfl | later
      · exact less
      · exact less.trans (above p later)
    · -- The key goes after `other`, among the keys above it.
      refine List.pairwise_cons.mpr ⟨fun p member => ?_, ih restSorted⟩
      rcases mem_insert_of_mem member with rfl | old
      · exact lt_of_le_of_ne (not_lt.mp less) (Ne.symm same)
      · exact above p old

theorem erase_sublist (key : String) (es : Entries α) : (es.erase key).Sublist es := by
  induction es with
  | nil => exact List.Sublist.slnil
  | cons q rest ih =>
    unfold erase
    split
    · exact ih.cons _
    · exact ih.cons_cons _

theorem Sorted.erase {es : Entries α} (sorted : es.Sorted) (key : String) :
    (es.erase key).Sorted :=
  List.Pairwise.sublist (erase_sublist key es) sorted

end Entries

namespace KeySet

theorem Sorted.insert {ks : KeySet} (sorted : ks.Sorted) (key : String) :
    (ks.insert key).Sorted := by
  induction ks with
  | nil => simp [KeySet.insert, Sorted]
  | cons other rest ih =>
    unfold Sorted at sorted ih ⊢
    obtain ⟨above, restSorted⟩ := List.pairwise_cons.mp sorted
    unfold KeySet.insert
    split_ifs with same less
    · exact sorted
    · refine List.pairwise_cons.mpr ⟨fun k member => ?_, sorted⟩
      rcases List.mem_cons.mp member with rfl | later
      · exact less
      · exact less.trans (above k later)
    · refine List.pairwise_cons.mpr ⟨fun k member => ?_, ih restSorted⟩
      rcases (mem_insert key k rest).mp member with rfl | old
      · exact lt_of_le_of_ne (not_lt.mp less) (Ne.symm same)
      · exact above k old

theorem erase_sublist (key : String) (ks : KeySet) : (ks.erase key).Sublist ks := by
  induction ks with
  | nil => exact List.Sublist.slnil
  | cons other rest ih =>
    unfold erase
    split
    · exact ih.cons _
    · exact ih.cons_cons _

theorem Sorted.erase {ks : KeySet} (sorted : ks.Sorted) (key : String) : (ks.erase key).Sorted :=
  List.Pairwise.sublist (erase_sublist key ks) sorted

end KeySet

namespace AnswerStore

theorem Sorted.set {store store' : AnswerStore} {slot : AnswerSlot} {value : AnswerValue}
    {old : Option AnswerValue} (sorted : store.Sorted)
    (stored : store.set slot value = .ok (old, store')) : store'.Sorted := by
  simp only [AnswerStore.set, bind, Except.bind] at stored
  split at stored
  · simp at stored
  · simp only [pure, Except.pure, Except.ok.injEq, Prod.mk.injEq] at stored
    obtain ⟨-, rfl⟩ := stored
    exact ⟨sorted.values.insert _ _, sorted.touched.insert _⟩

theorem Sorted.clear {store : AnswerStore} (sorted : store.Sorted) (slot : SlotId) :
    (store.clear slot).2.Sorted :=
  ⟨sorted.values.erase slot, sorted.touched⟩

end AnswerStore

/-! ### Edits -/

namespace Question

theorem clearAll_sorted (entry : Entry) (slots : List AnswerSlot) (sorted : entry.answers.Sorted) :
    (clearAll entry slots).2.answers.Sorted := by
  induction slots generalizing entry with
  | nil => exact sorted
  | cons s rest ih => exact ih _ (sorted.clear s.id)

theorem perform_sorted (q : Question) (effect : Effect) (entry : Entry)
    (sorted : entry.answers.Sorted) : (q.perform effect entry).2.answers.Sorted := by
  cases effect with
  | keep => exact sorted
  | clearOthers => exact clearAll_sorted entry _ sorted
  | clearExclusive =>
    unfold perform
    cases q.exclusiveAnswer? with
    | none => exact sorted
    | some x => exact sorted.clear x.id

theorem editStep_sorted {q : Question} {target : AnswerSlot} {edit : Edit} {phase : EditPhase}
    {entry entry' : Entry} {event : GroupEvent}
    (ok : q.editStep target edit phase entry = .ok (event, entry'))
    (sorted : entry.answers.Sorted) : entry'.answers.Sorted := by
  rcases editStep_eq_ok ok with
    ⟨-, ⟨value, old, answers, -, stored, -, rfl⟩ | ⟨-, -, rfl⟩⟩ |
      ⟨-, ⟨-, -, -, rfl⟩ | ⟨value, old, answers, -, -, stored, -, rfl⟩ | ⟨-, -, -, rfl⟩⟩
  · exact sorted.set stored
  · exact sorted.clear _
  · exact sorted
  · exact sorted.set stored
  · exact sorted.clear _

/-- **An edit keeps the answers sorted.** -/
theorem applyEdit_sorted {q : Question} {slot : SlotId} {edit : Edit} {phase : EditPhase}
    {entry entry' : Entry} {applied : Applied}
    (ok : q.applyEdit slot edit phase entry = .ok (applied, entry'))
    (sorted : entry.answers.Sorted) : entry'.answers.Sorted := by
  obtain ⟨target, event, mid, -, stepped, -, rfl⟩ := applyEdit_eq_ok ok
  exact perform_sorted q _ _ (editStep_sorted stepped sorted)

theorem commitDraft_sorted {q : Question} {slot : SlotId} {entry entry' : Entry}
    {applied : Option Applied} (ok : q.commitDraft slot entry = .ok (applied, entry'))
    (sorted : entry.answers.Sorted) : entry'.answers.Sorted := by
  rcases commitDraft_eq_ok ok with ⟨-, -, rfl⟩ | ⟨change, a, -, -, edited⟩
  · exact sorted
  · exact applyEdit_sorted edited sorted

end Question

/-! ### The engine's steps on a session -/

namespace Session

theorem Sorted.withEntry {s : Session} {entry : Entry} (sorted : s.Sorted)
    (answers : entry.answers.Sorted) : (Engine.Session.withEntry s entry).Sorted :=
  ⟨answers, sorted.totals, sorted.progress⟩

theorem Sorted.forget {s : Session} (sorted : s.Sorted) (block : BlockId) :
    { s with progress := (s.progress.forget block).2 }.Sorted :=
  ⟨sorted.answers, sorted.totals, sorted.progress.erase block⟩

theorem Sorted.markSubmitted {s : Session} (sorted : s.Sorted) (block : BlockId) :
    { s with progress := (s.progress.markSubmitted block).2 }.Sorted :=
  ⟨sorted.answers, sorted.totals, sorted.progress.insert block⟩

theorem Sorted.recordTotals {s : Session} (sorted : s.Sorted) (view : Lookup)
    (rules : List CalculatedRule) :
    { s with totals := Engine.recordTotals view rules s.totals }.Sorted := by
  refine ⟨sorted.answers, ?_, sorted.progress⟩
  -- Each total is recorded by an insertion.
  have recorded : ∀ (totals : CalculatedTotals), totals.totals.Sorted →
      (rules.foldl (fun t rule => t.record rule.id (rule.evaluate view)) totals).totals.Sorted := by
    induction rules with
    | nil => exact fun _ ordered => ordered
    | cons rule rest ih => exact fun totals ordered => ih _ (ordered.insert _ _)
  exact recorded s.totals sorted.totals

theorem Sorted.clearSlots {s : Session} (sorted : s.Sorted) (slots : List SlotId) :
    (Engine.clearSlots s slots).Sorted := by
  induction slots generalizing s with
  | nil => exact sorted
  | cons slot rest ih => exact ih ⟨sorted.answers.clear slot, sorted.totals, sorted.progress⟩

theorem Sorted.wipeBlock {s : Session} (sorted : s.Sorted) (b : Block) :
    (Engine.wipeBlock s b).Sorted := by
  have cleared := sorted.clearSlots b.slotIds
  -- The block's totals are forgotten one by one, each by a removal.
  have forgotten : ∀ (rules : List CalculatedRule) (totals : CalculatedTotals),
      totals.totals.Sorted → (rules.foldl (fun t r => (t.forget r.id).2) totals).totals.Sorted := by
    intro rules
    induction rules with
    | nil => exact fun _ ordered => ordered
    | cons rule rest ih => exact fun totals ordered => ih _ (ordered.erase _)
  exact ⟨cleared.answers, forgotten _ _ cleared.totals, cleared.progress.erase b.id⟩

/-- **Wiping skipped blocks keeps a session sorted.** -/
theorem Sorted.wipeAll {s : Session} (sorted : s.Sorted) (config : EngineConfig)
    (path : RoutingPath) (bs : List Block) :
    (bs.foldl (fun s b => if Engine.wipes config path b then Engine.wipeBlock s b else s) s).Sorted := by
  induction bs generalizing s with
  | nil => exact sorted
  | cons b rest ih =>
    rw [List.foldl_cons]
    split
    · exact ih (sorted.wipeBlock b)
    · exact ih sorted

end Session

namespace Engine

/-- **A submission's edits keep the answers sorted**: each commit of a draft or an edit does. -/
theorem run_applyEdits_sorted {e e' : Engine} {s s' : Session} {block : Block}
    {questions : List Question} {edits : Entries Edit}
    (ran : Engine.run e (applyEdits s block questions edits) = (.ok s', e'))
    (sorted : s.Sorted) : s'.Sorted := by
  obtain ⟨entry, rfl, kept, -⟩ := run_applyEdits_keeps (Q := fun entry => entry.answers.Sorted) ran
    (fun _ _ _ _ _ committed ordered => Question.commitDraft_sorted committed ordered)
    (fun _ _ _ _ _ _ edited ordered => Question.applyEdit_sorted edited ordered) sorted.answers
  exact sorted.withEntry kept

end Engine

end Survey
