import Mathlib
import Survey.Answer.Store

/-!
# What an edit of the answers leaves alone

Lookups in keyed entries after an insertion or an erasure (`Entries.lookup_insert`,
`Entries.lookup_erase`), and from them what storing and clearing a slot do to the answers:
only the slot named changes (`AnswerStore.get?_set_of_ok`, `AnswerStore.get?_clear`).

`AnswerStore.SameOutside slots A B` says that `A` and `B` differ at most on `slots`. Every edit
of a question keeps its store `SameOutside` the question's slots, and that is what lets the
engine's proofs say which answers a submission can have changed.
-/

namespace Survey

namespace Entries

variable {α : Type}

@[simp] theorem lookup_insert (key key' : String) (value : α) (entries : Entries α) :
    lookup key' (insert key value entries) = if key' = key then some value else lookup key' entries := by
  induction entries with
  | nil => simp [insert, lookup]
  | cons pair rest ih =>
    obtain ⟨other, previous⟩ := pair
    by_cases same : key = other
    · -- The new pair replaces the pair of its key.
      subst same
      by_cases here : key' = key <;> simp [insert, lookup, here]
    · by_cases before : key < other
      · by_cases here : key' = key <;> simp [insert, lookup, same, before, here]
      · -- The new pair goes further down; the head pair keeps its place.
        by_cases here : key' = other
        · subst here
          simp [insert, lookup, same, before, Ne.symm same]
        · simp [insert, lookup, same, before, here, ih]

@[simp] theorem lookup_erase (key key' : String) (entries : Entries α) :
    lookup key' (erase key entries) = if key' = key then none else lookup key' entries := by
  induction entries with
  | nil => simp [erase, lookup]
  | cons pair rest ih =>
    obtain ⟨other, value⟩ := pair
    by_cases same : key = other
    · subst same
      by_cases here : key' = key
      · subst here
        simpa [erase] using ih
      · simp [erase, lookup, here, ih]
    · by_cases here : key' = other
      · subst here
        simp [erase, lookup, same, Ne.symm same]
      · simp [erase, lookup, same, here, ih]

/-- Erasing the keys of a list, one after another, leaves every other key's value. -/
theorem lookup_foldl_erase {β : Type} (f : β → String) (xs : List β) (key : String)
    (entries : Entries α) :
    lookup key (xs.foldl (fun acc x => erase (f x) acc) entries) =
      if key ∈ xs.map f then none else lookup key entries := by
  induction xs generalizing entries with
  | nil => simp
  | cons x rest ih =>
    rw [List.foldl_cons, ih, lookup_erase]
    by_cases listed : key ∈ rest.map f <;> by_cases here : key = f x <;> simp [listed, here]

end Entries

namespace KeySet

@[simp] theorem mem_insert (key key' : String) (keys : KeySet) :
    key' ∈ insert key keys ↔ key' = key ∨ key' ∈ keys := by
  induction keys with
  | nil => simp [insert]
  | cons other rest ih =>
    unfold insert
    by_cases same : key = other
    · subst same
      simp only [if_true, List.mem_cons]
      tauto
    · by_cases before : key < other
      · simp [same, before]
      · simp only [same, before, if_false, List.mem_cons, ih]
        tauto

@[simp] theorem mem_erase (key key' : String) (keys : KeySet) :
    key' ∈ erase key keys ↔ key' ≠ key ∧ key' ∈ keys := by
  induction keys with
  | nil => simp [erase]
  | cons other rest ih =>
    unfold erase
    by_cases same : key = other
    · subst same
      simp only [if_true, ih, List.mem_cons]
      constructor
      · rintro ⟨other, listed⟩
        exact ⟨other, .inr listed⟩
      · rintro ⟨other, rfl | listed⟩
        · exact absurd rfl other
        · exact ⟨other, listed⟩
    · simp only [same, if_false, List.mem_cons, ih]
      constructor
      · rintro (rfl | ⟨other, listed⟩)
        · exact ⟨Ne.symm same, .inl rfl⟩
        · exact ⟨other, .inr listed⟩
      · rintro ⟨other, rfl | listed⟩
        · exact .inl rfl
        · exact .inr ⟨other, listed⟩

end KeySet

namespace AnswerStore

@[simp] theorem get?_clear (store : AnswerStore) (slot slot' : SlotId) :
    (store.clear slot).2.get? slot' = if slot' = slot then none else store.get? slot' := by
  simp [clear, get?]

@[simp] theorem clear_fst (store : AnswerStore) (slot : SlotId) :
    (store.clear slot).1 = store.get? slot := rfl

/-- Storing a value changes the answer of that slot only. -/
theorem get?_set_of_ok {store store' : AnswerStore} {slot : AnswerSlot} {value : AnswerValue}
    {old : Option AnswerValue} (stored : store.set slot value = .ok (old, store')) (slot' : SlotId) :
    store'.get? slot' = if slot' = slot.id then some value else store.get? slot' := by
  simp only [set, bind, Except.bind] at stored
  split at stored
  · simp at stored
  · simp only [pure, Except.pure, Except.ok.injEq, Prod.mk.injEq] at stored
    obtain ⟨-, rfl⟩ := stored
    simp [get?]

/-- Storing a value marks no slot but its own touched. -/
theorem isTouched_set_of_ok {store store' : AnswerStore} {slot : AnswerSlot} {value : AnswerValue}
    {old : Option AnswerValue} (stored : store.set slot value = .ok (old, store')) {slot' : SlotId}
    (other : slot' ≠ slot.id) : store'.isTouched slot' = store.isTouched slot' := by
  simp only [set, bind, Except.bind] at stored
  split at stored
  · simp at stored
  · simp only [pure, Except.pure, Except.ok.injEq, Prod.mk.injEq] at stored
    obtain ⟨-, rfl⟩ := stored
    simp [isTouched, other]

@[simp] theorem isTouched_clear (store : AnswerStore) (slot slot' : SlotId) :
    (store.clear slot).2.isTouched slot' = store.isTouched slot' := rfl

/-- Two stores that differ at most on the given slots. -/
def SameOutside (slots : List SlotId) (A B : AnswerStore) : Prop :=
  ∀ slot, slot ∉ slots → B.get? slot = A.get? slot

namespace SameOutside

variable {slots others : List SlotId} {A B C : AnswerStore}

theorem refl (slots : List SlotId) (A : AnswerStore) : SameOutside slots A A := fun _ _ => rfl

theorem trans (first : SameOutside slots A B) (second : SameOutside slots B C) :
    SameOutside slots A C := fun slot outside => (second slot outside).trans (first slot outside)

theorem mono (same : SameOutside slots A B) (sub : slots ⊆ others) : SameOutside others A B :=
  fun slot outside => same slot fun member => outside (sub member)

theorem of_clear (store : AnswerStore) {slot : SlotId} (member : slot ∈ slots) :
    SameOutside slots store (store.clear slot).2 := by
  intro slot' outside
  have other : slot' ≠ slot := fun same => outside (same ▸ member)
  simp [other]

theorem of_set {store store' : AnswerStore} {slot : AnswerSlot} {value : AnswerValue}
    {old : Option AnswerValue} (stored : store.set slot value = .ok (old, store'))
    (member : slot.id ∈ slots) : SameOutside slots store store' := by
  intro slot' outside
  have other : slot' ≠ slot.id := fun same => outside (same ▸ member)
  simp [get?_set_of_ok stored, other]

end SameOutside

end AnswerStore

end Survey
