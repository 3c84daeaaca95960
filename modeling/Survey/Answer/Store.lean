import Survey.Answer.Slot
import Survey.Data.Entries

/-!
# The answer store

The current answers of one respondent: a value per answered slot, in slot order, and the set
of slots that have ever held a value. A slot with no entry has no answer, which is not the
same as an answer of `""` or `0`.

`AnswerStore.set` checks the value against the slot first and leaves the store as it was when
the value does not fit; otherwise it stores the value, marks the slot touched, and gives the
value replaced. Clearing removes the value but keeps the touched mark.
-/

namespace Survey

/-- The current answers of one respondent. -/
structure AnswerStore where
  values : Entries AnswerValue
  /-- Slots that have held a value at some point. -/
  touched : KeySet
  deriving Repr, Inhabited

namespace AnswerStore

/-- No answers. -/
def empty : AnswerStore := ⟨[], []⟩

/-- The value of a slot. -/
def get? (store : AnswerStore) (slot : SlotId) : Option AnswerValue := store.values.lookup slot

/-- Whether a slot has an answer. -/
def contains (store : AnswerStore) (slot : SlotId) : Bool := store.values.contains slot

/-- Whether a slot has ever held an answer. -/
def isTouched (store : AnswerStore) (slot : SlotId) : Bool := store.touched.contains slot

/-- Store a checked value, giving the value it replaces. -/
def set (store : AnswerStore) (slot : AnswerSlot) (value : AnswerValue) :
    Except AnswerError (Option AnswerValue × AnswerStore) := do
  slot.check value
  pure (store.get? slot.id,
    ⟨store.values.insert slot.id value, KeySet.insert slot.id store.touched⟩)

/-- Remove a slot's answer, giving it; the slot stays touched. -/
def clear (store : AnswerStore) (slot : SlotId) : Option AnswerValue × AnswerStore :=
  (store.get? slot, { store with values := store.values.erase slot })

/-- The number of answered slots. -/
def size (store : AnswerStore) : Nat := store.values.length

/-- Whether nothing is answered. -/
def isEmpty (store : AnswerStore) : Bool := store.values.isEmpty

/-- The state of every slot of a question, in declaration order. -/
def allForQuestion (store : AnswerStore) (q : Question) : List (SlotId × Option AnswerValue) :=
  q.answers.map fun s => (s.id, store.get? s.id)

/-- A slot's value as text, or why not. -/
def getText (store : AnswerStore) (slot : SlotId) : Except AnswerError String :=
  match store.get? slot with
  | some (.text s) => .ok s
  | some other => .error (.invalidType slot "Text" other.typeName)
  | none => .error (.missing slot)

/-- A slot's value as a number, or why not. -/
def getNumber (store : AnswerStore) (slot : SlotId) : Except AnswerError Decimal :=
  match store.get? slot with
  | some (.number n) => .ok n
  | some other => .error (.invalidType slot "Number" other.typeName)
  | none => .error (.missing slot)

/-- A slot's chosen option, or why not. -/
def getChoice (store : AnswerStore) (slot : SlotId) : Except AnswerError String :=
  match store.get? slot with
  | some (.choice c) => .ok c
  | some other => .error (.invalidType slot "Choice" other.typeName)
  | none => .error (.missing slot)

end AnswerStore

/-- A way of looking up answers: the store itself, or a view that hides some of them. -/
abbrev Lookup := SlotId → Option AnswerValue

end Survey
