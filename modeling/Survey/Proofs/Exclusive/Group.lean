import Mathlib
import Survey.Proofs.Exclusive.Enforcer

/-!
# One side of an exclusivity group holds answers

A question with an exclusive slot forms a group: the exclusive slot on one side, the question's
other slots on the other. The group's state is read from two flags of the answers, whether the
exclusive slot is answered and whether another slot is (`Question.flags`), and the enforcer
keeps at most one of them set (`Question.OneSide`).

* `transition_observe` — **the state machine is sound**: for every event that moves the flags as
  the event says (`GroupEvent.Moves`) from flags that are apart, the effect the transition picks
  leaves them apart, and the state it names is the state read from them.
* `Question.applyEdit_oneSide` — **the enforcer realises the machine**: for a question with
  distinct slot ids and at most one exclusive slot (`Question.Grouped`), an edit moves the flags
  as its event says (`Question.editStep_moves`) and the effect clears what the machine says
  (`Question.perform_flags`); so a successful edit keeps the group on one side and reports the
  state read from the answers after it.
* `Question.flags_eq_of_profile` — the flags, hence the group state and the invariant, read
  only the ids of a question's slots and which of them is exclusive (`Question.profile`).
-/

namespace Survey

/-! ### The state machine over flags -/

namespace GroupState

/-- The state read from the flags `(exclusive, others)`: the exclusive slot first. -/
def observe (flags : Bool × Bool) : GroupState :=
  if flags.1 then .exclusiveSet else if flags.2 then .othersSet else .unset

/-- At most one side of the group holds answers. -/
def Apart (flags : Bool × Bool) : Prop := flags.1 = true → flags.2 = false

end GroupState

namespace GroupEvent

/-- How an event moves the flags `(exclusive, others)`: setting or clearing the exclusive slot
sets or clears its flag, committing another slot sets the other flag, clearing one reports
whether another slot remains (which it can only if one was there), and a draft changes
nothing. -/
def Moves : GroupEvent → Bool × Bool → Bool × Bool → Prop
  | .exclusiveSet, (_, others), after => after = (true, others)
  | .exclusiveCleared, (_, others), after => after = (false, others)
  | .otherCommitted, (exclusive, _), after => after = (exclusive, true)
  | .otherDrafted, before, after => after = before
  | .otherCleared remain, (exclusive, others), after =>
    after = (exclusive, remain) ∧ (remain = true → others = true)

end GroupEvent

namespace Effect

/-- What an effect does to the flags. -/
def apply : Effect → Bool × Bool → Bool × Bool
  | .keep, flags => flags
  | .clearOthers, (exclusive, _) => (exclusive, false)
  | .clearExclusive, (_, others) => (false, others)

end Effect

/-- **The state machine is sound.** From flags that are apart, an event that moves them as it
says, followed by the effect the transition picks, leaves them apart, and the transition names
the state read from them. -/
theorem transition_observe {event : GroupEvent} {before after : Bool × Bool}
    (apart : GroupState.Apart before) (moved : event.Moves before after) :
    GroupState.Apart ((transition (.observe before) event).2.apply after) ∧
      (transition (.observe before) event).1 =
        .observe ((transition (.observe before) event).2.apply after) := by
  obtain ⟨exclusive, others⟩ := before
  -- The table of `transition`, row by row: each event against the three states it can meet.
  cases event with
  | otherCleared remain =>
    obtain ⟨rfl, remains⟩ := moved
    cases exclusive <;> cases others <;> cases remain <;>
      simp_all [GroupState.Apart, transition, GroupState.observe, Effect.apply]
  | _ =>
    subst moved
    cases exclusive <;> cases others <;>
      simp_all [GroupState.Apart, transition, GroupState.observe, Effect.apply]

namespace Question

/-! ### The flags of a question -/

/-- Whether the exclusive slot has an answer. -/
def exclusiveAnswered (q : Question) (answers : AnswerStore) : Bool :=
  q.exclusiveAnswer?.any fun s => answers.contains s.id

/-- The group's flags in some answers: whether the exclusive slot has an answer, and whether
another slot has one. -/
def flags (q : Question) (answers : AnswerStore) : Bool × Bool :=
  (q.exclusiveAnswered answers, q.othersAnswered answers)

theorem groupState_eq_observe (q : Question) (answers : AnswerStore) :
    q.groupState answers = .observe (q.flags answers) := rfl

/-- At most one side of the question's group holds answers. -/
def OneSide (q : Question) (answers : AnswerStore) : Prop := GroupState.Apart (q.flags answers)

/-- A question as loading checks it: slots of distinct ids, at most one of them exclusive. -/
structure Grouped (q : Question) : Prop where
  ids_nodup : q.slotIds.Nodup
  exclusive_le_one : (q.answers.filter (·.kind.isExclusive)).length ≤ 1

theorem contains_eq_isSome (answers : AnswerStore) (slot : SlotId) :
    answers.contains slot = (answers.get? slot).isSome := rfl

/-- The other flag reads only the other slots. -/
theorem othersAnswered_eq_of_sameOutside {q : Question} {slots : List SlotId} {A B : AnswerStore}
    (same : AnswerStore.SameOutside slots A B) (apart : ∀ s ∈ q.nonExclusiveAnswers, s.id ∉ slots) :
    q.othersAnswered B = q.othersAnswered A := by
  have pointwise : ∀ s ∈ q.nonExclusiveAnswers, B.contains s.id = A.contains s.id :=
    fun s member => by rw [contains_eq_isSome, contains_eq_isSome, same s.id (apart s member)]
  rw [Bool.eq_iff_iff]
  simp only [othersAnswered, List.any_eq_true]
  exact ⟨fun ⟨s, member, held⟩ => ⟨s, member, pointwise s member ▸ held⟩,
    fun ⟨s, member, held⟩ => ⟨s, member, (pointwise s member).symm ▸ held⟩⟩

/-- The exclusive flag reads only the exclusive slot. -/
theorem exclusiveAnswered_eq_of_sameOutside {q : Question} {slots : List SlotId} {A B : AnswerStore}
    (same : AnswerStore.SameOutside slots A B)
    (apart : ∀ x, q.exclusiveAnswer? = some x → x.id ∉ slots) :
    q.exclusiveAnswered B = q.exclusiveAnswered A := by
  unfold exclusiveAnswered
  cases found : q.exclusiveAnswer? with
  | none => rfl
  | some x =>
    simp only [Option.any_some, contains_eq_isSome, same x.id (apart x found)]

/-- Clearing a list of slots empties each of them and leaves the others alone. -/
theorem clearAll_get? (entry : Entry) (slots : List AnswerSlot) (slot : SlotId) :
    (clearAll entry slots).2.answers.get? slot =
      if slot ∈ slots.map (·.id) then none else entry.answers.get? slot := by
  induction slots generalizing entry with
  | nil => simp [clearAll]
  | cons s rest ih =>
    simp only [clearAll, ih, List.map_cons, List.mem_cons, AnswerStore.get?_clear]
    by_cases here : slot = s.id <;> by_cases later : slot ∈ rest.map (·.id) <;> simp [here, later]

/-- A list of at most one element holds at most one value. -/
private theorem eq_of_mem_of_length_le_one {l : List AnswerSlot} (short : l.length ≤ 1)
    {a b : AnswerSlot} (ha : a ∈ l) (hb : b ∈ l) : a = b := by
  rcases l with _ | ⟨c, _ | ⟨d, rest⟩⟩
  · simp at ha
  · rw [List.mem_singleton] at ha hb
    rw [ha, hb]
  · simp at short

section Grouped

variable {q : Question} (grouped : q.Grouped)
include grouped

/-- An exclusive slot of the question is its exclusive slot. -/
theorem Grouped.exclusiveAnswer?_eq {x : AnswerSlot} (member : x ∈ q.answers)
    (exclusive : x.kind.isExclusive = true) : q.exclusiveAnswer? = some x := by
  obtain ⟨y, found⟩ : ∃ y, q.answers.find? (·.kind.isExclusive) = some y :=
    Option.isSome_iff_exists.mp (List.find?_isSome.mpr ⟨x, member, exclusive⟩)
  have first : y ∈ q.answers.filter (·.kind.isExclusive) :=
    have exclusive := List.find?_some found
    List.mem_filter.mpr ⟨List.mem_of_find?_eq_some found, exclusive⟩
  have second : x ∈ q.answers.filter (·.kind.isExclusive) :=
    List.mem_filter.mpr ⟨member, exclusive⟩
  rw [exclusiveAnswer?, found, eq_of_mem_of_length_le_one grouped.exclusive_le_one first second]

/-- Slots of the question on opposite sides of the group have different ids. -/
theorem Grouped.id_ne {x y : AnswerSlot} (hx : x ∈ q.answers) (hy : y ∈ q.answers)
    (sides : x.kind.isExclusive ≠ y.kind.isExclusive) : x.id ≠ y.id := fun same =>
  sides (congrArg (·.kind.isExclusive) (List.inj_on_of_nodup_map grouped.ids_nodup hx hy same))

/-- No other slot has the id of the exclusive one. -/
theorem Grouped.exclusive_not_other {x : AnswerSlot} (found : q.exclusiveAnswer? = some x) :
    ∀ s ∈ q.nonExclusiveAnswers, s.id ∉ [x.id] := by
  intro s member same
  have other := List.mem_filter.mp member
  have first : q.answers.find? (fun s => s.kind.isExclusive) = some x := found
  have exclusive := List.find?_some first
  refine grouped.id_ne (List.mem_of_find?_eq_some found) other.1 ?_ (List.mem_singleton.mp same).symm
  simp_all

/-- An edit of the exclusive slot leaves the other flag alone. -/
theorem Grouped.othersAnswered_of_exclusive {x : AnswerSlot} (found : q.exclusiveAnswer? = some x)
    {A B : AnswerStore} (same : AnswerStore.SameOutside [x.id] A B) :
    q.othersAnswered B = q.othersAnswered A :=
  othersAnswered_eq_of_sameOutside same (grouped.exclusive_not_other found)

/-- An edit of another slot leaves the exclusive flag alone. -/
theorem Grouped.exclusiveAnswered_of_other {t : AnswerSlot} (member : t ∈ q.answers)
    (other : t.kind.isExclusive = false) {A B : AnswerStore}
    (same : AnswerStore.SameOutside [t.id] A B) :
    q.exclusiveAnswered B = q.exclusiveAnswered A := by
  refine exclusiveAnswered_eq_of_sameOutside same fun x found same => ?_
  have exclusive := List.find?_some found
  refine grouped.id_ne (List.mem_of_find?_eq_some found) member ?_ (List.mem_singleton.mp same)
  simp_all

/-- **An edit moves the flags as its event says.** -/
theorem editStep_moves {target : AnswerSlot} {edit : Edit} {phase : EditPhase} {entry entry' : Entry}
    {event : GroupEvent} (member : target ∈ q.answers)
    (ok : q.editStep target edit phase entry = .ok (event, entry')) :
    event.Moves (q.flags entry.answers) (q.flags entry'.answers) := by
  have own : target.id ∈ [target.id] := List.mem_singleton_self _
  have otherMember (other : target.kind.isExclusive = false) : target ∈ q.nonExclusiveAnswers :=
    List.mem_filter.mpr ⟨member, by simp [other]⟩
  rcases editStep_eq_ok ok with
    ⟨exclusive, ⟨value, old, answers, -, stored, rfl, rfl⟩ | ⟨-, rfl, rfl⟩⟩ |
      ⟨other, ⟨-, -, rfl, rfl⟩ | ⟨value, old, answers, -, -, stored, rfl, rfl⟩ | ⟨-, -, rfl, rfl⟩⟩
  · -- Setting the exclusive slot sets its flag.
    have found := grouped.exclusiveAnswer?_eq member exclusive
    have kept := grouped.othersAnswered_of_exclusive found (AnswerStore.SameOutside.of_set stored own)
    simp [GroupEvent.Moves, flags, exclusiveAnswered, found, kept, contains_eq_isSome,
      AnswerStore.get?_set_of_ok stored]
  · -- Clearing it clears its flag.
    have found := grouped.exclusiveAnswer?_eq member exclusive
    have kept := grouped.othersAnswered_of_exclusive found
      (AnswerStore.SameOutside.of_clear entry.answers own)
    have gone : (entry.answers.clear target.id).2.contains target.id = false := by
      simp [contains_eq_isSome]
    simp [GroupEvent.Moves, flags, exclusiveAnswered, found, kept, gone]
  · simp [GroupEvent.Moves, flags]
  · -- Committing another slot sets the other flag.
    have kept := grouped.exclusiveAnswered_of_other member other
      (AnswerStore.SameOutside.of_set stored own)
    have answered : q.othersAnswered answers = true :=
      List.any_eq_true.mpr ⟨target, otherMember other, by
        simp [contains_eq_isSome, AnswerStore.get?_set_of_ok stored]⟩
    simp [GroupEvent.Moves, flags, kept, answered]
  · -- Clearing another slot leaves another answer only where there was one.
    have kept := grouped.exclusiveAnswered_of_other member other
      (AnswerStore.SameOutside.of_clear entry.answers own)
    refine ⟨by simp [flags, kept], fun remains => ?_⟩
    obtain ⟨s, sMember, held⟩ := List.any_eq_true.mp remains
    refine List.any_eq_true.mpr ⟨s, sMember, ?_⟩
    by_cases same : s.id = target.id <;> simp_all [contains_eq_isSome]

/-- **A transition's effect does to the flags what the machine says.** -/
theorem perform_flags (effect : Effect) (entry : Entry) :
    q.flags (q.perform effect entry).2.answers = effect.apply (q.flags entry.answers) := by
  cases effect with
  | keep => rfl
  | clearOthers =>
    -- Every other slot is cleared; the exclusive one is not among them.
    have othersGone : q.othersAnswered (q.perform .clearOthers entry).2.answers = false := by
      refine List.any_eq_false.mpr fun s member => ?_
      have listed : s.id ∈ q.nonExclusiveAnswers.map (·.id) := List.mem_map_of_mem member
      simp [perform, contains_eq_isSome, clearAll_get?, listed]
    have kept : q.exclusiveAnswered (q.perform .clearOthers entry).2.answers =
        q.exclusiveAnswered entry.answers := by
      refine exclusiveAnswered_eq_of_sameOutside (clearAll_sameOutside entry _) fun x found listed => ?_
      obtain ⟨s, member, same⟩ := List.mem_map.mp listed
      exact grouped.exclusive_not_other found s member (List.mem_singleton.mpr same)
    simp [flags, Effect.apply, othersGone, kept]
  | clearExclusive =>
    cases found : q.exclusiveAnswer? with
    | none =>
      have unanswered : q.exclusiveAnswered entry.answers = false := by
        simp [exclusiveAnswered, found]
      simp [perform, found, flags, Effect.apply, unanswered]
    | some x =>
      -- The exclusive slot is cleared; the others keep their answers.
      have own : x.id ∈ [x.id] := List.mem_singleton_self _
      have kept := grouped.othersAnswered_of_exclusive found
        (AnswerStore.SameOutside.of_clear entry.answers own)
      simp [perform, found, flags, Effect.apply, exclusiveAnswered, contains_eq_isSome, kept]

/-- **A successful edit keeps the group on one side and reports the state read after it.** -/
theorem applyEdit_oneSide {slot : SlotId} {edit : Edit} {phase : EditPhase} {entry entry' : Entry}
    {applied : Applied} (apart : q.OneSide entry.answers)
    (ok : q.applyEdit slot edit phase entry = .ok (applied, entry')) :
    q.OneSide entry'.answers ∧ applied.state = q.groupState entry'.answers := by
  obtain ⟨target, event, mid, found, stepped, rfl, rfl⟩ := applyEdit_eq_ok ok
  have moved := editStep_moves grouped (answer?_mem found) stepped
  obtain ⟨stillApart, named⟩ := transition_observe apart moved
  simp only [OneSide, groupState_eq_observe, perform_flags grouped]
  exact ⟨stillApart, named⟩

/-- Committing a draft keeps the group on one side and reports the state read after it. -/
theorem commitDraft_oneSide {slot : SlotId} {entry entry' : Entry} {applied : Option Applied}
    (apart : q.OneSide entry.answers) (ok : q.commitDraft slot entry = .ok (applied, entry')) :
    q.OneSide entry'.answers ∧ ∀ a, applied = some a → a.state = q.groupState entry'.answers := by
  rcases commitDraft_eq_ok ok with ⟨-, rfl, rfl⟩ | ⟨change, a, -, rfl, edited⟩
  · exact ⟨apart, fun a none => by simp at none⟩
  · obtain ⟨stillApart, named⟩ := applyEdit_oneSide grouped apart edited
    exact ⟨stillApart, fun a' same => by simpa [← Option.some.inj same] using named⟩

/-- What one side means slot by slot: while the group is on one side, an answered exclusive
slot leaves every other slot of the question unanswered. -/
theorem Grouped.unanswered_of_oneSide {answers : AnswerStore} (apart : q.OneSide answers)
    {x y : AnswerSlot} (hx : x ∈ q.answers) (exclusive : x.kind.isExclusive = true)
    (held : answers.contains x.id = true) (hy : y ∈ q.answers) (other : y.kind.isExclusive = false) :
    answers.contains y.id = false := by
  have answered : q.exclusiveAnswered answers = true := by
    simp [exclusiveAnswered, grouped.exclusiveAnswer?_eq hx exclusive, held]
  have othersEmpty : q.othersAnswered answers = false := apart answered
  exact Bool.eq_false_iff.mpr
    (List.any_eq_false.mp othersEmpty y (List.mem_filter.mpr ⟨hy, by simp [other]⟩))

end Grouped

/-! ### Questions of one profile -/

/-- A question's slots as its group sees them: each id, and whether the slot is exclusive. -/
def profile (q : Question) : List (SlotId × Bool) := q.answers.map fun s => (s.id, s.kind.isExclusive)

section Profile

variable {q q' : Question} (same : q'.profile = q.profile)
include same

theorem slotIds_eq_of_profile : q'.slotIds = q.slotIds := by
  have ids := congrArg (List.map Prod.fst) same
  simpa [profile, slotIds, Function.comp_def] using ids

/-- The flags read only ids and exclusivity. -/
theorem flags_eq_of_profile (answers : AnswerStore) : q'.flags answers = q.flags answers := by
  have exclusiveIds : ∀ r : Question,
      r.exclusiveAnswer?.map (·.id) = (r.profile.find? (·.2)).map (·.1) := fun r => by
    simp [exclusiveAnswer?, profile, List.find?_map, Option.map_map, Function.comp_def]
  have otherIds : ∀ r : Question,
      r.nonExclusiveAnswers.map (·.id) = (r.profile.filter (!·.2)).map (·.1) := fun r => by
    simp [nonExclusiveAnswers, profile, List.filter_map, List.map_map, Function.comp_def]
  have exclusive : q'.exclusiveAnswered answers = q.exclusiveAnswered answers := by
    have mapped : q'.exclusiveAnswer?.map (·.id) = q.exclusiveAnswer?.map (·.id) := by
      rw [exclusiveIds, exclusiveIds, same]
    simp only [exclusiveAnswered]
    cases found : q.exclusiveAnswer? <;> cases found' : q'.exclusiveAnswer? <;>
      simp_all
  have others : q'.othersAnswered answers = q.othersAnswered answers := by
    have mapped : q'.nonExclusiveAnswers.map (·.id) = q.nonExclusiveAnswers.map (·.id) := by
      rw [otherIds, otherIds, same]
    have viaIds : ∀ r : Question,
        r.othersAnswered answers = (r.nonExclusiveAnswers.map (·.id)).any answers.contains :=
      fun r => by simp [othersAnswered, List.any_map, Function.comp_def]
    rw [viaIds, viaIds, mapped]
  simp [flags, exclusive, others]

theorem oneSide_iff_of_profile (answers : AnswerStore) : q'.OneSide answers ↔ q.OneSide answers := by
  simp only [OneSide, flags_eq_of_profile same]

/-- Distinct ids and a single exclusive slot are facts of the profile. -/
theorem Grouped.of_profile (grouped : q.Grouped) : q'.Grouped := by
  have exclusiveCount : ∀ r : Question, (r.answers.filter (·.kind.isExclusive)).length =
      (r.profile.filter (·.2)).length := fun r => by
    simp [profile, List.filter_map, Function.comp_def]
  refine ⟨slotIds_eq_of_profile same ▸ grouped.ids_nodup, ?_⟩
  rw [exclusiveCount, same, ← exclusiveCount]
  exact grouped.exclusive_le_one

end Profile

end Question

end Survey
