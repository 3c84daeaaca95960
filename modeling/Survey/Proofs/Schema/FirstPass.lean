import Mathlib
import Survey.Schema.Questionnaire

/-!
# What the first pass of the schema check records

`Questionnaire.ofDefinition` first walks the sections and blocks in order, building in a `Seen`
record the indexes of every id met so far; for each slot, the position it was first declared
at, whose place is its section, block and question (the question a variant replaces, for a
variant's slot). This module reads off what a successful pass guarantees:

* `Seen.Extends` — a later record keeps every place of an earlier one;
* `checkBlock_ok` — a block that passes has questions, and every slot of its questions and
  variants recorded at its own section, block and question index (`BlockPlaced`);
* `checkSections_ok` — after the whole pass every section has blocks and every block has its
  slots placed at its coordinates.

Each check is an `Except` computation; `except_bind_eq_ok` takes a successful `do` block apart.
-/

namespace Survey

/-- A successful bind is a successful first step followed by a successful rest. -/
theorem except_bind_eq_ok {ε α β : Type} {x : Except ε α} {f : α → Except ε β} {r : β} :
    Except.bind x f = .ok r ↔ ∃ a, x = .ok a ∧ f a = .ok r := by
  cases x <;> simp [Except.bind]

@[simp] theorem except_throw_ne_ok {ε α : Type} {e : ε} {a : α} : (throw e : Except ε α) ≠ .ok a := by
  simp [throw, throwThe, MonadExceptOf.throw]

@[simp] theorem except_throw_bind {ε α β : Type} {e : ε} {f : α → Except ε β} :
    Except.bind (throw e) f = throw e := rfl

@[simp] theorem except_pure_bind {ε α β : Type} {a : α} {f : α → Except ε β} :
    Except.bind (pure a) f = f a := rfl

@[simp] theorem except_pure_eq_ok {ε α : Type} {a b : α} : (pure a : Except ε α) = .ok b ↔ a = b := by
  simp [pure, Except.pure]

namespace Seen

/-- `later` keeps every slot place recorded in `earlier`. -/
def Extends (earlier later : Seen) : Prop :=
  ∀ slot place, earlier.slotPlace? slot = some place → later.slotPlace? slot = some place

theorem Extends.refl (seen : Seen) : seen.Extends seen := fun _ _ => id

theorem Extends.trans {a b c : Seen} (first : a.Extends b) (second : b.Extends c) :
    a.Extends c :=
  fun slot place recorded => second slot place (first slot place recorded)

/-- Recording a slot keeps the earlier places and places the new slot if it had none. -/
theorem slotPlace?_push (seen : Seen) (slot other : SlotId) (position : SlotPosition) :
    ({ seen with slots := seen.slots ++ [(slot, position)] } : Seen).slotPlace? other =
      (seen.slotPlace? other).or (if slot = other then some position.place else none) := by
  unfold slotPlace?
  rw [List.lookup_append]
  cases seen.slots.lookup other with
  | some entry => rfl
  | none =>
    by_cases same : slot = other
    · subst same
      simp
    · have differ : (other == slot) = false := beq_eq_false_iff_ne.mpr (Ne.symm same)
      simp [List.lookup_cons, same, differ]

theorem extends_push (seen : Seen) (slot : SlotId) (position : SlotPosition) :
    seen.Extends { seen with slots := seen.slots ++ [(slot, position)] } := by
  intro other p recorded
  rw [slotPlace?_push, recorded]
  rfl

theorem slotPlace?_push_self (seen : Seen) (slot : SlotId) (position : SlotPosition)
    (fresh : seen.slotPlace? slot = none) :
    ({ seen with slots := seen.slots ++ [(slot, position)] } : Seen).slotPlace? slot =
      some position.place := by
  rw [slotPlace?_push, fresh]
  simp

end Seen

/-! ### Slots of one question -/

/-- An element of a list is paired with its index. -/
theorem exists_mem_zipIdx {α : Type} {l : List α} {a : α} (member : a ∈ l) :
    ∃ i, (a, i) ∈ l.zipIdx :=
  let ⟨i, at_⟩ := List.getElem?_of_mem member
  ⟨i, List.mem_zipIdx_iff_getElem?.mpr at_⟩

theorem map_zipIdx_fst {α β : Type} (f : α → β) (l : List α) (n : Nat) :
    (l.zipIdx n).map (fun e => f e.1) = l.map f := by
  rw [show (fun e : α × Nat => f e.1) = f ∘ Prod.fst from rfl, ← List.map_map, List.zipIdx_map_fst]

section Slots

variable {place : SlotPlace}

/-- A question's own slots, once recorded, are all at the question's place; a slot seen before
is refused, so the slot ids of a question are all different. -/
theorem addQuestionSlots_ok {seen seen' : Seen} {slots : List (AnswerSlot × Nat)}
    (ok : addQuestionSlots place seen slots = .ok seen') :
    seen.Extends seen' ∧ (∀ e ∈ slots, seen'.slotPlace? e.1.id = some place) ∧
      (slots.map (·.1.id)).Nodup ∧ ∀ e ∈ slots, seen.slotPlace? e.1.id = none := by
  induction slots generalizing seen with
  | nil =>
    simp only [addQuestionSlots, except_pure_eq_ok] at ok
    subst ok
    simp [Seen.Extends.refl]
  | cons e rest ih =>
    obtain ⟨s, a⟩ := e
    simp only [addQuestionSlots] at ok
    split at ok
    · simp at ok
    next fresh =>
      have fresh : seen.slotPlace? s.id = none := by simpa using fresh
      have recorded := Seen.slotPlace?_push_self seen s.id ⟨place, none, a⟩ fresh
      obtain ⟨grows, placed, distinct, unseen⟩ := ih ok
      refine ⟨(Seen.extends_push seen s.id _).trans grows, ?_, ?_, ?_⟩
      · intro t member
        rcases List.mem_cons.mp member with rfl | member
        · exact grows _ _ recorded
        · exact placed t member
      · refine List.nodup_cons.mpr ⟨fun again => ?_, distinct⟩
        obtain ⟨t, member, same⟩ := List.mem_map.mp again
        have := unseen t member
        rw [same, recorded] at this
        cases this
      · intro t member
        rcases List.mem_cons.mp member with rfl | member
        · exact fresh
        · have := unseen t member
          rw [Seen.slotPlace?_push] at this
          simp only [Option.or_eq_none_iff] at this
          exact this.1

/-- A variant's slots, once recorded, are all at the place of the question it replaces. -/
theorem addVariantSlots_ok {variant : Nat} {seen seen' : Seen} {slots : List (AnswerSlot × Nat)}
    (ok : addVariantSlots place variant seen slots = .ok seen') :
    seen.Extends seen' ∧ ∀ e ∈ slots, seen'.slotPlace? e.1.id = some place := by
  induction slots generalizing seen with
  | nil =>
    simp only [addVariantSlots, except_pure_eq_ok] at ok
    subst ok
    simp [Seen.Extends.refl]
  | cons e rest ih =>
    obtain ⟨s, a⟩ := e
    simp only [addVariantSlots] at ok
    split at ok
    next p recorded =>
      split at ok
      next same =>
        obtain ⟨grows, placed⟩ := ih ok
        refine ⟨grows, fun t member => ?_⟩
        rcases List.mem_cons.mp member with rfl | member
        · have : p = place := by simpa using same
          exact grows _ _ (this ▸ recorded)
        · exact placed t member
      · simp at ok
    next fresh =>
      obtain ⟨grows, placed⟩ := ih ok
      refine ⟨(Seen.extends_push seen s.id _).trans grows, fun t member => ?_⟩
      rcases List.mem_cons.mp member with rfl | member
      · exact grows _ _ (Seen.slotPlace?_push_self seen s.id ⟨place, some variant, a⟩ fresh)
      · exact placed t member

end Slots

/-! ### Questions, variants and blocks -/

/-- What the first pass records of the block `b` at position `bi` of section `si`: each of its
questions passes its own checks, has slots with different ids, all placed at the question's
index; each variant replaces a question of the block and has its slots placed at that
question's index. -/
structure BlockPlaced (seen : Seen) (si bi : Nat) (b : Block) : Prop where
  questions : ∀ q i, (q, i) ∈ b.questions.zipIdx → checkQuestion q = .ok () ∧
    (q.answers.map (·.id)).Nodup ∧ ∀ s ∈ q.answers, seen.slotPlace? s.id = some ⟨si, bi, i⟩
  variants : ∀ v ∈ b.questionVariants, checkQuestion v.question = .ok () ∧
    ∃ i, b.questions.findIdx? (·.id == v.question.id) = some i ∧
      ∀ s ∈ v.question.answers, seen.slotPlace? s.id = some ⟨si, bi, i⟩

theorem BlockPlaced.mono {seen seen' : Seen} {si bi : Nat} {b : Block}
    (placed : BlockPlaced seen si bi b) (grows : seen.Extends seen') : BlockPlaced seen' si bi b where
  questions q i member :=
    let ⟨checked, distinct, at_⟩ := placed.questions q i member
    ⟨checked, distinct, fun s slot => grows _ _ (at_ s slot)⟩
  variants v member :=
    let ⟨checked, i, index, at_⟩ := placed.variants v member
    ⟨checked, i, index, fun s slot => grows _ _ (at_ s slot)⟩

section Block

variable {si bi : Nat}

theorem checkQuestions_ok {seen seen' : Seen} {questions : List (Question × Nat)}
    (ok : checkQuestions si bi seen questions = .ok seen') :
    seen.Extends seen' ∧ ∀ q i, (q, i) ∈ questions → checkQuestion q = .ok () ∧ (q.answers.map (·.id)).Nodup ∧
        ∀ s ∈ q.answers, seen'.slotPlace? s.id = some ⟨si, bi, i⟩ := by
  induction questions generalizing seen with
  | nil =>
    simp only [checkQuestions, except_pure_eq_ok] at ok
    subst ok
    simp [Seen.Extends.refl]
  | cons entry rest ih =>
    obtain ⟨q, i⟩ := entry
    simp only [checkQuestions, bind] at ok
    split at ok
    · simp at ok
    simp only [except_bind_eq_ok] at ok
    obtain ⟨_, checked, added, slotsOk, restOk⟩ := ok
    obtain ⟨grows, placed, distinct, -⟩ := addQuestionSlots_ok slotsOk
    obtain ⟨growsRest, later⟩ := ih restOk
    refine ⟨fun slot p recorded => growsRest _ _ (grows _ _ recorded), fun q' i' member => ?_⟩
    rcases List.mem_cons.mp member with same | member
    · obtain ⟨rfl, rfl⟩ := Prod.mk.inj same
      refine ⟨checked, by simpa only [map_zipIdx_fst] using distinct, fun s slot => ?_⟩
      obtain ⟨a, answer⟩ := exists_mem_zipIdx slot
      exact growsRest _ _ (placed (s, a) answer)
    · exact later q' i' member

theorem checkVariants_ok {b : Block} {seen seen' : Seen} {variants : List (QuestionVariant × Nat)}
    (ok : checkVariants si bi b seen variants = .ok seen') :
    seen.Extends seen' ∧ ∀ e ∈ variants, checkQuestion e.1.question = .ok () ∧
        ∃ i, b.questions.findIdx? (·.id == e.1.question.id) = some i ∧
          ∀ s ∈ e.1.question.answers, seen'.slotPlace? s.id = some ⟨si, bi, i⟩ := by
  induction variants generalizing seen with
  | nil =>
    simp only [checkVariants, except_pure_eq_ok] at ok
    subst ok
    simp [Seen.Extends.refl]
  | cons e rest ih =>
    obtain ⟨v, variant⟩ := e
    simp only [checkVariants, bind] at ok
    split at ok
    next i found =>
      simp only [except_pure_bind, except_bind_eq_ok] at ok
      obtain ⟨_, checked, added, slotsOk, restOk⟩ := ok
      obtain ⟨grows, placed⟩ := addVariantSlots_ok slotsOk
      obtain ⟨growsRest, later⟩ := ih restOk
      refine ⟨fun slot p recorded => growsRest _ _ (grows _ _ recorded), fun e member => ?_⟩
      rcases List.mem_cons.mp member with rfl | member
      · refine ⟨checked, i, found, fun s slot => ?_⟩
        obtain ⟨a, answer⟩ := exists_mem_zipIdx slot
        exact growsRest _ _ (placed (s, a) answer)
      · exact later e member
    · simp at ok

theorem addRules_ok {position : BlockPosition} {seen seen' : Seen}
    {rules : List (CalculatedRule × Nat)} (ok : addRules position seen rules = .ok seen') :
    seen'.slots = seen.slots := by
  induction rules generalizing seen with
  | nil =>
    simp only [addRules, except_pure_eq_ok] at ok
    subst ok
    rfl
  | cons r rest ih =>
    simp only [addRules] at ok
    split at ok
    · simp at ok
    · exact (ih ok :)

/-- **A block that passes the first pass** has questions, and its slots are placed at its
coordinates. -/
theorem checkBlock_ok {sid : SectionId} {seen seen' : Seen} {b : Block}
    (ok : checkBlock sid si seen b bi = .ok seen') :
    b.questions ≠ [] ∧ seen.Extends seen' ∧ BlockPlaced seen' si bi b := by
  simp only [checkBlock, bind] at ok
  split at ok
  · simp at ok
  next nonempty =>
  split at ok
  · simp at ok
  simp only [except_bind_eq_ok] at ok
  obtain ⟨afterQuestions, questionsOk, afterVariants, variantsOk, rulesOk⟩ := ok
  obtain ⟨grows, questions⟩ := checkQuestions_ok questionsOk
  obtain ⟨growsVariants, variants⟩ := checkVariants_ok variantsOk
  have last : afterVariants.Extends seen' := fun slot p recorded => by
    simpa [Seen.slotPlace?, addRules_ok rulesOk] using recorded
  refine ⟨by simpa using nonempty, ?_, ?_⟩
  · exact fun slot p recorded => last _ _ (growsVariants _ _ (grows _ _ recorded))
  · refine BlockPlaced.mono ⟨fun q i member => ?_, fun v variant => ?_⟩ last
    · obtain ⟨checked, distinct, placed⟩ := questions q i member
      exact ⟨checked, distinct, fun s slot => growsVariants _ _ (placed s slot)⟩
    · obtain ⟨i, at_⟩ := exists_mem_zipIdx variant
      exact variants (v, i) at_

/-- The blocks of a section, checked in order. -/
theorem checkBlocks_ok {sid : SectionId} {seen seen' : Seen} {blocks : List (Block × Nat)}
    (ok : blocks.foldlM (fun seen (b, i) => checkBlock sid si seen b i) seen = .ok seen') :
    seen.Extends seen' ∧ ∀ b i, (b, i) ∈ blocks → b.questions ≠ [] ∧ BlockPlaced seen' si i b := by
  induction blocks generalizing seen with
  | nil =>
    simp only [List.foldlM_nil, except_pure_eq_ok] at ok
    subst ok
    simp [Seen.Extends.refl]
  | cons entry rest ih =>
    obtain ⟨b, i⟩ := entry
    simp only [List.foldlM_cons, bind, except_bind_eq_ok] at ok
    obtain ⟨afterBlock, blockOk, restOk⟩ := ok
    obtain ⟨questions, grows, placed⟩ := checkBlock_ok blockOk
    obtain ⟨growsRest, later⟩ := ih restOk
    refine ⟨grows.trans growsRest, fun b' i' member => ?_⟩
    rcases List.mem_cons.mp member with same | member
    · obtain ⟨rfl, rfl⟩ := Prod.mk.inj same
      exact ⟨questions, placed.mono growsRest⟩
    · exact later b' i' member

end Block

/-- One section of the first pass: not empty, and its blocks checked in order. -/
theorem checkSection_ok {seen seen' : Seen} {sec : Section} {si : Nat}
    (ok : checkSection seen sec si = .ok seen') :
    sec.blocks ≠ [] ∧ seen.Extends seen' ∧
      ∀ b i, (b, i) ∈ sec.blocks.zipIdx → b.questions ≠ [] ∧ BlockPlaced seen' si i b := by
  simp only [checkSection, bind] at ok
  split at ok
  · simp at ok
  next nonempty =>
  split at ok
  · simp at ok
  obtain ⟨grows, placed⟩ := checkBlocks_ok ok
  exact ⟨by simpa using nonempty, grows, placed⟩

/-- The sections of a definition, checked in order. -/
theorem checkSections_ok {seen seen' : Seen} {sections : List (Section × Nat)}
    (ok : sections.foldlM (fun seen (s, i) => checkSection seen s i) seen = .ok seen') :
    seen.Extends seen' ∧ ∀ sec si, (sec, si) ∈ sections → sec.blocks ≠ [] ∧
        ∀ b i, (b, i) ∈ sec.blocks.zipIdx → b.questions ≠ [] ∧ BlockPlaced seen' si i b := by
  induction sections generalizing seen with
  | nil =>
    simp only [List.foldlM_nil, except_pure_eq_ok] at ok
    subst ok
    simp [Seen.Extends.refl]
  | cons entry rest ih =>
    obtain ⟨sec, si⟩ := entry
    simp only [List.foldlM_cons, bind, except_bind_eq_ok] at ok
    obtain ⟨afterSection, sectionOk, restOk⟩ := ok
    obtain ⟨nonempty, grows, placed⟩ := checkSection_ok sectionOk
    obtain ⟨growsRest, later⟩ := ih restOk
    refine ⟨grows.trans growsRest, fun sec' si' member => ?_⟩
    rcases List.mem_cons.mp member with same | member
    · obtain ⟨rfl, rfl⟩ := Prod.mk.inj same
      exact ⟨nonempty, fun b i member => ⟨(placed b i member).1,
        (placed b i member).2.mono growsRest⟩⟩
    · exact later sec' si' member

end Survey
