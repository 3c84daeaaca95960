import Mathlib
import Survey.Proofs.Schema.FirstPass

/-!
# When the first pass of the schema check passes

`Survey.Proofs.Schema.FirstPass` reads facts off a successful first pass. This module gives the
pass exactly: which ids it has seen after each check, and the conditions under which each
check succeeds.

* `Seen.Grows` — what a check adds to the record: locations, section, block, question and
  calculation entries with new keys, and slot declarations of which the record keeps each
  slot's first; over the whole pass these are the entries of every block placed in order
  (`checkSections_grows`).
* `checkQuestion_eq_ok`, `addQuestionSlots_eq_ok` — the question checks, exactly.
* `checkBlock_succeeds`, `checkSections_succeeds` — the pass succeeds over blocks that pass
  their own checks, with fresh ids, whose slots sit at places of a list `places` that gives
  each slot one place (`PlacesAgree`). Processing in order keeps every recorded slot at a
  place of `places` in a block already passed (`Seen.RecordedBefore`), so a question's own
  slot is never seen before and a variant's slot is seen only at the place of its question.
-/

namespace Survey

/-- A list grew by `new`, and holds no key twice if it held none twice before. -/
def IdsGrow {α : Type} (key : α → String) (before after new : List α) : Prop :=
  after = before ++ new ∧ ((before.map key).Nodup → (after.map key).Nodup)

namespace IdsGrow

variable {α : Type} {key : α → String} {a b c new more : List α}

theorem refl (l : List α) : IdsGrow key l l [] := ⟨by simp, id⟩

theorem trans (first : IdsGrow key a b new) (second : IdsGrow key b c more) :
    IdsGrow key a c (new ++ more) :=
  ⟨by rw [second.1, first.1, List.append_assoc], fun distinct => second.2 (first.2 distinct)⟩

/-- Adding an entry whose key is not held before. -/
theorem push {x : α} (fresh : key x ∉ a.map key) : IdsGrow key a (a ++ [x]) [x] := by
  refine ⟨rfl, fun distinct => ?_⟩
  rw [List.map_append, List.map_singleton]
  refine List.nodup_append.mpr ⟨distinct, List.nodup_singleton _, ?_⟩
  intro y held z single
  rw [List.mem_singleton.mp single]
  rintro rfl
  exact fresh held

end IdsGrow

/-! ### Keeping the first entry of a key -/

section AddFirst

variable {α : Type}

/-- Add an entry to a keyed list unless its key is there already: of the entries of one key,
the first is kept. -/
def addFirst (entries : List (String × α)) (entry : String × α) : List (String × α) :=
  if (entries.lookup entry.1).isSome then entries else entries ++ [entry]

theorem lookup_addFirst (entries : List (String × α)) (entry : String × α) (key : String) :
    (addFirst entries entry).lookup key = (entries ++ [entry]).lookup key := by
  obtain ⟨k, v⟩ := entry
  unfold addFirst
  split
  next present =>
    rw [List.lookup_append]
    by_cases same : key = k
    · obtain ⟨w, found⟩ := Option.isSome_iff_exists.mp present
      rw [same, found]
      rfl
    · have differ : (key == k) = false := beq_eq_false_iff_ne.mpr same
      cases entries.lookup key <;> simp [List.lookup, differ]
  next => rfl

/-- **Keeping the first entry of each key looks each key up as the entries do**: a key's value
is the one of its first entry. -/
theorem lookup_foldl_addFirst (entries start : List (String × α)) (key : String) :
    (entries.foldl addFirst start).lookup key = (start ++ entries).lookup key := by
  induction entries generalizing start with
  | nil => simp
  | cons e rest ih =>
    rw [List.foldl_cons, ih, List.lookup_append, lookup_addFirst, ← List.lookup_append,
      List.append_assoc, List.singleton_append]

end AddFirst

/-- A key's value is one of the entries. -/
theorem mem_of_lookup_eq_some {α : Type} {l : List (String × α)} {k : String} {v : α}
    (found : l.lookup k = some v) : (k, v) ∈ l := by
  obtain ⟨l₁, l₂, rfl, -⟩ := List.lookup_eq_some_iff.mp found
  simp

/-- A key has a value exactly when some entry has it. -/
theorem lookup_isSome_iff_mem {α : Type} {l : List (String × α)} {k : String} :
    (l.lookup k).isSome ↔ k ∈ l.map Prod.fst := by
  rw [List.lookup_isSome_iff, List.mem_map]
  constructor
  · rintro ⟨p, member, same⟩
    exact ⟨p, member, (beq_iff_eq.mp same).symm⟩
  · rintro ⟨p, member, rfl⟩
    exact ⟨p, member, beq_self_eq_true _⟩

/-! ### What the first pass records -/

/-- A block's calculations, each with its id, the block's position and its index. -/
def Block.ruleEntries (b : Block) (position : BlockPosition) : List (RuleId × BlockPosition × Nat) :=
  b.calculations.zipIdx.map fun e => (e.1.id, position, e.2)

@[simp] theorem Block.ruleEntries_keys (b : Block) (position : BlockPosition) :
    (b.ruleEntries position).map Prod.fst = b.calculations.map (·.id) := by
  rw [Block.ruleEntries, List.map_map]
  exact map_zipIdx_fst (·.id) b.calculations 0

/-- The slot declarations of questions in block `bi` of section `si`, each at its question's
place, with its index among the answers. -/
def questionSlotEntries (si bi : Nat) (questions : List (Question × Nat)) :
    List (SlotId × SlotPosition) :=
  questions.flatMap fun q => q.1.answers.zipIdx.map fun e => (e.1.id, ⟨⟨si, bi, q.2⟩, none, e.2⟩)

/-- The slot declarations of variants of the block `b`, in block `bi` of section `si`, each at
the place of the question its variant replaces, with the variant's index and its index among
the answers. -/
def variantSlotEntries (si bi : Nat) (b : Block) (variants : List (QuestionVariant × Nat)) :
    List (SlotId × SlotPosition) :=
  variants.flatMap fun v => (b.questions.findIdx? (·.id == v.1.question.id)).toList.flatMap
    fun i => v.1.question.answers.zipIdx.map fun e => (e.1.id, ⟨⟨si, bi, i⟩, some v.2, e.2⟩)

/-- Every slot declaration of the block `b` at position `bi` of section `si`, in the order the
first pass meets them: the own questions' slots, then the variants'. -/
def Block.slotEntries (b : Block) (si bi : Nat) : List (SlotId × SlotPosition) :=
  questionSlotEntries si bi b.questions.zipIdx ++ variantSlotEntries si bi b b.questionVariants.zipIdx

/-- Blocks with the indices of their section and of their place there, placed in the order of
all blocks from `order` on. -/
def placeFrom : Nat → List (Block × Nat × Nat) → List (Block × BlockPosition)
  | _, [] => []
  | order, (b, si, bi) :: rest => (b, ⟨si, bi, order⟩) :: placeFrom (order + 1) rest

theorem placeFrom_append (order : Nat) (first rest : List (Block × Nat × Nat)) :
    placeFrom order (first ++ rest) = placeFrom order first ++ placeFrom (order + first.length) rest := by
  induction first generalizing order with
  | nil => rfl
  | cons e first ih =>
    obtain ⟨b, si, bi⟩ := e
    simp only [List.cons_append, placeFrom, ih, List.length_cons]
    rw [Nat.add_assoc, Nat.add_comm 1]

theorem getElem?_placeFrom (order : Nat) (positions : List (Block × Nat × Nat)) (k : Nat) :
    (placeFrom order positions)[k]? =
      positions[k]?.map fun e => (e.1, ⟨e.2.1, e.2.2, order + k⟩) := by
  induction positions generalizing order k with
  | nil => rfl
  | cons e rest ih =>
    obtain ⟨b, si, bi⟩ := e
    cases k with
    | zero => rfl
    | succ k =>
      simp only [placeFrom, List.getElem?_cons_succ, ih]
      rw [Nat.add_assoc, Nat.add_comm 1]

/-- The blocks at positions numbered from `start`, each in section `si`. -/
theorem map_fst_positions {α : Type} (l : List α) (start si : Nat) :
    ((l.zipIdx start).map fun e => (e.1, si, e.2)).map Prod.fst = l := by
  rw [List.map_map]
  exact List.zipIdx_map_fst _ _

/-- Placing blocks keeps them in order. -/
theorem map_fst_placeFrom (order : Nat) (positions : List (Block × Nat × Nat)) :
    (placeFrom order positions).map Prod.fst = positions.map Prod.fst := by
  induction positions generalizing order with
  | nil => rfl
  | cons e rest ih =>
    obtain ⟨b, si, bi⟩ := e
    simp only [placeFrom, List.map_cons, ih]

/-- The block index entries of placed blocks. -/
def placedBlockEntries (placed : List (Block × BlockPosition)) : List (BlockId × BlockPosition) :=
  placed.map fun e => (e.1.id, e.2)

/-- The calculation index entries of placed blocks. -/
def placedRuleEntries (placed : List (Block × BlockPosition)) :
    List (RuleId × BlockPosition × Nat) :=
  placed.flatMap fun e => e.1.ruleEntries e.2

theorem placedBlockEntries_keys (placed : List (Block × BlockPosition)) :
    (placedBlockEntries placed).map Prod.fst = (placed.map Prod.fst).map (·.id) := by
  simp only [placedBlockEntries, List.map_map]
  rfl

theorem placedRuleEntries_keys (placed : List (Block × BlockPosition)) :
    (placedRuleEntries placed).map Prod.fst =
      ((placed.map Prod.fst).flatMap (·.calculations)).map (·.id) := by
  induction placed with
  | nil => rfl
  | cons e rest ih =>
    simp only [placedRuleEntries, List.flatMap_cons, List.map_append, Block.ruleEntries_keys,
      List.map_cons] at ih ⊢
    rw [ih]

/-- The slot declarations of placed blocks, in order. -/
def placedSlotEntries (placed : List (Block × BlockPosition)) : List (SlotId × SlotPosition) :=
  placed.flatMap fun e => e.1.slotEntries e.2.sectionIndex e.2.blockIndex

namespace Seen

/-- What `seen'` holds beyond `seen`: the locations `order` after its own, the section, block,
question and calculation entries given, each key new, and the slot declarations `slots` met,
of which it keeps each slot's first. -/
structure Grows (seen seen' : Seen) (order : List Location) (sections : List (SectionId × Nat))
    (blocks : List (BlockId × BlockPosition)) (questions : List QuestionId)
    (rules : List (RuleId × BlockPosition × Nat)) (slots : List (SlotId × SlotPosition)) :
    Prop where
  order : seen'.order = seen.order ++ order
  sections : IdsGrow Prod.fst seen.sections seen'.sections sections
  blocks : IdsGrow Prod.fst seen.blocks seen'.blocks blocks
  questions : IdsGrow id seen.questions seen'.questions questions
  rules : IdsGrow Prod.fst seen.rules seen'.rules rules
  slots : seen'.slots = slots.foldl addFirst seen.slots

namespace Grows

variable {seen seen' seen'' : Seen} {o o' : List Location} {s s' : List (SectionId × Nat)}
  {b b' : List (BlockId × BlockPosition)} {q q' : List QuestionId}
  {r r' : List (RuleId × BlockPosition × Nat)} {x x' : List (SlotId × SlotPosition)}

theorem refl (seen : Seen) : seen.Grows seen [] [] [] [] [] [] :=
  ⟨by simp, .refl _, .refl _, .refl _, .refl _, rfl⟩

theorem trans (first : seen.Grows seen' o s b q r x) (second : seen'.Grows seen'' o' s' b' q' r' x') :
    seen.Grows seen'' (o ++ o') (s ++ s') (b ++ b') (q ++ q') (r ++ r') (x ++ x') :=
  ⟨by rw [second.order, first.order, List.append_assoc], first.sections.trans second.sections,
    first.blocks.trans second.blocks, first.questions.trans second.questions,
    first.rules.trans second.rules, by rw [second.slots, first.slots, List.foldl_append]⟩

end Grows

/-- Recording a slot not seen before adds its declaration. -/
theorem grows_pushSlot (seen : Seen) {slot : SlotId} {position : SlotPosition}
    (absent : seen.slotPlace? slot = none) :
    seen.Grows { seen with slots := seen.slots ++ [(slot, position)] } [] [] [] [] [] [(slot, position)] := by
  have absent : seen.slots.lookup slot = none := by simpa [slotPlace?] using absent
  exact ⟨by simp, .refl _, .refl _, .refl _, .refl _, by simp [addFirst, absent]⟩

/-- A slot seen before keeps its first declaration. -/
theorem grows_keepSlot (seen : Seen) {slot : SlotId} {position : SlotPosition}
    (present : (seen.slotPlace? slot).isSome) :
    seen.Grows seen [] [] [] [] [] [(slot, position)] := by
  have present : (seen.slots.lookup slot).isSome := by simpa [slotPlace?] using present
  exact ⟨by simp, .refl _, .refl _, .refl _, .refl _, by simp [addFirst, present]⟩

end Seen

/-! ### Questions and their slots -/

/-- **A question passes its own checks** exactly when it has a slot and at most one exclusive
slot. -/
theorem checkQuestion_eq_ok {q : Question} :
    checkQuestion q = .ok () ↔ q.answers ≠ [] ∧ (q.answers.filter (·.kind.isExclusive)).length ≤ 1 := by
  unfold checkQuestion
  by_cases empty : q.answers = []
  · simp [empty]
  · by_cases many : 1 < (q.answers.filter (·.kind.isExclusive)).length
    · simp [empty, many]
    · simp [empty, many, pure, Except.pure]
      omega

section Slots

variable {place : SlotPlace}

/-- **A question's slots are recorded** exactly when their ids are all different and none was
seen before; each is then recorded at the question's place, with its index. -/
theorem addQuestionSlots_eq_ok {seen seen' : Seen} {slots : List (AnswerSlot × Nat)} :
    addQuestionSlots place seen slots = .ok seen' ↔ (slots.map (·.1.id)).Nodup ∧
      (∀ e ∈ slots, seen.slotPlace? e.1.id = none) ∧
      seen' = { seen with slots := seen.slots ++ slots.map fun e => (e.1.id, ⟨place, none, e.2⟩) } := by
  induction slots generalizing seen with
  | nil =>
    simp only [addQuestionSlots, except_pure_eq_ok, List.map_nil, List.append_nil]
    simp [eq_comm]
  | cons e rest ih =>
    obtain ⟨s, a⟩ := e
    simp only [addQuestionSlots]
    split
    next seenBefore =>
      simp only [except_throw_ne_ok, false_iff]
      rintro ⟨-, unseen, -⟩
      simp [unseen (s, a) List.mem_cons_self] at seenBefore
    next fresh =>
      have fresh : seen.slotPlace? s.id = none := by simpa using fresh
      rw [ih]
      simp only [Seen.slotPlace?_push, Option.or_eq_none_iff, ite_eq_right_iff, List.map_cons,
        List.nodup_cons, List.mem_cons, forall_eq_or_imp, fresh, true_and, List.append_assoc,
        List.singleton_append, reduceCtorEq, imp_false, List.mem_map, not_exists, not_and]
      constructor
      · rintro ⟨distinct, unseen, rfl⟩
        exact ⟨⟨fun t member same => (unseen t member).2 same.symm, distinct⟩,
          fun t member => (unseen t member).1, rfl⟩
      · rintro ⟨⟨apart, distinct⟩, unseen, rfl⟩
        exact ⟨distinct, fun t member => ⟨unseen t member, fun same => apart t member same.symm⟩, rfl⟩

/-- Recording a question's slots adds their declarations, each new. -/
theorem addQuestionSlots_grows {seen seen' : Seen} {slots : List (AnswerSlot × Nat)}
    (ok : addQuestionSlots place seen slots = .ok seen') :
    seen.Grows seen' [] [] [] [] [] (slots.map fun e => (e.1.id, ⟨place, none, e.2⟩)) := by
  induction slots generalizing seen with
  | nil =>
    simp only [addQuestionSlots, except_pure_eq_ok] at ok
    subst ok
    exact .refl seen
  | cons e rest ih =>
    obtain ⟨s, a⟩ := e
    simp only [addQuestionSlots] at ok
    split at ok
    · simp at ok
    next fresh =>
      exact (Seen.grows_pushSlot seen (by simpa using fresh)).trans (ih ok)

/-- Recording a variant's slots meets their declarations, keeping each slot's first. -/
theorem addVariantSlots_grows {variant : Nat} {seen seen' : Seen} {slots : List (AnswerSlot × Nat)}
    (ok : addVariantSlots place variant seen slots = .ok seen') :
    seen.Grows seen' [] [] [] [] [] (slots.map fun e => (e.1.id, ⟨place, some variant, e.2⟩)) := by
  induction slots generalizing seen with
  | nil =>
    simp only [addVariantSlots, except_pure_eq_ok] at ok
    subst ok
    exact .refl seen
  | cons e rest ih =>
    obtain ⟨s, a⟩ := e
    simp only [addVariantSlots] at ok
    split at ok
    next p recorded =>
      split at ok
      · exact (Seen.grows_keepSlot seen (by simp [recorded])).trans (ih ok)
      · simp at ok
    next fresh => exact (Seen.grows_pushSlot seen fresh).trans (ih ok)

/-- **A variant's slots are recorded** when every one seen before was seen at the variant's
place; the slots recorded anew are the variant's, at that place. -/
theorem addVariantSlots_succeeds {variant : Nat} {seen : Seen} {slots : List (AnswerSlot × Nat)}
    (compatible : ∀ e ∈ slots, ∀ p, seen.slotPlace? e.1.id = some p → p = place) :
    ∃ seen', addVariantSlots place variant seen slots = .ok seen' ∧
      ∀ x p, seen'.slotPlace? x = some p → seen.slotPlace? x = some p ∨
        (x ∈ slots.map (·.1.id) ∧ p = place) := by
  induction slots generalizing seen with
  | nil => exact ⟨seen, rfl, fun x p recorded => .inl recorded⟩
  | cons e rest ih =>
    obtain ⟨s, a⟩ := e
    simp only [addVariantSlots]
    split
    next p recorded =>
      have same : p = place := compatible (s, a) List.mem_cons_self p recorded
      obtain ⟨seen', ok, within⟩ :=
        ih fun t member => compatible t (List.mem_cons_of_mem _ member)
      refine ⟨seen', by simpa [same] using ok, fun x p' recorded' => ?_⟩
      rcases within x p' recorded' with old | ⟨member, rfl⟩
      · exact .inl old
      · exact .inr ⟨List.mem_cons_of_mem _ member, rfl⟩
    next fresh =>
      -- After recording `s`, a slot of the rest seen before is `s` itself or seen earlier.
      have compatible' : ∀ t ∈ rest, ∀ p,
          ({ seen with slots := seen.slots ++ [(s.id, ⟨place, some variant, a⟩)] } : Seen).slotPlace?
            t.1.id = some p → p = place := by
        intro t member p recorded
        rw [Seen.slotPlace?_push] at recorded
        cases before : seen.slotPlace? t.1.id with
        | some p' =>
          rw [before, Option.some_or] at recorded
          exact compatible t (List.mem_cons_of_mem _ member) p (before.trans recorded)
        | none =>
          rw [before, Option.none_or] at recorded
          split at recorded
          · exact (Option.some.inj recorded).symm
          · cases recorded
      obtain ⟨seen', ok, within⟩ := ih compatible'
      refine ⟨seen', ok, fun x p recorded => ?_⟩
      rcases within x p recorded with old | ⟨member, rfl⟩
      · rw [Seen.slotPlace?_push] at old
        cases before : seen.slotPlace? x with
        | some p' =>
          rw [before, Option.some_or] at old
          exact .inl old
        | none =>
          rw [before] at old
          split at old
          next same => exact .inr ⟨by simp [← same], by simpa using old.symm⟩
          next => cases old
      · exact .inr ⟨List.mem_cons_of_mem _ member, rfl⟩

end Slots

/-! ### Where the slots go -/

/-- Where the first pass places the slots of the block `b` at position `bi` of section `si`:
each own question's slots at the question's index, each variant's slots at the index of the
question it replaces. -/
def Block.slotPlaces (b : Block) (si bi : Nat) : List (SlotId × SlotPlace) :=
  (b.questions.zipIdx.flatMap fun (q, i) => q.answers.map fun s => (s.id, ⟨si, bi, i⟩)) ++
    b.questionVariants.flatMap fun v =>
      (b.questions.findIdx? (·.id == v.question.id)).toList.flatMap fun i =>
        v.question.answers.map fun s => (s.id, ⟨si, bi, i⟩)

namespace Block

variable {b : Block} {si bi : Nat}

theorem mem_slotPlaces_of_question {q : Question} {i : Nat} (member : (q, i) ∈ b.questions.zipIdx)
    {s : AnswerSlot} (answer : s ∈ q.answers) : (s.id, ⟨si, bi, i⟩) ∈ b.slotPlaces si bi :=
  List.mem_append_left _ (List.mem_flatMap.mpr ⟨(q, i), member, List.mem_map_of_mem answer⟩)

theorem mem_slotPlaces_of_variant {v : QuestionVariant} (member : v ∈ b.questionVariants) {i : Nat}
    (found : b.questions.findIdx? (·.id == v.question.id) = some i) {s : AnswerSlot}
    (answer : s ∈ v.question.answers) : (s.id, ⟨si, bi, i⟩) ∈ b.slotPlaces si bi :=
  List.mem_append_right _ (List.mem_flatMap.mpr ⟨v, member, List.mem_flatMap.mpr
    ⟨i, by simp [found], List.mem_map_of_mem answer⟩⟩)

end Block

/-- No slot has two places in `places`. -/
def PlacesAgree (places : List (SlotId × SlotPlace)) : Prop :=
  ∀ x p p', (x, p) ∈ places → (x, p') ∈ places → p = p'

namespace Seen

variable (places : List (SlotId × SlotPlace)) (si bi : Nat)

/-- Every slot `seen'` records anew sits at a place of `places` in block `bi` of section `si`. -/
def RecordsAt (seen seen' : Seen) : Prop :=
  ∀ x p, seen'.slotPlace? x = some p → seen.slotPlace? x = some p ∨
    ((x, p) ∈ places ∧ p.sectionIndex = si ∧ p.blockIndex = bi)

/-- Every slot `seen` records sits at a place of `places` in a block before block `bi` of
section `si`. -/
def RecordedBefore (seen : Seen) : Prop :=
  ∀ x p, seen.slotPlace? x = some p → (x, p) ∈ places ∧
    (p.sectionIndex < si ∨ p.sectionIndex = si ∧ p.blockIndex < bi)

variable {places si bi}

theorem RecordsAt.refl (seen : Seen) : seen.RecordsAt places si bi seen := fun _ _ => .inl

theorem RecordsAt.trans {a b c : Seen} (first : a.RecordsAt places si bi b)
    (second : b.RecordsAt places si bi c) : a.RecordsAt places si bi c := by
  intro x p recorded
  rcases second x p recorded with old | new
  · exact first x p old
  · exact .inr new

/-- A record whose slots all sit at places of `places` keeps them there. -/
theorem RecordsAt.sound {seen seen' : Seen} (records : seen.RecordsAt places si bi seen')
    (sound : ∀ x p, seen.slotPlace? x = some p → (x, p) ∈ places) :
    ∀ x p, seen'.slotPlace? x = some p → (x, p) ∈ places := by
  intro x p recorded
  rcases records x p recorded with old | ⟨placed, -⟩
  · exact sound x p old
  · exact placed

/-- Once the block at `bi` has passed, what was recorded before it or in it lies before the next
block. -/
theorem RecordedBefore.next {seen seen' : Seen} (before : seen.RecordedBefore places si bi)
    (records : seen.RecordsAt places si bi seen') : seen'.RecordedBefore places si (bi + 1) := by
  intro x p recorded
  rcases records x p recorded with old | ⟨placed, inSection, inBlock⟩
  · obtain ⟨placed, earlier⟩ := before x p old
    exact ⟨placed, by omega⟩
  · exact ⟨placed, by omega⟩

theorem RecordedBefore.mono {seen : Seen} (before : seen.RecordedBefore places si bi) {si' bi' : Nat}
    (later : si < si' ∨ si = si' ∧ bi ≤ bi') : seen.RecordedBefore places si' bi' := by
  intro x p recorded
  obtain ⟨placed, earlier⟩ := before x p recorded
  exact ⟨placed, by omega⟩

/-- Recording slots keeps the old places, the new slots taking places of `added`. -/
theorem slotPlace?_append_eq_some {seen : Seen} {added : List (SlotId × SlotPosition)}
    {x : SlotId} {p : SlotPlace}
    (recorded : ({ seen with slots := seen.slots ++ added } : Seen).slotPlace? x = some p) :
    seen.slotPlace? x = some p ∨ ∃ position, (x, position) ∈ added ∧ position.place = p := by
  unfold slotPlace? at recorded ⊢
  rw [List.lookup_append] at recorded
  cases old : seen.slots.lookup x with
  | some e =>
    rw [old, Option.some_or] at recorded
    exact .inl recorded
  | none =>
    rw [old, Option.none_or] at recorded
    obtain ⟨position, found, rfl⟩ := Option.map_eq_some_iff.mp recorded
    exact .inr ⟨position, mem_of_lookup_eq_some found, rfl⟩

end Seen

/-! ### Questions, variants and calculations -/

section Block

variable {si bi : Nat}

theorem checkQuestions_grows {seen seen' : Seen} {questions : List (Question × Nat)}
    (ok : checkQuestions si bi seen questions = .ok seen') :
    seen.Grows seen' [] [] [] (questions.map (·.1.id)) [] (questionSlotEntries si bi questions) := by
  induction questions generalizing seen with
  | nil =>
    simp only [checkQuestions, except_pure_eq_ok] at ok
    subst ok
    exact .refl seen
  | cons entry rest ih =>
    obtain ⟨q, i⟩ := entry
    simp only [checkQuestions, bind] at ok
    split at ok
    · simp at ok
    next fresh =>
    simp only [except_bind_eq_ok] at ok
    obtain ⟨_, -, added, slotsOk, restOk⟩ := ok
    have pushed : seen.Grows { seen with questions := seen.questions ++ [q.id] } [] [] [] [q.id] [] [] :=
      ⟨by simp, .refl _, .refl _, .push (by simpa using fresh), .refl _, rfl⟩
    exact pushed.trans ((addQuestionSlots_grows slotsOk).trans (ih restOk))

theorem checkVariants_grows {b : Block} {seen seen' : Seen} {variants : List (QuestionVariant × Nat)}
    (ok : checkVariants si bi b seen variants = .ok seen') :
    seen.Grows seen' [] [] [] [] [] (variantSlotEntries si bi b variants) := by
  induction variants generalizing seen with
  | nil =>
    simp only [checkVariants, except_pure_eq_ok] at ok
    subst ok
    exact .refl seen
  | cons e rest ih =>
    obtain ⟨v, variant⟩ := e
    simp only [checkVariants, bind] at ok
    split at ok
    next i found =>
      simp only [except_pure_bind, except_bind_eq_ok] at ok
      obtain ⟨_, -, added, slotsOk, restOk⟩ := ok
      -- The variant's slots are declared at the place of the question it replaces.
      have entries : variantSlotEntries si bi b ((v, variant) :: rest) =
          v.question.answers.zipIdx.map (fun e => (e.1.id, ⟨⟨si, bi, i⟩, some variant, e.2⟩)) ++
            variantSlotEntries si bi b rest := by
        simp [variantSlotEntries, found]
      rw [entries]
      exact (addVariantSlots_grows slotsOk).trans (ih restOk)
    · simp at ok

theorem addRules_grows {position : BlockPosition} {seen seen' : Seen}
    {rules : List (CalculatedRule × Nat)} (ok : addRules position seen rules = .ok seen') :
    seen.Grows seen' [] [] [] [] (rules.map fun e => (e.1.id, position, e.2)) [] := by
  induction rules generalizing seen with
  | nil =>
    simp only [addRules, except_pure_eq_ok] at ok
    subst ok
    exact .refl seen
  | cons e rest ih =>
    obtain ⟨r, i⟩ := e
    simp only [addRules] at ok
    split at ok
    · simp at ok
    next fresh =>
      have pushed : seen.Grows { seen with rules := seen.rules ++ [(r.id, position, i)] } [] [] [] []
          [(r.id, position, i)] [] :=
        ⟨by simp, .refl _, .refl _, .refl _, .push (by simpa [lookup_isSome_iff_mem] using fresh), rfl⟩
      exact pushed.trans (ih ok)

/-- **Calculation ids are recorded** when none is repeated or seen before. -/
theorem addRules_succeeds {position : BlockPosition} {seen : Seen}
    {rules : List (CalculatedRule × Nat)} (fresh : (seen.rules.map Prod.fst ++ rules.map (·.1.id)).Nodup) :
    addRules position seen rules =
      .ok { seen with rules := seen.rules ++ rules.map fun e => (e.1.id, position, e.2) } := by
  induction rules generalizing seen with
  | nil => simp [addRules, pure, Except.pure]
  | cons e rest ih =>
    obtain ⟨r, i⟩ := e
    have unseen : r.id ∉ seen.rules.map Prod.fst := by
      intro held
      exact List.disjoint_of_nodup_append fresh held (by simp)
    simp only [addRules, lookup_isSome_iff_mem, unseen, ↓reduceIte]
    rw [ih (by simpa using fresh)]
    simp

variable {places : List (SlotId × SlotPlace)} (agree : PlacesAgree places)
include agree

/-- **A block's own questions pass** when each passes its own checks with different slot ids at
places of `places`, their ids are new, and no slot recorded so far sits at one of their
places. -/
theorem checkQuestions_succeeds {seen : Seen} {questions : List (Question × Nat)}
    (checked : ∀ q i, (q, i) ∈ questions → checkQuestion q = .ok () ∧
      (q.answers.map (·.id)).Nodup ∧ ∀ s ∈ q.answers, (s.id, ⟨si, bi, i⟩) ∈ places)
    (indices : (questions.map (·.2)).Nodup) (fresh : (seen.questions ++ questions.map (·.1.id)).Nodup)
    (recorded : ∀ x p, seen.slotPlace? x = some p → (x, p) ∈ places ∧
      ∀ q i, (q, i) ∈ questions → p ≠ ⟨si, bi, i⟩) :
    ∃ seen', checkQuestions si bi seen questions = .ok seen' ∧ seen.RecordsAt places si bi seen' := by
  induction questions generalizing seen with
  | nil => exact ⟨seen, rfl, .refl seen⟩
  | cons entry rest ih =>
    obtain ⟨q, i⟩ := entry
    obtain ⟨questionOk, distinct, placed⟩ := checked q i List.mem_cons_self
    have unseenId : q.id ∉ seen.questions := fun held =>
      List.disjoint_of_nodup_append fresh held (by simp)
    -- A slot of `q` recorded before would sit at `q`'s own place, which nothing holds yet.
    have unseen : ∀ s ∈ q.answers, seen.slotPlace? s.id = none := by
      intro s answer
      cases before : seen.slotPlace? s.id with
      | none => rfl
      | some p =>
        obtain ⟨atPlace, apart⟩ := recorded s.id p before
        exact absurd (agree s.id p _ atPlace (placed s answer)) (apart q i List.mem_cons_self)
    let pushed : Seen := { seen with questions := seen.questions ++ [q.id] }
    let added := q.answers.zipIdx.map fun e => (e.1.id, (⟨⟨si, bi, i⟩, none, e.2⟩ : SlotPosition))
    have slotsOk : addQuestionSlots ⟨si, bi, i⟩ pushed q.answers.zipIdx =
        .ok { pushed with slots := pushed.slots ++ added } :=
      addQuestionSlots_eq_ok.mpr ⟨by simpa only [map_zipIdx_fst] using distinct,
        fun e member => unseen e.1 (List.fst_mem_of_mem_zipIdx member), rfl⟩
    -- What is recorded after `q` is what was recorded before, or a slot of `q` at its place.
    have after : ∀ x p, ({ pushed with slots := pushed.slots ++ added } : Seen).slotPlace? x = some p →
        seen.slotPlace? x = some p ∨ ∃ s ∈ q.answers, s.id = x ∧ p = ⟨si, bi, i⟩ := by
      intro x p now
      rcases Seen.slotPlace?_append_eq_some now with old | ⟨position, new, rfl⟩
      · exact .inl old
      · obtain ⟨e, member, same⟩ := List.mem_map.mp new
        obtain ⟨rfl, rfl⟩ := Prod.mk.inj same
        exact .inr ⟨e.1, List.fst_mem_of_mem_zipIdx member, rfl, rfl⟩
    obtain ⟨apartIndex, restIndices⟩ := List.nodup_cons.mp indices
    obtain ⟨seen', restOk, records⟩ := @ih { pushed with slots := pushed.slots ++ added }
      (fun q' i' member => checked q' i' (List.mem_cons_of_mem _ member)) restIndices
      (by simpa [pushed] using fresh) (by
        intro x p now
        rcases after x p now with old | ⟨s, answer, rfl, rfl⟩
        · obtain ⟨atPlace, apart⟩ := recorded x p old
          exact ⟨atPlace, fun q' i' member => apart q' i' (List.mem_cons_of_mem _ member)⟩
        · refine ⟨placed s answer, fun q' i' member same => apartIndex ?_⟩
          obtain ⟨-, -, rfl⟩ := SlotPlace.mk.inj same
          exact List.mem_map.mpr ⟨(q', i), member, rfl⟩)
    refine ⟨seen', ?_, fun x p now => ?_⟩
    · simp only [checkQuestions, bind, List.contains_iff_mem, unseenId, ↓reduceIte]
      exact except_bind_eq_ok.mpr ⟨(), questionOk, except_bind_eq_ok.mpr ⟨_, slotsOk, restOk⟩⟩
    · rcases records x p now with earlier | new
      · rcases after x p earlier with old | ⟨s, answer, rfl, rfl⟩
        · exact .inl old
        · exact .inr ⟨placed s answer, rfl, rfl⟩
      · exact .inr new

/-- **A block's variants pass** when each passes its own checks and replaces a question of the
block, its slots at places of `places`, and every slot recorded so far sits at a place of
`places`. -/
theorem checkVariants_succeeds {b : Block} {seen : Seen} {variants : List (QuestionVariant × Nat)}
    (checked : ∀ e ∈ variants, checkQuestion e.1.question = .ok () ∧
      ∃ i, b.questions.findIdx? (·.id == e.1.question.id) = some i ∧
        ∀ s ∈ e.1.question.answers, (s.id, ⟨si, bi, i⟩) ∈ places)
    (recorded : ∀ x p, seen.slotPlace? x = some p → (x, p) ∈ places) :
    ∃ seen', checkVariants si bi b seen variants = .ok seen' ∧ seen.RecordsAt places si bi seen' := by
  induction variants generalizing seen with
  | nil => exact ⟨seen, rfl, .refl seen⟩
  | cons e rest ih =>
    obtain ⟨v, variant⟩ := e
    obtain ⟨questionOk, i, found, placed⟩ := checked (v, variant) List.mem_cons_self
    -- A slot of the variant seen before sits at a place of `places`, so at the variant's own.
    obtain ⟨seen₁, slotsOk, within⟩ := @addVariantSlots_succeeds ⟨si, bi, i⟩ variant seen
      v.question.answers.zipIdx fun e answer p before =>
        agree e.1.id p _ (recorded e.1.id p before) (placed e.1 (List.fst_mem_of_mem_zipIdx answer))
    have records : seen.RecordsAt places si bi seen₁ := by
      intro x p now
      rcases within x p now with old | ⟨new, rfl⟩
      · exact .inl old
      · obtain ⟨e, answer, rfl⟩ := List.mem_map.mp new
        exact .inr ⟨placed e.1 (List.fst_mem_of_mem_zipIdx answer), rfl, rfl⟩
    obtain ⟨seen', restOk, recordsRest⟩ := ih (fun e member => checked e (List.mem_cons_of_mem _ member))
      (records.sound recorded)
    refine ⟨seen', ?_, records.trans recordsRest⟩
    simp only [checkVariants, bind, found, except_pure_bind]
    exact except_bind_eq_ok.mpr ⟨(), questionOk, except_bind_eq_ok.mpr ⟨_, slotsOk, restOk⟩⟩

end Block


/-! ### Blocks and sections -/

/-- What the block `b` needs of itself to pass at position `bi` of section `si`, its slots to
take places of `places`. -/
structure BlockReady (places : List (SlotId × SlotPlace)) (si bi : Nat) (b : Block) : Prop where
  questions_ne_nil : b.questions ≠ []
  checked : ∀ q ∈ b.allQuestions, checkQuestion q = .ok ()
  slots_nodup : ∀ q ∈ b.questions, (q.answers.map (·.id)).Nodup
  replaces : ∀ v ∈ b.questionVariants, ∃ i, b.questions.findIdx? (·.id == v.question.id) = some i
  placed : ∀ e ∈ b.slotPlaces si bi, e ∈ places

/-- What the section `sec` needs of itself to pass at position `si`. -/
structure SectionReady (places : List (SlotId × SlotPlace)) (si : Nat) (sec : Section) : Prop where
  blocks_ne_nil : sec.blocks ≠ []
  blocks : ∀ b bi, (b, bi) ∈ sec.blocks.zipIdx → BlockReady places si bi b

/-- A block that passes records its location, its position, its questions' ids, its
calculations at its position and its slot declarations. -/
theorem checkBlock_grows {sid : SectionId} {si bi : Nat} {seen seen' : Seen} {b : Block}
    (ok : checkBlock sid si seen b bi = .ok seen') :
    seen.Grows seen' [⟨sid, b.id⟩] [] [(b.id, ⟨si, bi, seen.order.length⟩)] (b.questions.map (·.id))
      (b.ruleEntries ⟨si, bi, seen.order.length⟩) (b.slotEntries si bi) := by
  simp only [checkBlock, bind] at ok
  split at ok
  · simp at ok
  split at ok
  · simp at ok
  next fresh =>
  simp only [except_bind_eq_ok] at ok
  obtain ⟨afterQuestions, questionsOk, afterVariants, variantsOk, rulesOk⟩ := ok
  let placed : Seen := { seen with
    blocks := seen.blocks ++ [(b.id, ⟨si, bi, seen.order.length⟩)]
    order := seen.order ++ [⟨sid, b.id⟩] }
  have pushed : seen.Grows placed [⟨sid, b.id⟩] [] [(b.id, ⟨si, bi, seen.order.length⟩)] [] [] [] :=
    ⟨rfl, .refl _, .push (by simpa [lookup_isSome_iff_mem] using fresh), .refl _, .refl _, rfl⟩
  have grows := pushed.trans ((checkQuestions_grows questionsOk).trans
    ((checkVariants_grows variantsOk).trans (addRules_grows rulesOk)))
  have questions : b.questions.zipIdx.map (·.1.id) = b.questions.map (·.id) := map_zipIdx_fst _ _ _
  simp only [List.append_nil, List.nil_append, questions] at grows
  exact grows

theorem checkBlocks_grows {sid : SectionId} {si : Nat} (blocks : List Block) {start : Nat}
    {seen seen' : Seen}
    (ok : (blocks.zipIdx start).foldlM (fun seen (b, i) => checkBlock sid si seen b i) seen =
      .ok seen') :
    seen.Grows seen' (blocks.map fun b => ⟨sid, b.id⟩) []
      (placedBlockEntries (placeFrom seen.order.length ((blocks.zipIdx start).map fun e => (e.1, si, e.2))))
      ((blocks.flatMap (·.questions)).map (·.id))
      (placedRuleEntries (placeFrom seen.order.length ((blocks.zipIdx start).map fun e => (e.1, si, e.2))))
      (placedSlotEntries (placeFrom seen.order.length ((blocks.zipIdx start).map fun e => (e.1, si, e.2)))) := by
  induction blocks generalizing start seen with
  | nil =>
    simp only [List.zipIdx_nil, List.foldlM_nil, except_pure_eq_ok] at ok
    subst ok
    exact .refl seen
  | cons b rest ih =>
    simp only [List.zipIdx_cons, List.foldlM_cons, bind, except_bind_eq_ok] at ok
    obtain ⟨afterBlock, blockOk, restOk⟩ := ok
    have first := checkBlock_grows blockOk
    have rest := ih restOk
    rw [first.order, List.length_append, List.length_singleton] at rest
    have grows := first.trans rest
    simp only [List.singleton_append, List.nil_append] at grows
    simpa [placeFrom, placedBlockEntries, placedRuleEntries, placedSlotEntries] using grows

/-- A section that passes records its id at its index, then its blocks in order. -/
theorem checkSection_grows {seen seen' : Seen} {sec : Section} {si : Nat}
    (ok : checkSection seen sec si = .ok seen') :
    seen.Grows seen' (sec.blocks.map fun b => ⟨sec.id, b.id⟩) [(sec.id, si)]
      (placedBlockEntries (placeFrom seen.order.length (sec.blocks.zipIdx.map fun e => (e.1, si, e.2))))
      ((sec.blocks.flatMap (·.questions)).map (·.id))
      (placedRuleEntries (placeFrom seen.order.length (sec.blocks.zipIdx.map fun e => (e.1, si, e.2))))
      (placedSlotEntries (placeFrom seen.order.length (sec.blocks.zipIdx.map fun e => (e.1, si, e.2)))) := by
  simp only [checkSection, bind] at ok
  split at ok
  · simp at ok
  split at ok
  · simp at ok
  next fresh =>
  have pushed : seen.Grows { seen with sections := seen.sections ++ [(sec.id, si)] } [] [(sec.id, si)]
      [] [] [] [] :=
    ⟨by simp, .push (by simpa [lookup_isSome_iff_mem] using fresh), .refl _, .refl _, .refl _, rfl⟩
  exact pushed.trans (checkBlocks_grows sec.blocks ok)

/-- **The first pass over sections from `start`** records their blocks' locations in order,
each section at its index, each block at its position from the record's next place on, the
ids of their questions, their calculations at their blocks' positions, and their slot
declarations; no key is recorded twice. -/
theorem checkSections_grows (sections : List Section) {start : Nat} {seen seen' : Seen}
    (ok : (sections.zipIdx start).foldlM (fun seen (s, i) => checkSection seen s i) seen =
      .ok seen') :
    seen.Grows seen' (sections.flatMap fun s => s.blocks.map fun b => ⟨s.id, b.id⟩)
      ((sections.zipIdx start).map fun e => (e.1.id, e.2))
      (placedBlockEntries (placeFrom seen.order.length
        ((sections.zipIdx start).flatMap fun e => e.1.blocks.zipIdx.map fun b => (b.1, e.2, b.2))))
      ((sections.flatMap fun s => s.blocks.flatMap (·.questions)).map (·.id))
      (placedRuleEntries (placeFrom seen.order.length
        ((sections.zipIdx start).flatMap fun e => e.1.blocks.zipIdx.map fun b => (b.1, e.2, b.2))))
      (placedSlotEntries (placeFrom seen.order.length
        ((sections.zipIdx start).flatMap fun e => e.1.blocks.zipIdx.map fun b => (b.1, e.2, b.2)))) := by
  induction sections generalizing start seen with
  | nil =>
    simp only [List.zipIdx_nil, List.foldlM_nil, except_pure_eq_ok] at ok
    subst ok
    exact .refl seen
  | cons sec rest ih =>
    simp only [List.zipIdx_cons, List.foldlM_cons, bind, except_bind_eq_ok] at ok
    obtain ⟨afterSection, sectionOk, restOk⟩ := ok
    have first := checkSection_grows sectionOk
    have rest := ih restOk
    rw [first.order, List.length_append, List.length_map] at rest
    have grows := first.trans rest
    simpa [placeFrom_append, placedBlockEntries, placedRuleEntries, placedSlotEntries] using grows

section Succeeds

variable {places : List (SlotId × SlotPlace)} (agree : PlacesAgree places)
include agree

/-- **A block passes** when it is ready, its block, question and calculation ids are new, and
every slot recorded so far sits at a place of `places` in an earlier block; the slots it
records then sit in it. -/
theorem checkBlock_succeeds (sid : SectionId) {si bi : Nat} {seen : Seen} {b : Block}
    (ready : BlockReady places si bi b) (fresh : b.id ∉ seen.blocks.map Prod.fst)
    (questionsFresh : (seen.questions ++ b.questions.map (·.id)).Nodup)
    (rulesFresh : (seen.rules.map Prod.fst ++ b.calculations.map (·.id)).Nodup)
    (before : seen.RecordedBefore places si bi) :
    ∃ seen', checkBlock sid si seen b bi = .ok seen' ∧ seen'.RecordedBefore places si (bi + 1) := by
  let pushed : Seen := { seen with
    blocks := seen.blocks ++ [(b.id, ⟨si, bi, seen.order.length⟩)]
    order := seen.order ++ [⟨sid, b.id⟩] }
  -- Slots recorded before this block are at other coordinates than its questions' places.
  obtain ⟨afterQuestions, questionsOk, recordsQuestions⟩ :=
    @checkQuestions_succeeds si bi places agree pushed b.questions.zipIdx
      (fun q i at_ => ⟨ready.checked q (List.mem_append_left _ (List.fst_mem_of_mem_zipIdx at_)),
        ready.slots_nodup q (List.fst_mem_of_mem_zipIdx at_),
        fun s answer => ready.placed _ (Block.mem_slotPlaces_of_question at_ answer)⟩)
      (by rw [List.zipIdx_map_snd]; exact List.nodup_range' _)
      (by simpa [pushed, map_zipIdx_fst] using questionsFresh)
      (fun x p recorded => by
        obtain ⟨atPlace, earlier⟩ := before x p recorded
        refine ⟨atPlace, fun q i _ same => ?_⟩
        subst same
        simp at earlier)
  obtain ⟨afterVariants, variantsOk, recordsVariants⟩ :=
    @checkVariants_succeeds si bi places agree b afterQuestions b.questionVariants.zipIdx
      (fun e variant => by
        have variant := List.fst_mem_of_mem_zipIdx variant
        obtain ⟨i, found⟩ := ready.replaces e.1 variant
        exact ⟨ready.checked _ (List.mem_append_right _ (List.mem_map_of_mem variant)), i, found,
          fun s answer => ready.placed _ (Block.mem_slotPlaces_of_variant variant found answer)⟩)
      (recordsQuestions.sound fun x p recorded => (before x p recorded).1)
  have sameRules : afterVariants.rules = seen.rules := by
    rw [(checkVariants_grows variantsOk).rules.1, (checkQuestions_grows questionsOk).rules.1]
    simp [pushed]
  have ok : checkBlock sid si seen b bi = .ok { afterVariants with
      rules := afterVariants.rules ++ b.ruleEntries ⟨si, bi, seen.order.length⟩ } := by
    simp only [checkBlock, bind, List.isEmpty_iff, ready.questions_ne_nil, lookup_isSome_iff_mem,
      fresh, ↓reduceIte]
    exact except_bind_eq_ok.mpr ⟨_, questionsOk, except_bind_eq_ok.mpr ⟨_, variantsOk,
      addRules_succeeds (by rw [sameRules]; simpa [map_zipIdx_fst] using rulesFresh)⟩⟩
  exact ⟨_, ok, before.next (recordsQuestions.trans recordsVariants)⟩

theorem checkBlocks_succeeds {sid : SectionId} {si : Nat} (blocks : List Block) {start : Nat}
    {seen : Seen} (ready : ∀ b bi, (b, bi) ∈ blocks.zipIdx start → BlockReady places si bi b)
    (blocksFresh : (seen.blocks.map Prod.fst ++ blocks.map (·.id)).Nodup)
    (questionsFresh : (seen.questions ++ (blocks.flatMap (·.questions)).map (·.id)).Nodup)
    (rulesFresh : (seen.rules.map Prod.fst ++ (blocks.flatMap (·.calculations)).map (·.id)).Nodup)
    (before : seen.RecordedBefore places si start) :
    ∃ seen', (blocks.zipIdx start).foldlM (fun seen (b, i) => checkBlock sid si seen b i) seen =
      .ok seen' ∧ seen'.RecordedBefore places si (start + blocks.length) := by
  induction blocks generalizing start seen with
  | nil => exact ⟨seen, rfl, by simpa using before⟩
  | cons b rest ih =>
    simp only [List.map_cons, List.flatMap_cons, List.map_append] at blocksFresh questionsFresh rulesFresh
    obtain ⟨afterBlock, blockOk, beforeRest⟩ := checkBlock_succeeds agree sid
      (ready b start (by simp [List.zipIdx_cons]))
      (fun held => List.disjoint_of_nodup_append blocksFresh held List.mem_cons_self)
      (questionsFresh.sublist (by simp)) (rulesFresh.sublist (by simp)) before
    have grows := checkBlock_grows blockOk
    obtain ⟨seen', restOk, beforeAfter⟩ := ih
      (fun b' bi member => ready b' bi (by simp [List.zipIdx_cons, member]))
      (by simpa [grows.blocks.1] using blocksFresh)
      (by simpa [grows.questions.1] using questionsFresh)
      (by simpa [grows.rules.1] using rulesFresh) beforeRest
    refine ⟨seen', ?_, by simpa [Nat.add_assoc, Nat.add_comm 1] using beforeAfter⟩
    simp only [List.zipIdx_cons, List.foldlM_cons, bind]
    exact except_bind_eq_ok.mpr ⟨_, blockOk, restOk⟩

theorem checkSection_succeeds {seen : Seen} {sec : Section} {si : Nat}
    (ready : SectionReady places si sec) (fresh : sec.id ∉ seen.sections.map Prod.fst)
    (blocksFresh : (seen.blocks.map Prod.fst ++ sec.blocks.map (·.id)).Nodup)
    (questionsFresh : (seen.questions ++ (sec.blocks.flatMap (·.questions)).map (·.id)).Nodup)
    (rulesFresh : (seen.rules.map Prod.fst ++ (sec.blocks.flatMap (·.calculations)).map (·.id)).Nodup)
    (before : seen.RecordedBefore places si 0) :
    ∃ seen', checkSection seen sec si = .ok seen' ∧ seen'.RecordedBefore places (si + 1) 0 := by
  obtain ⟨seen', blocksOk, after⟩ :=
    @checkBlocks_succeeds places agree sec.id si sec.blocks 0
      { seen with sections := seen.sections ++ [(sec.id, si)] } ready.blocks blocksFresh
      questionsFresh rulesFresh before
  refine ⟨seen', ?_, after.mono (by omega)⟩
  simp only [checkSection, List.isEmpty_iff, ready.blocks_ne_nil, lookup_isSome_iff_mem, fresh,
    ↓reduceIte]
  exact blocksOk

/-- **The first pass succeeds** over sections that are ready, with no section, block, question
or calculation id repeated or seen before, from a record whose slots lie before them. -/
theorem checkSections_succeeds (sections : List Section) {start : Nat} {seen : Seen}
    (ready : ∀ sec si, (sec, si) ∈ sections.zipIdx start → SectionReady places si sec)
    (sectionsFresh : (seen.sections.map Prod.fst ++ sections.map (·.id)).Nodup)
    (blocksFresh : (seen.blocks.map Prod.fst ++ (sections.flatMap (·.blocks)).map (·.id)).Nodup)
    (questionsFresh : (seen.questions ++
      (sections.flatMap fun s => s.blocks.flatMap (·.questions)).map (·.id)).Nodup)
    (rulesFresh : (seen.rules.map Prod.fst ++
      (sections.flatMap fun s => s.blocks.flatMap (·.calculations)).map (·.id)).Nodup)
    (before : seen.RecordedBefore places start 0) :
    ∃ seen', (sections.zipIdx start).foldlM (fun seen (s, i) => checkSection seen s i) seen =
      .ok seen' := by
  induction sections generalizing start seen with
  | nil => exact ⟨seen, rfl⟩
  | cons sec rest ih =>
    simp only [List.map_cons, List.flatMap_cons, List.map_append] at sectionsFresh blocksFresh
    simp only [List.flatMap_cons, List.map_append] at questionsFresh rulesFresh
    obtain ⟨afterSection, sectionOk, beforeRest⟩ := checkSection_succeeds agree
      (ready sec start (by simp [List.zipIdx_cons]))
      (fun held => List.disjoint_of_nodup_append sectionsFresh held List.mem_cons_self)
      (blocksFresh.sublist (by simp)) (questionsFresh.sublist (by simp))
      (rulesFresh.sublist (by simp)) before
    have grows := checkSection_grows sectionOk
    have blockKeys : afterSection.blocks.map Prod.fst =
        seen.blocks.map Prod.fst ++ sec.blocks.map (·.id) := by
      rw [grows.blocks.1, List.map_append, placedBlockEntries_keys, map_fst_placeFrom,
        map_fst_positions]
    have ruleKeys : afterSection.rules.map Prod.fst =
        seen.rules.map Prod.fst ++ (sec.blocks.flatMap (·.calculations)).map (·.id) := by
      rw [grows.rules.1, List.map_append, placedRuleEntries_keys, map_fst_placeFrom,
        map_fst_positions]
    obtain ⟨seen', restOk⟩ := ih
      (fun sec' si member => ready sec' si (by simp [List.zipIdx_cons, member]))
      (by simpa [grows.sections.1] using sectionsFresh)
      (by rw [blockKeys, List.append_assoc]; exact blocksFresh)
      (by simpa [grows.questions.1] using questionsFresh)
      (by rw [ruleKeys, List.append_assoc]; exact rulesFresh) beforeRest
    refine ⟨seen', ?_⟩
    simp only [List.zipIdx_cons, List.foldlM_cons, bind]
    exact except_bind_eq_ok.mpr ⟨_, sectionOk, restOk⟩

end Succeeds

end Survey
