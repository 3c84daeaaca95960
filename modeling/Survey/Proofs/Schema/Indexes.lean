import Mathlib
import Survey.Proofs.Schema.Passing

/-!
# The indexes of a definition

The first pass of `Questionnaire.ofDefinition` builds, as it checks, the indexes every lookup
of a questionnaire reads: each block's location in order, and by id the position of each
section, block, slot and calculation. This module gives those indexes in terms of the
definition alone (`QuestionnaireDefinition.indexed`), shows that a successful pass builds
exactly them (`QuestionnaireDefinition.questionnaire_of_firstPass`), and reads each lookup
through them back as a search of the definition:

* `lookup_bind_eq_find?` — looking a key up and reading the entry found is searching, in
  order, what the entries read;
* `indexed_block?`, `indexed_orderOf?`, `indexed_location?`, `indexed_section?`,
  `indexed_calculation?` — a block, location, section or calculation is the first the
  definition declares under the id, and a block's order is the index of its location;
* `indexed_slot?`, `indexed_blockOf?` — a slot is its first declaration, block by block and
  each block's own questions before its variants (`Block.declaredSlots`), and its block is the
  first block declaring it.

A successful pass also refuses repeated section and calculation ids and variants of unknown
questions; `FirstPass` collects what it guarantees.
-/

namespace Survey

/-! ### Keyed lists -/

/-- **Looking a key up and reading its entry is searching what the entries read**, when the
entries read, in order, as the items do under the items' keys. -/
theorem lookup_bind_eq_find? {α β γ : Type} (read : α → Option β) {key : γ → String}
    {value : γ → β} {entries : List (String × α)} {items : List γ}
    (reads : entries.map (fun e => (e.1, read e.2)) = items.map fun x => (key x, some (value x)))
    (k : String) : (entries.lookup k).bind read = (items.find? fun x => key x == k).map value := by
  induction entries generalizing items with
  | nil =>
    cases items with
    | nil => rfl
    | cons x others => simp at reads
  | cons e rest ih =>
    cases items with
    | nil => simp at reads
    | cons x others =>
      obtain ⟨k', v⟩ := e
      simp only [List.map_cons, List.cons.injEq, Prod.mk.injEq] at reads
      obtain ⟨⟨rfl, found⟩, restReads⟩ := reads
      rw [List.lookup_cons, List.find?_cons]
      by_cases same : key x = k
      · subst same
        simp [found]
      · have differ : (k == key x) = false := beq_eq_false_iff_ne.mpr (Ne.symm same)
        have differ' : (key x == k) = false := beq_eq_false_iff_ne.mpr same
        simp only [differ, differ']
        exact ih restReads

/-- Reading a list with its indices, when each index reads its element. -/
theorem map_zipIdx_of_getElem? {α β : Type} {l : List α} {f : α × Nat → β} {g : α → β}
    (agree : ∀ a i, l[i]? = some a → f (a, i) = g a) : l.zipIdx.map f = l.map g := by
  rw [← map_zipIdx_fst g l 0]
  exact List.map_congr_left fun e member => agree e.1 e.2 (List.mem_zipIdx_iff_getElem?.mp member)

theorem flatMap_zipIdx_fst {α β : Type} (f : α → List β) (l : List α) (n : Nat) :
    (l.zipIdx n).flatMap (fun e => f e.1) = l.flatMap f := by
  rw [← List.flatMap_map Prod.fst f, List.zipIdx_map_fst]

theorem flatMap_filter {α β : Type} (p : α → Bool) (g : α → List β) (l : List α) :
    (l.filter p).flatMap g = l.flatMap fun x => if p x then g x else [] := by
  induction l with
  | nil => rfl
  | cons x rest ih => cases h : p x <;> simp [h, ih]

/-- The element at the first index satisfying `p` is the first element satisfying it. -/
theorem findIdx?_bind_getElem? {α : Type} (p : α → Bool) (l : List α) :
    (l.findIdx? p).bind (l[·]?) = l.find? p := by
  induction l with
  | nil => rfl
  | cons x rest ih =>
    rw [List.findIdx?_cons, List.find?_cons]
    cases h : p x
    · simp only [Bool.false_eq_true, ↓reduceIte, Option.bind_map]
      exact ih
    · rfl

/-- The block found by its first declared item, as a search of the blocks. -/
theorem findSome?_pair_snd {α β : Type} (f : α → Option β) (l : List α) :
    (l.findSome? fun b => (f b).map fun s => (s, b)).map Prod.snd = l.find? fun b => (f b).isSome := by
  induction l with
  | nil => rfl
  | cons b rest ih =>
    rw [List.findSome?_cons, List.find?_cons]
    cases f b with
    | none => exact ih
    | some s => rfl

/-! ### The indexes, declared -/

namespace QuestionnaireDefinition

variable (d : QuestionnaireDefinition)

/-- Every block of a definition, in order. -/
def allBlocks : List Block := d.sections.flatMap (·.blocks)

/-- The location of every block of a definition, in order. -/
def locationsOf : List Location := d.sections.flatMap fun s => s.blocks.map fun b => ⟨s.id, b.id⟩

/-- Every block with the index of its section and its index there, in order. -/
def blockPositions : List (Block × Nat × Nat) :=
  d.sections.zipIdx.flatMap fun s => s.1.blocks.zipIdx.map fun b => (b.1, s.2, b.2)

/-- Every block with its position: the index of its section, its index there and its place in
the order. -/
def placedBlocks : List (Block × BlockPosition) := placeFrom 0 d.blockPositions

/-- **The definition with its indexes**: every block's location in order; by id, the position
of every block, section and calculation; and for every slot id its first declaration. -/
def indexed : Questionnaire :=
  ⟨d, d.locationsOf, placedBlockEntries d.placedBlocks, d.sections.zipIdx.map fun s => (s.1.id, s.2),
    (placedSlotEntries d.placedBlocks).foldl addFirst [], placedRuleEntries d.placedBlocks⟩

variable {d}

theorem mem_blockPositions {b : Block} {si bi : Nat} :
    (b, si, bi) ∈ d.blockPositions ↔
      ∃ sec, (sec, si) ∈ d.sections.zipIdx ∧ (b, bi) ∈ sec.blocks.zipIdx := by
  simp [blockPositions]

theorem blockPositions_blocks : d.blockPositions.map (·.1) = d.allBlocks := by
  calc d.blockPositions.map (·.1) = d.sections.zipIdx.flatMap (fun e => e.1.blocks) := by
        simp only [blockPositions, List.map_flatMap]
        exact List.flatMap_congr fun e _ => map_fst_positions _ _ _
    _ = d.allBlocks := flatMap_zipIdx_fst _ _ _

theorem locationsOf_blocks : d.locationsOf.map (·.block) = d.allBlocks.map (·.id) := by
  simp [locationsOf, allBlocks, List.map_flatMap, Function.comp_def]

theorem placedBlocks_blocks : d.placedBlocks.map Prod.fst = d.allBlocks := by
  rw [placedBlocks, map_fst_placeFrom, blockPositions_blocks]

/-- The block at an index of the order is at that index of the locations. -/
theorem getElem?_locationsOf_block (k : Nat) :
    d.locationsOf[k]?.map (·.block) = d.blockPositions[k]?.map (·.1.id) := by
  rw [← List.getElem?_map, locationsOf_blocks, ← blockPositions_blocks, List.map_map,
    List.getElem?_map]
  rfl

/-- A placed block sits at the index of its place in the order among the block positions. -/
theorem mem_placedBlocks {b : Block} {p : BlockPosition} :
    (b, p) ∈ d.placedBlocks ↔ d.blockPositions[p.order]? = some (b, p.sectionIndex, p.blockIndex) := by
  rw [placedBlocks, List.mem_iff_getElem?]
  constructor
  · rintro ⟨k, at_⟩
    rw [getElem?_placeFrom] at at_
    obtain ⟨e, found, same⟩ := Option.map_eq_some_iff.mp at_
    obtain ⟨rfl, rfl⟩ := Prod.mk.inj same
    simpa using found
  · intro at_
    refine ⟨p.order, ?_⟩
    rw [getElem?_placeFrom, at_]
    simp

/-! ### The first pass builds them -/

/-- The first pass from nothing records the definition's locations, sections, placed blocks,
question ids, calculations and slot declarations. -/
theorem firstPass_grows {seen : Seen}
    (ok : d.sections.zipIdx.foldlM (fun seen (s, i) => checkSection seen s i) Seen.empty =
      .ok seen) :
    Seen.empty.Grows seen d.locationsOf (d.sections.zipIdx.map fun s => (s.1.id, s.2))
      (placedBlockEntries d.placedBlocks)
      ((d.sections.flatMap fun s => s.blocks.flatMap (·.questions)).map (·.id))
      (placedRuleEntries d.placedBlocks) (placedSlotEntries d.placedBlocks) :=
  checkSections_grows d.sections ok

/-- **A successful first pass builds the definition's indexes**: from nothing, it records every
block's location in order, every section at its index, every block at its position, every
calculation at its block's position with its index, and for every slot id its first
declaration. -/
theorem questionnaire_of_firstPass {seen : Seen}
    (ok : d.sections.zipIdx.foldlM (fun seen (s, i) => checkSection seen s i) Seen.empty =
      .ok seen) : seen.questionnaire d = d.indexed := by
  obtain ⟨order, sections, blocks, -, rules, slots⟩ := firstPass_grows ok
  unfold Seen.questionnaire indexed
  rw [order, sections.1, blocks.1, rules.1, slots]
  rfl

end QuestionnaireDefinition

/-- What a successful first pass guarantees of a definition. -/
structure FirstPass (d : QuestionnaireDefinition) : Prop where
  sections_ne_nil : ∀ sec ∈ d.sections, sec.blocks ≠ []
  questions_ne_nil : ∀ b ∈ d.allBlocks, b.questions ≠ []
  section_ids_nodup : (d.sections.map (·.id)).Nodup
  ids_nodup : (d.allBlocks.map (·.id)).Nodup
  rule_ids_nodup : ((d.allBlocks.flatMap (·.calculations)).map (·.id)).Nodup
  variants_replace : ∀ b ∈ d.allBlocks, ∀ v ∈ b.questionVariants,
    (b.questions.findIdx? (·.id == v.question.id)).isSome
  /-- One record places the slots of every block at the block's coordinates. -/
  placed : ∃ seen : Seen, ∀ sec si, (sec, si) ∈ d.sections.zipIdx →
    ∀ b bi, (b, bi) ∈ sec.blocks.zipIdx → BlockPlaced seen si bi b

/-- A block of a definition sits at some position of some section. -/
theorem QuestionnaireDefinition.coordinates_of_mem {d : QuestionnaireDefinition} {b : Block}
    (member : b ∈ d.allBlocks) :
    ∃ sec si bi, (sec, si) ∈ d.sections.zipIdx ∧ (b, bi) ∈ sec.blocks.zipIdx := by
  obtain ⟨sec, sectionMember, blockMember⟩ := List.mem_flatMap.mp member
  obtain ⟨si, sectionAt⟩ := List.getElem?_of_mem sectionMember
  obtain ⟨bi, blockAt⟩ := List.getElem?_of_mem blockMember
  exact ⟨sec, si, bi, List.mem_zipIdx_iff_getElem?.mpr sectionAt,
    List.mem_zipIdx_iff_getElem?.mpr blockAt⟩

/-- **A successful first pass** gives the facts of `FirstPass`. -/
theorem firstPass_of_ok {d : QuestionnaireDefinition} {seen : Seen}
    (ok : d.sections.zipIdx.foldlM (fun seen (s, i) => checkSection seen s i) Seen.empty =
      .ok seen) : FirstPass d := by
  obtain ⟨-, placed⟩ := checkSections_ok ok
  have grows := QuestionnaireDefinition.firstPass_grows ok
  have placedAt : ∀ b ∈ d.allBlocks, ∃ si bi, BlockPlaced seen si bi b ∧ b.questions ≠ [] := by
    intro b member
    obtain ⟨sec, si, bi, sectionAt, blockAt⟩ := QuestionnaireDefinition.coordinates_of_mem member
    exact ⟨si, bi, ((placed sec si sectionAt).2 b bi blockAt).2,
      ((placed sec si sectionAt).2 b bi blockAt).1⟩
  refine ⟨fun sec member => ?_, fun b member => ?_, ?_, ?_, ?_, fun b member v variant => ?_,
    ⟨seen, fun sec si member b bi at_ => ((placed sec si member).2 b bi at_).2⟩⟩
  · obtain ⟨si, member⟩ := exists_mem_zipIdx member
    exact (placed sec si member).1
  · obtain ⟨si, bi, -, nonempty⟩ := placedAt b member
    exact nonempty
  -- The pass keeps the keys of each index apart: section, block and calculation ids.
  · have keys := grows.sections.2 List.nodup_nil
    have ids : (d.sections.zipIdx.map fun s => (s.1.id, s.2)).map Prod.fst = d.sections.map (·.id) := by
      rw [List.map_map]
      exact map_zipIdx_fst (·.id) d.sections 0
    rwa [grows.sections.1, show Seen.empty.sections = [] from rfl, List.nil_append, ids] at keys
  · have keys := grows.blocks.2 List.nodup_nil
    rwa [grows.blocks.1, show Seen.empty.blocks = [] from rfl, List.nil_append,
      placedBlockEntries_keys, QuestionnaireDefinition.placedBlocks_blocks] at keys
  · have keys := grows.rules.2 List.nodup_nil
    rwa [grows.rules.1, show Seen.empty.rules = [] from rfl, List.nil_append,
      placedRuleEntries_keys, QuestionnaireDefinition.placedBlocks_blocks] at keys
  · obtain ⟨si, bi, blockPlaced, -⟩ := placedAt b member
    obtain ⟨-, i, found, -⟩ := blockPlaced.variants v variant
    simp [found]

/-- Every slot id of a placed block is recorded at the block's coordinates. -/
theorem BlockPlaced.slotPlace {seen : Seen} {si bi : Nat} {b : Block}
    (placed : BlockPlaced seen si bi b) {slot : SlotId} (member : slot ∈ b.slotIds) :
    ∃ i, seen.slotPlace? slot = some ⟨si, bi, i⟩ := by
  simp only [Block.slotIds, Block.allQuestions, List.mem_flatMap, List.mem_append, List.mem_map]
    at member
  obtain ⟨q, own | ⟨v, variant, rfl⟩, s, answer, rfl⟩ := member
  · obtain ⟨i, at_⟩ := List.getElem?_of_mem own
    exact ⟨i, (placed.questions q i (List.mem_zipIdx_iff_getElem?.mpr at_)).2.2 s answer⟩
  · obtain ⟨-, i, -, at_⟩ := placed.variants v variant
    exact ⟨i, at_ s answer⟩

/-- **No two blocks share a slot.** -/
theorem FirstPass.slots_apart {d : QuestionnaireDefinition} (pass : FirstPass d) {b b' : Block}
    (member : b ∈ d.allBlocks) (member' : b' ∈ d.allBlocks) {slot : SlotId}
    (declared : slot ∈ b.slotIds) (declared' : slot ∈ b'.slotIds) : b = b' := by
  obtain ⟨seen, placed⟩ := pass.placed
  obtain ⟨sec, si, bi, sectionAt, blockAt⟩ := QuestionnaireDefinition.coordinates_of_mem member
  obtain ⟨sec', si', bi', sectionAt', blockAt'⟩ :=
    QuestionnaireDefinition.coordinates_of_mem member'
  obtain ⟨i, at_⟩ := (placed sec si sectionAt b bi blockAt).slotPlace declared
  obtain ⟨i', at'⟩ := (placed sec' si' sectionAt' b' bi' blockAt').slotPlace declared'
  rw [at_, Option.some.injEq] at at'
  obtain ⟨rfl, rfl, -⟩ := SlotPlace.mk.inj at'
  have sameSection : sec = sec' := by
    have first := List.mem_zipIdx_iff_getElem?.mp sectionAt
    have second := List.mem_zipIdx_iff_getElem?.mp sectionAt'
    simp only at first second
    rw [first, Option.some.injEq] at second
    exact second
  subst sameSection
  have first := List.mem_zipIdx_iff_getElem?.mp blockAt
  have second := List.mem_zipIdx_iff_getElem?.mp blockAt'
  simp only at first second
  rw [first, Option.some.injEq] at second
  exact second

/-! ### What the entries read -/

namespace Questionnaire

/-- The slot declared at a position of the slot index: the answer at its index in the question
or variant the position names. -/
def slotAt? (q : Questionnaire) (p : SlotPosition) : Option AnswerSlot :=
  (q.questionAt? p).bind (·.answers[p.answer]?)

/-- The calculation at a position of the calculation index, with its block. -/
def ruleAt? (q : Questionnaire) (p : BlockPosition × Nat) : Option (Block × CalculatedRule) :=
  (q.blockAt? p.1.sectionIndex p.1.blockIndex).bind fun b => b.calculations[p.2]?.map fun r => (b, r)

theorem slot?_eq (q : Questionnaire) (x : SlotId) :
    q.slot? x = (q.slotPositions.lookup x).bind q.slotAt? := rfl

theorem calculation?_eq (q : Questionnaire) (r : RuleId) :
    q.calculation? r = (q.rulePositions.lookup r).bind q.ruleAt? := rfl

theorem blockAt?_of_mem {q : Questionnaire} {b : Block} {si bi : Nat}
    (at_ : (b, si, bi) ∈ q.definition.blockPositions) : q.blockAt? si bi = some b := by
  obtain ⟨sec, sectionAt, blockAt⟩ := QuestionnaireDefinition.mem_blockPositions.mp at_
  simp [blockAt?, List.mem_zipIdx_iff_getElem?.mp sectionAt, List.mem_zipIdx_iff_getElem?.mp blockAt]

/-- The block at a position is a block of the questionnaire. -/
theorem mem_of_blockAt? {q : Questionnaire} {si bi : Nat} {b : Block}
    (at_ : q.blockAt? si bi = some b) : b ∈ q.blocks := by
  obtain ⟨sec, sectionAt, blockAt⟩ := Option.bind_eq_some_iff.mp at_
  exact List.mem_flatMap.mpr ⟨sec, List.mem_of_getElem? sectionAt, List.mem_of_getElem? blockAt⟩

/-- A block found by its id is a block of the questionnaire. -/
theorem mem_of_block? {q : Questionnaire} {id : BlockId} {b : Block} (found : q.block? id = some b) :
    b ∈ q.blocks := by
  obtain ⟨p, -, at_⟩ := Option.bind_eq_some_iff.mp found
  exact mem_of_blockAt? at_

/-- A block found by a slot is a block of the questionnaire. -/
theorem mem_of_blockOf? {q : Questionnaire} {slot : SlotId} {b : Block}
    (found : q.blockOf? slot = some b) : b ∈ q.blocks := by
  obtain ⟨p, -, at_⟩ := Option.bind_eq_some_iff.mp found
  exact mem_of_blockAt? at_

end Questionnaire

/-- The slots a block declares, in the order the first pass records them: its own questions',
then those of each variant replacing one of its questions. -/
def Block.declaredSlots (b : Block) : List AnswerSlot :=
  b.questions.flatMap (·.answers) ++
    (b.questionVariants.filter fun v => (b.questions.findIdx? (·.id == v.question.id)).isSome).flatMap
      (·.question.answers)

section Entries

variable {q : Questionnaire} {b : Block} {si bi : Nat} (at_ : q.blockAt? si bi = some b)
include at_

theorem questionSlotEntries_read {questions : List (Question × Nat)}
    (asked : ∀ e ∈ questions, b.questions[e.2]? = some e.1) :
    (questionSlotEntries si bi questions).map (fun e => (e.1, q.slotAt? e.2)) =
      (questions.flatMap (·.1.answers)).map fun s => (s.id, some s) := by
  simp only [questionSlotEntries, List.map_flatMap]
  refine List.flatMap_congr fun e member => ?_
  rw [List.map_map]
  exact map_zipIdx_of_getElem? fun s k answer => by
    simp [Questionnaire.slotAt?, Questionnaire.questionAt?, at_, asked e member, answer]

theorem variantSlotEntries_read {variants : List (QuestionVariant × Nat)}
    (listed : ∀ e ∈ variants, b.questionVariants[e.2]? = some e.1) :
    (variantSlotEntries si bi b variants).map (fun e => (e.1, q.slotAt? e.2)) =
      (variants.flatMap fun v => if (b.questions.findIdx? (·.id == v.1.question.id)).isSome then
        v.1.question.answers else []).map fun s => (s.id, some s) := by
  simp only [variantSlotEntries, List.map_flatMap]
  refine List.flatMap_congr fun e member => ?_
  cases found : b.questions.findIdx? (·.id == e.1.question.id) with
  | none => rfl
  | some i =>
    simp only [Option.toList_some, List.flatMap_singleton, Option.isSome_some, ↓reduceIte,
      List.map_map]
    exact map_zipIdx_of_getElem? fun s k answer => by
      simp [Questionnaire.slotAt?, Questionnaire.questionAt?, at_, listed e member, answer]

/-- **Each slot entry of a block reads the slot it records**, in the order of the block's
declarations. -/
theorem Block.slotEntries_read :
    (b.slotEntries si bi).map (fun e => (e.1, q.slotAt? e.2)) =
      b.declaredSlots.map fun s => (s.id, some s) := by
  rw [Block.slotEntries, Block.declaredSlots, List.map_append, List.map_append,
    questionSlotEntries_read at_ fun e member => List.mem_zipIdx_iff_getElem?.mp member,
    variantSlotEntries_read at_ fun e member => List.mem_zipIdx_iff_getElem?.mp member,
    flatMap_zipIdx_fst, flatMap_filter,
    flatMap_zipIdx_fst (fun v : QuestionVariant =>
      if (b.questions.findIdx? (·.id == v.question.id)).isSome then v.question.answers else [])]

theorem Block.slotEntries_blocks :
    (b.slotEntries si bi).map (fun e => (e.1, q.blockAt? e.2.place.sectionIndex e.2.place.blockIndex)) =
      b.declaredSlots.map fun s => (s.id, some b) := by
  have placed : ∀ e ∈ b.slotEntries si bi, e.2.place.sectionIndex = si ∧ e.2.place.blockIndex = bi := by
    intro e member
    simp only [Block.slotEntries, questionSlotEntries, variantSlotEntries, List.mem_append,
      List.mem_flatMap, List.mem_map, Option.mem_toList] at member
    rcases member with ⟨_, _, _, _, rfl⟩ | ⟨_, _, _, _, _, _, rfl⟩ <;> exact ⟨rfl, rfl⟩
  calc (b.slotEntries si bi).map (fun e => (e.1, q.blockAt? e.2.place.sectionIndex e.2.place.blockIndex))
      = ((b.slotEntries si bi).map fun e => (e.1, q.slotAt? e.2)).map fun e => (e.1, some b) := by
        rw [List.map_map]
        exact List.map_congr_left fun e member => by
          simp [(placed e member).1, (placed e member).2, at_]
    _ = b.declaredSlots.map fun s => (s.id, some b) := by
        rw [Block.slotEntries_read at_, List.map_map]
        rfl

theorem Block.ruleEntries_read (p : BlockPosition) (placed : p.sectionIndex = si ∧ p.blockIndex = bi) :
    (b.ruleEntries p).map (fun e => (e.1, q.ruleAt? e.2)) =
      (b.calculations.map fun r => (b, r)).map fun x => (x.2.id, some x) := by
  rw [Block.ruleEntries, List.map_map, List.map_map]
  exact map_zipIdx_of_getElem? fun r i at' => by
    simp [Questionnaire.ruleAt?, placed.1, placed.2, at_, at']

end Entries

/-! ### Reading the indexes back -/

namespace QuestionnaireDefinition

variable {d : QuestionnaireDefinition}

theorem blockAt?_of_placed {b : Block} {p : BlockPosition} (member : (b, p) ∈ d.placedBlocks) :
    d.indexed.blockAt? p.sectionIndex p.blockIndex = some b :=
  Questionnaire.blockAt?_of_mem (List.mem_of_getElem? (mem_placedBlocks.mp member))

variable (d)

/-- **A block is the first block of its id.** -/
theorem indexed_block? (id : BlockId) : d.indexed.block? id = d.allBlocks.find? (·.id == id) := by
  have reads : (placedBlockEntries d.placedBlocks).map
      (fun e => (e.1, d.indexed.blockAt? e.2.sectionIndex e.2.blockIndex)) =
        d.allBlocks.map fun b => (b.id, some b) := by
    rw [placedBlockEntries, List.map_map, ← placedBlocks_blocks, List.map_map]
    exact List.map_congr_left fun e member => by simp [blockAt?_of_placed member]
  have found := lookup_bind_eq_find? (fun p : BlockPosition => d.indexed.blockAt? p.sectionIndex p.blockIndex)
    reads id
  rw [Option.map_id'] at found
  exact found

/-- **A block's order is the index of its location**, the first location of its id. -/
theorem indexed_orderOf? (id : BlockId) :
    d.indexed.orderOf? id = d.locationsOf.findIdx? (·.block == id) := by
  -- The block at each index of the order is placed there.
  have reads : (placedBlockEntries d.placedBlocks).map (fun e => (e.1, some e.2.order)) =
      d.locationsOf.zipIdx.map fun l => (l.1.block, some l.2) := by
    refine List.ext_getElem? fun k => ?_
    have same := d.getElem?_locationsOf_block k
    simp only [placedBlockEntries, placedBlocks, List.getElem?_map, getElem?_placeFrom,
      List.getElem?_zipIdx, Option.map_map, Nat.zero_add]
    cases at_ : d.locationsOf[k]? with
    | none =>
      rw [at_, Option.map_none, eq_comm, Option.map_eq_none_iff] at same
      rw [same]
      rfl
    | some l =>
      rw [at_, Option.map_some, eq_comm, Option.map_eq_some_iff] at same
      obtain ⟨e, placed, named⟩ := same
      rw [placed]
      simp [named]
  have found := lookup_bind_eq_find? (fun p : BlockPosition => some p.order) reads id
  rw [List.findIdx?_eq_fst_find?_zipIdx]
  unfold Questionnaire.orderOf?
  rw [Option.map_eq_bind]
  exact found

/-- **A block's location is the first location of its id.** -/
theorem indexed_location? (id : BlockId) :
    d.indexed.location? id = d.locationsOf.find? (·.block == id) := by
  have ordered : d.indexed.location? id = (d.indexed.orderOf? id).bind (d.locationsOf[·]?) := by
    unfold Questionnaire.location? Questionnaire.orderOf?
    rw [Option.bind_map]
    rfl
  rw [ordered, indexed_orderOf?, findIdx?_bind_getElem?]

/-- **A section is the first section of its id.** -/
theorem indexed_section? (id : SectionId) :
    d.indexed.section? id = d.sections.find? (·.id == id) := by
  have reads : (d.sections.zipIdx.map fun s => (s.1.id, s.2)).map (fun e => (e.1, d.sections[e.2]?)) =
      d.sections.map fun s => (s.id, some s) := by
    rw [List.map_map]
    exact map_zipIdx_of_getElem? fun s i at_ => by simp [at_]
  have found := lookup_bind_eq_find? (d.sections[·]?) reads id
  rw [Option.map_id'] at found
  exact found

theorem placedSlotEntries_read :
    (placedSlotEntries d.placedBlocks).map (fun e => (e.1, d.indexed.slotAt? e.2)) =
      (d.allBlocks.flatMap Block.declaredSlots).map fun s => (s.id, some s) := by
  rw [placedSlotEntries, List.map_flatMap, List.map_flatMap, ← placedBlocks_blocks,
    List.flatMap_map]
  exact List.flatMap_congr fun e member => Block.slotEntries_read (blockAt?_of_placed member)

/-- **A slot is its first declaration**, block by block, each block's own questions before its
variants. -/
theorem indexed_slot? (x : SlotId) :
    d.indexed.slot? x = (d.allBlocks.flatMap Block.declaredSlots).find? (·.id == x) := by
  have found := lookup_bind_eq_find? d.indexed.slotAt? d.placedSlotEntries_read x
  rw [Option.map_id'] at found
  rw [Questionnaire.slot?_eq]
  show (((placedSlotEntries d.placedBlocks).foldl addFirst []).lookup x).bind _ = _
  rw [lookup_foldl_addFirst, List.nil_append]
  exact found

/-- **A slot has a position in the index** exactly when some block declares it. -/
theorem indexed_slotPositions_isSome (x : SlotId) :
    (d.indexed.slotPositions.lookup x).isSome ↔ x ∈ (d.allBlocks.flatMap Block.declaredSlots).map (·.id) := by
  have keys : (placedSlotEntries d.placedBlocks).map Prod.fst =
      (d.allBlocks.flatMap Block.declaredSlots).map (·.id) := by
    have named := congrArg (List.map Prod.fst) d.placedSlotEntries_read
    simpa [List.map_map, Function.comp_def] using named
  show (((placedSlotEntries d.placedBlocks).foldl addFirst []).lookup x).isSome ↔ _
  rw [lookup_foldl_addFirst, List.nil_append, lookup_isSome_iff_mem, keys]

/-- **A slot's block is the first block declaring it.** -/
theorem indexed_blockOf? (x : SlotId) :
    d.indexed.blockOf? x = d.allBlocks.find? fun b => (b.declaredSlots.find? (·.id == x)).isSome := by
  have reads : (placedSlotEntries d.placedBlocks).map
      (fun e => (e.1, d.indexed.blockAt? e.2.place.sectionIndex e.2.place.blockIndex)) =
        (d.allBlocks.flatMap fun b => b.declaredSlots.map fun s => (s, b)).map
          fun y => (y.1.id, some y.2) := by
    rw [placedSlotEntries, List.map_flatMap, List.map_flatMap, ← placedBlocks_blocks,
      List.flatMap_map]
    refine List.flatMap_congr fun e member => ?_
    rw [Block.slotEntries_blocks (blockAt?_of_placed member), List.map_map]
    rfl
  have found := lookup_bind_eq_find?
    (fun p : SlotPosition => d.indexed.blockAt? p.place.sectionIndex p.place.blockIndex) reads x
  rw [List.find?_flatMap] at found
  simp only [List.find?_map] at found
  rw [← findSome?_pair_snd]
  show (((placedSlotEntries d.placedBlocks).foldl addFirst []).lookup x).bind _ = _
  rw [lookup_foldl_addFirst, List.nil_append, found]
  rfl

/-- **A calculation is the first of its id**, with its block. -/
theorem indexed_calculation? (r : RuleId) :
    d.indexed.calculation? r =
      d.allBlocks.findSome? fun b => (b.calculations.find? (·.id == r)).map fun c => (b, c) := by
  have reads : (placedRuleEntries d.placedBlocks).map (fun e => (e.1, d.indexed.ruleAt? e.2)) =
      (d.allBlocks.flatMap fun b => b.calculations.map fun c => (b, c)).map
        fun x => (x.2.id, some x) := by
    rw [placedRuleEntries, List.map_flatMap, List.map_flatMap, ← placedBlocks_blocks,
      List.flatMap_map]
    exact List.flatMap_congr fun e member =>
      Block.ruleEntries_read (blockAt?_of_placed member) e.2 ⟨rfl, rfl⟩
  have found := lookup_bind_eq_find? d.indexed.ruleAt? reads r
  rw [Option.map_id', List.find?_flatMap] at found
  simp only [List.find?_map] at found
  exact found

end QuestionnaireDefinition

end Survey
