import Mathlib
import Survey.Proofs.Routing.Walk
import Survey.Proofs.Schema.Validity
import Survey.Proofs.Engine.Redisplay

/-!
# The indexes and lookups of a loaded questionnaire

Loading builds, as it checks a definition, one index per kind of id: every block's location in
order, and by id the position of each block (its section's index, its index there and the index
of its location), of each section, of each slot (the question declaring it, the variant declaring
it if a variant does, and its index among the answers) and of each calculation (its block's
position and its index there). Every lookup reads the definition through those indexes. On a
loaded questionnaire each index entry is the position of the declaration of its id, and each
lookup says what the definition says (`Questionnaire.LookupsAgree`):

* `lookup_eq_some_iff_mem` — in a keyed list with distinct keys, a key is found with exactly the
  value listed for it;
* `Questionnaire.Checked.blockPositions_eq_some`, `sectionPositions_eq_some`,
  `slotPositions_declared`, `rulePositions_eq_some` — the indexes hold the positions of the
  declarations;
* `Questionnaire.Checked.slot?_eq_or` — a slot is found among the default questions' slots
  first, then among the variants', since no two blocks share a slot;
* `QuestionnaireDefinition.Valid.ownSlotIds_nodup` — no two slots of the blocks' own questions
  share an id: one owner per slot, one question per id, one slot per id in a question;
* **`Questionnaire.lookups_agree_of_ofDefinition`** — the indexes and every lookup of a loaded
  questionnaire agree with its definition.
-/

namespace Survey

/-! ### Keyed lists and searches -/

/-- **A search with at most one match finds exactly it.** -/
theorem find?_eq_some_iff_of_unique {α : Type} {p : α → Bool} {l : List α}
    (unique : ∀ a ∈ l, ∀ b ∈ l, p a = true → p b = true → a = b) {a : α} :
    l.find? p = some a ↔ a ∈ l ∧ p a = true := by
  constructor
  · intro found
    exact ⟨List.mem_of_find?_eq_some found, List.find?_some found⟩
  · rintro ⟨member, holds⟩
    have some : (l.find? p).isSome := List.find?_isSome.mpr ⟨a, member, holds⟩
    obtain ⟨b, found⟩ := Option.isSome_iff_exists.mp some
    rw [found, unique b (List.mem_of_find?_eq_some found) a member (List.find?_some found) holds]

/-- In a list whose keys are all different, a search by key finds the element with that key. -/
theorem find?_key_eq_some_iff {α β : Type} [BEq β] [LawfulBEq β] {f : α → β} {l : List α}
    (distinct : (l.map f).Nodup) {k : β} {a : α} :
    l.find? (fun x => f x == k) = some a ↔ a ∈ l ∧ f a = k := by
  rw [find?_eq_some_iff_of_unique, beq_iff_eq]
  intro x member y member' keyed keyed'
  exact List.inj_on_of_nodup_map distinct member member' ((beq_iff_eq.mp keyed).trans
    (beq_iff_eq.mp keyed').symm)

/-- **In a keyed list with distinct keys, a key is found with exactly the value listed for it.** -/
theorem lookup_eq_some_iff_mem {α : Type} {l : List (String × α)} (distinct : (l.map Prod.fst).Nodup)
    {k : String} {v : α} : l.lookup k = some v ↔ (k, v) ∈ l := by
  constructor
  · exact mem_of_lookup_eq_some
  · intro member
    obtain ⟨w, found⟩ := Option.isSome_iff_exists.mp
      (lookup_isSome_iff_mem.mpr (List.mem_map_of_mem (f := Prod.fst) member))
    have same := List.inj_on_of_nodup_map distinct (mem_of_lookup_eq_some found) member rfl
    rw [found, (Prod.mk.inj same).2]

/-- In a list without repeats, an element stands at one index only. -/
theorem index_eq_of_nodup {α : Type} {l : List α} (distinct : l.Nodup) {i j : Nat} {a : α}
    (at_ : l[i]? = some a) (at' : l[j]? = some a) : i = j :=
  (List.getElem?_inj (List.getElem?_eq_some_iff.mp at_).1 distinct).mp (at_.trans at'.symm)

/-- **Searching each item's two parts in turn is searching all first parts, then all second
parts**, when at most one item has a match in either. -/
theorem findSome?_or_of_apart {α β : Type} (g h : α → Option β) {l : List α}
    (apart : ∀ a ∈ l, ∀ a' ∈ l, ((g a).or (h a)).isSome → ((g a').or (h a')).isSome → a = a') :
    l.findSome? (fun a => (g a).or (h a)) = (l.findSome? g).or (l.findSome? h) := by
  induction l with
  | nil => rfl
  | cons a rest ih =>
    have restApart : ∀ x ∈ rest, ∀ y ∈ rest, ((g x).or (h x)).isSome → ((g y).or (h y)).isSome →
        x = y :=
      fun x member y member' => apart x (List.mem_cons_of_mem _ member) y (List.mem_cons_of_mem _ member')
    rw [List.findSome?_cons, List.findSome?_cons, List.findSome?_cons]
    cases first : g a with
    | some z => rfl
    | none =>
      cases second : h a with
      | none => simpa using ih restApart
      | some z =>
        -- A later first part matching would make its item `a`, whose first part does not match.
        have later : rest.findSome? g = none := by
          refine List.findSome?_eq_none_iff.mpr fun a' member => ?_
          cases found : g a' with
          | none => rfl
          | some z' =>
            have same := apart a List.mem_cons_self a' (List.mem_cons_of_mem _ member)
              (by simp [first, second]) (by simp [found])
            rw [← same, first] at found
            cases found
        simp [later]

/-! ### Slots of the blocks' own questions -/

namespace Block

/-- A slot of one of a block's own questions is owned by the block and that question. -/
theorem mem_slotOwners_of_question {b : Block} {q : Question} (own : q ∈ b.questions)
    {s : AnswerSlot} (answer : s ∈ q.answers) : (s.id, b.id, q.id) ∈ b.slotOwners :=
  List.mem_flatMap.mpr ⟨q, List.mem_append_left _ own,
    List.mem_map_of_mem (f := fun s => (s.id, b.id, q.id)) answer⟩

end Block

namespace QuestionnaireDefinition

/-- Every slot of the blocks' own questions, in order. -/
def ownSlots (d : QuestionnaireDefinition) : List AnswerSlot :=
  d.allBlocks.flatMap fun b => b.questions.flatMap (·.answers)

/-- **No two slots of the blocks' own questions share an id**: two questions declaring one
slot id are its one owner, so one question, and a question's slot ids differ. -/
theorem Valid.ownSlotIds_nodup {d : QuestionnaireDefinition} (valid : d.Valid) :
    (d.ownSlots.map (·.id)).Nodup := by
  have regroup : d.ownSlots = d.defaultQuestions.flatMap (·.answers) := List.flatMap_assoc.symm
  rw [regroup, List.map_flatMap, List.nodup_flatMap]
  refine ⟨fun q asked => valid.slot_ids_nodup q asked, ?_⟩
  have ids := List.pairwise_map.mp valid.question_ids_nodup
  refine ids.imp_of_mem fun {q q'} asked asked' different => ?_
  -- A shared slot id would give the two questions one owner.
  intro x declared declared'
  obtain ⟨b, member, own⟩ := List.mem_flatMap.mp asked
  obtain ⟨b', member', own'⟩ := List.mem_flatMap.mp asked'
  obtain ⟨s, answer, rfl⟩ := List.mem_map.mp declared
  obtain ⟨s', answer', same⟩ := List.mem_map.mp declared'
  have owner := mem_slotOwners.mpr ⟨b, member, Block.mem_slotOwners_of_question own answer⟩
  have owner' := mem_slotOwners.mpr ⟨b', member', Block.mem_slotOwners_of_question own' answer'⟩
  rw [same] at owner'
  exact different (Prod.mk.inj (valid.owners_agree _ _ _ owner owner')).2

end QuestionnaireDefinition

/-! ### Slot positions -/

/-- The block declares the slot `x` at the position `p`: in the question at `p`'s place or, when
`p` names a variant, in that variant, which replaces the question at the place. -/
def Block.DeclaresAt (b : Block) (x : SlotId) (p : SlotPosition) : Prop :=
  ∃ question, b.questions[p.place.questionIndex]? = some question ∧
    match p.variant with
    | none => question.answers[p.answer]?.map (·.id) = some x
    | some v => ∃ variant, b.questionVariants[v]? = some variant ∧
        variant.question.id = question.id ∧ variant.question.answers[p.answer]?.map (·.id) = some x

/-- Every slot entry the first pass makes for a block is at the block's coordinates and names a
declaration of its slot there. -/
theorem Block.mem_slotEntries {b : Block} {si bi : Nat} {x : SlotId} {p : SlotPosition}
    (member : (x, p) ∈ b.slotEntries si bi) :
    p.place.sectionIndex = si ∧ p.place.blockIndex = bi ∧ b.DeclaresAt x p := by
  simp only [Block.slotEntries, questionSlotEntries, variantSlotEntries, List.mem_append,
    List.mem_flatMap, List.mem_map, Option.mem_toList] at member
  rcases member with ⟨⟨question, i⟩, asked, ⟨s, a⟩, answer, same⟩ |
    ⟨⟨v, vi⟩, listed, i, found, ⟨s, a⟩, answer, same⟩
  · obtain ⟨rfl, rfl⟩ := Prod.mk.inj same
    refine ⟨rfl, rfl, question, List.mem_zipIdx_iff_getElem?.mp asked, ?_⟩
    simp [List.mem_zipIdx_iff_getElem?.mp answer]
  · obtain ⟨rfl, rfl⟩ := Prod.mk.inj same
    obtain ⟨bound, named, -⟩ := List.findIdx?_eq_some_iff_getElem.mp found
    refine ⟨rfl, rfl, b.questions[i], List.getElem?_eq_getElem bound, v,
      List.mem_zipIdx_iff_getElem?.mp listed, (beq_iff_eq.mp named).symm, ?_⟩
    simp [List.mem_zipIdx_iff_getElem?.mp answer]

namespace Questionnaire

/-- Every slot of the blocks' own questions, in order. -/
def ownSlots (q : Questionnaire) : List AnswerSlot :=
  q.blocks.flatMap fun b => b.questions.flatMap (·.answers)

/-- Every slot of the blocks' variants, in order. -/
def variantSlots (q : Questionnaire) : List AnswerSlot :=
  q.blocks.flatMap fun b => b.questionVariants.flatMap (·.question.answers)

/-- A block stands at a section's and block's index exactly when the definition lists it there. -/
theorem blockAt?_eq_some_iff {q : Questionnaire} {si bi : Nat} {b : Block} :
    q.blockAt? si bi = some b ↔ (b, si, bi) ∈ q.definition.blockPositions := by
  refine ⟨fun at_ => ?_, blockAt?_of_mem⟩
  obtain ⟨sec, sectionAt, blockAt⟩ := Option.bind_eq_some_iff.mp at_
  exact QuestionnaireDefinition.mem_blockPositions.mpr
    ⟨sec, List.mem_zipIdx_iff_getElem?.mpr sectionAt, List.mem_zipIdx_iff_getElem?.mpr blockAt⟩

/-- A placed block of the definition stands at its position. -/
theorem blockAt?_of_placed {q : Questionnaire} {b : Block} {p : BlockPosition}
    (member : (b, p) ∈ q.definition.placedBlocks) : q.blockAt? p.sectionIndex p.blockIndex = some b :=
  blockAt?_of_mem (List.mem_of_getElem? (QuestionnaireDefinition.mem_placedBlocks.mp member))

/-- **What the indexes and lookups of a questionnaire give**, read against its definition. -/
structure LookupsAgree (q : Questionnaire) : Prop where
  /-- Every block's location, section by section, block by block. -/
  locations_eq : q.locations =
    q.definition.sections.flatMap fun s => s.blocks.map fun b => ⟨s.id, b.id⟩
  /-- No block is listed twice. -/
  locations_nodup : (q.locations.map (·.block)).Nodup
  /-- The block index holds a block's section's index, its index there and the index of its
  location. -/
  blockPositions_eq_some : ∀ id p, q.blockPositions.lookup id = some p ↔
    (q.blockAt? p.sectionIndex p.blockIndex).map (·.id) = some id ∧
      q.locations[p.order]?.map (·.block) = some id
  /-- The section index holds a section's index. -/
  sectionPositions_eq_some : ∀ id i, q.sectionPositions.lookup id = some i ↔
    q.definition.sections[i]?.map (·.id) = some id
  /-- The slot index holds a position for every slot some block declares, and only those. -/
  slotPositions_isSome : ∀ x, (q.slotPositions.lookup x).isSome ↔ ∃ b ∈ q.blocks, x ∈ b.slotIds
  /-- A slot's position is where its block declares it. -/
  slotPositions_declared : ∀ x p, q.slotPositions.lookup x = some p →
    ∃ b, q.blockAt? p.place.sectionIndex p.place.blockIndex = some b ∧ b.DeclaresAt x p
  /-- The calculation index holds a calculation's block position and its index in the block. -/
  rulePositions_eq_some : ∀ r p i, q.rulePositions.lookup r = some (p, i) ↔
    ∃ b, q.blockPositions.lookup b.id = some p ∧ q.blockAt? p.sectionIndex p.blockIndex = some b ∧
      b.calculations[i]?.map (·.id) = some r
  /-- A block's order is its index among the locations. -/
  orderOf?_eq_some : ∀ id i, q.orderOf? id = some i ↔ q.locations[i]?.map (·.block) = some id
  /-- A block's location names the block and its section. -/
  location?_eq_some : ∀ id l, q.location? id = some l ↔
    ∃ sec ∈ q.definition.sections, ∃ b ∈ sec.blocks, b.id = id ∧ l = ⟨sec.id, b.id⟩
  block?_eq_some : ∀ id b, q.block? id = some b ↔ b ∈ q.blocks ∧ b.id = id
  /-- After a block comes the location at the next index, and nothing after the last. -/
  nextInSequence?_eq : ∀ i l, q.locations[i]? = some l → q.nextInSequence? l.block = q.locations[i + 1]?
  /-- A section starts at its first block. -/
  sectionStart?_eq_some : ∀ id l, q.sectionStart? id = some l ↔
    ∃ sec ∈ q.definition.sections, ∃ first, sec.id = id ∧ sec.blocks.head? = some first ∧
      l = ⟨sec.id, first.id⟩
  /-- A slot of a block's own question is declared as there. -/
  slot?_of_ownSlot : ∀ s ∈ q.ownSlots, q.slot? s.id = some s
  /-- A slot of variants only is declared as in the first variant declaring it. -/
  slot?_of_variants : ∀ x, x ∉ q.ownSlots.map (·.id) →
    q.slot? x = q.variantSlots.find? (·.id == x)
  /-- The block declaring a slot, in a question or a variant. -/
  blockOf?_eq_some : ∀ x b, q.blockOf? x = some b ↔ b ∈ q.blocks ∧ x ∈ b.slotIds
  calculation?_eq_some : ∀ r b rule, q.calculation? r = some (b, rule) ↔
    b ∈ q.blocks ∧ rule ∈ b.calculations ∧ rule.id = r

namespace Checked

variable {q : Questionnaire} (checked : q.Checked)
include checked

/-! ### The indexes -/

theorem locations_eq_locationsOf : q.locations = q.definition.locationsOf :=
  congrArg Questionnaire.locations checked.indexed.symm

theorem blockPositions_eq : q.blockPositions = placedBlockEntries q.definition.placedBlocks :=
  congrArg Questionnaire.blockPositions checked.indexed.symm

theorem sectionPositions_eq :
    q.sectionPositions = q.definition.sections.zipIdx.map fun s => (s.1.id, s.2) :=
  congrArg Questionnaire.sectionPositions checked.indexed.symm

theorem slotPositions_eq :
    q.slotPositions = (placedSlotEntries q.definition.placedBlocks).foldl addFirst [] :=
  congrArg Questionnaire.slotPositions checked.indexed.symm

theorem rulePositions_eq : q.rulePositions = placedRuleEntries q.definition.placedBlocks :=
  congrArg Questionnaire.rulePositions checked.indexed.symm

theorem blockEntries_nodup : ((placedBlockEntries q.definition.placedBlocks).map Prod.fst).Nodup := by
  rw [placedBlockEntries_keys, QuestionnaireDefinition.placedBlocks_blocks]
  exact checked.ids_nodup

/-- **The block index holds each block's position**: a block id is mapped to the indices of the
section and block declaring it and to the index of its location. -/
theorem blockPositions_eq_some (id : BlockId) (p : BlockPosition) :
    q.blockPositions.lookup id = some p ↔
      (q.blockAt? p.sectionIndex p.blockIndex).map (·.id) = some id ∧
        q.locations[p.order]?.map (·.block) = some id := by
  have distinct : (q.definition.locationsOf.map (·.block)).Nodup := by
    rw [QuestionnaireDefinition.locationsOf_blocks]
    exact checked.ids_nodup
  rw [checked.blockPositions_eq, checked.locations_eq_locationsOf,
    lookup_eq_some_iff_mem checked.blockEntries_nodup, placedBlockEntries, List.mem_map]
  constructor
  · rintro ⟨⟨b, p'⟩, member, same⟩
    obtain ⟨rfl, rfl⟩ := Prod.mk.inj same
    refine ⟨by rw [blockAt?_of_placed member]; rfl, ?_⟩
    rw [QuestionnaireDefinition.getElem?_locationsOf_block,
      QuestionnaireDefinition.mem_placedBlocks.mp member]
    rfl
  · rintro ⟨named, located⟩
    obtain ⟨b, at_, rfl⟩ := Option.map_eq_some_iff.mp named
    obtain ⟨k, listed⟩ : ∃ k, q.definition.blockPositions[k]? = some (b, p.sectionIndex, p.blockIndex) :=
      List.getElem?_of_mem (blockAt?_eq_some_iff.mp at_)
    have placed : k = p.order := by
      have atK : (q.definition.locationsOf.map (·.block))[k]? = some b.id := by
        rw [List.getElem?_map, QuestionnaireDefinition.getElem?_locationsOf_block, listed]
        rfl
      rw [← List.getElem?_map] at located
      exact index_eq_of_nodup distinct atK located
    exact ⟨(b, p), QuestionnaireDefinition.mem_placedBlocks.mpr (placed ▸ listed), rfl⟩

/-- **The section index holds each section's index.** -/
theorem sectionPositions_eq_some (id : SectionId) (i : Nat) :
    q.sectionPositions.lookup id = some i ↔ q.definition.sections[i]?.map (·.id) = some id := by
  have keys : ((q.definition.sections.zipIdx.map fun s => (s.1.id, s.2)).map Prod.fst).Nodup := by
    rw [List.map_map]
    exact (map_zipIdx_fst (·.id) q.definition.sections 0).symm ▸ checked.section_ids_nodup
  rw [checked.sectionPositions_eq, lookup_eq_some_iff_mem keys, List.mem_map]
  constructor
  · rintro ⟨⟨sec, j⟩, member, same⟩
    obtain ⟨rfl, rfl⟩ := Prod.mk.inj same
    rw [List.mem_zipIdx_iff_getElem?.mp member]
    rfl
  · intro named
    obtain ⟨sec, at_, rfl⟩ := Option.map_eq_some_iff.mp named
    exact ⟨(sec, i), List.mem_zipIdx_iff_getElem?.mpr at_, rfl⟩

/-- **The slot index holds where each slot is declared**: its block, the question declaring it
(for a variant's slot, the question the variant replaces), the variant, and its index among the
answers. -/
theorem slotPositions_declared {x : SlotId} {p : SlotPosition}
    (found : q.slotPositions.lookup x = some p) :
    ∃ b, q.blockAt? p.place.sectionIndex p.place.blockIndex = some b ∧ b.DeclaresAt x p := by
  rw [checked.slotPositions_eq, lookup_foldl_addFirst, List.nil_append] at found
  obtain ⟨⟨b, position⟩, placed, entry⟩ := List.mem_flatMap.mp (mem_of_lookup_eq_some found)
  obtain ⟨sectionAt, blockAt, declares⟩ := Block.mem_slotEntries entry
  refine ⟨b, ?_, declares⟩
  rw [sectionAt, blockAt]
  exact blockAt?_of_placed placed

/-- The slots the blocks declare are the slots of their questions and variants. -/
theorem declaredSlots_ids :
    (q.blocks.flatMap Block.declaredSlots).map (·.id) = q.blocks.flatMap Block.slotIds := by
  rw [List.flatMap_congr fun b member => Block.declaredSlots_eq (checked.variants_replace b member),
    List.map_flatMap]
  refine List.flatMap_congr fun b _ => ?_
  rw [List.map_flatMap]
  rfl

theorem slotPositions_isSome (x : SlotId) :
    (q.slotPositions.lookup x).isSome ↔ ∃ b ∈ q.blocks, x ∈ b.slotIds := by
  have indexed := q.definition.indexed_slotPositions_isSome x
  rw [checked.indexed] at indexed
  rw [indexed, QuestionnaireDefinition.allBlocks, ← Questionnaire.blocks, checked.declaredSlots_ids,
    List.mem_flatMap]

/-- **The calculation index holds each calculation's position**: its block's position, as the
block index has it, and its index among the block's calculations. -/
theorem rulePositions_eq_some (unique : q.RuleIdsUnique) (r : RuleId) (p : BlockPosition) (i : Nat) :
    q.rulePositions.lookup r = some (p, i) ↔
      ∃ b, q.blockPositions.lookup b.id = some p ∧ q.blockAt? p.sectionIndex p.blockIndex = some b ∧
        b.calculations[i]?.map (·.id) = some r := by
  have ruleKeys : ((placedRuleEntries q.definition.placedBlocks).map Prod.fst).Nodup := by
    rw [placedRuleEntries_keys, QuestionnaireDefinition.placedBlocks_blocks]
    exact unique
  have blockKeys := checked.blockEntries_nodup
  rw [checked.rulePositions_eq, checked.blockPositions_eq, lookup_eq_some_iff_mem ruleKeys]
  constructor
  · intro member
    obtain ⟨⟨b, position⟩, placed, entry⟩ := List.mem_flatMap.mp member
    obtain ⟨⟨rule, j⟩, at_, same⟩ := List.mem_map.mp entry
    simp only [Prod.mk.injEq] at same
    obtain ⟨rfl, rfl, rfl⟩ := same
    refine ⟨b, (lookup_eq_some_iff_mem blockKeys).mpr (List.mem_map.mpr ⟨(b, position), placed, rfl⟩),
      blockAt?_of_placed placed, ?_⟩
    rw [List.mem_zipIdx_iff_getElem?.mp at_]
    rfl
  · rintro ⟨b, positioned, at_, named⟩
    obtain ⟨⟨b', position⟩, placed, same⟩ :=
      List.mem_map.mp ((lookup_eq_some_iff_mem blockKeys).mp positioned)
    obtain ⟨-, rfl⟩ := Prod.mk.inj same
    have sameBlock : b' = b := by
      rw [blockAt?_of_placed placed, Option.some.injEq] at at_
      exact at_
    subst sameBlock
    obtain ⟨rule, calculated, rfl⟩ := Option.map_eq_some_iff.mp named
    exact List.mem_flatMap.mpr ⟨(b', position), placed,
      List.mem_map.mpr ⟨(rule, i), List.mem_zipIdx_iff_getElem?.mpr calculated, rfl⟩⟩

/-! ### The lookups through them -/

theorem orderOf?_eq_some_iff {id : BlockId} {i : Nat} :
    q.orderOf? id = some i ↔ q.locations[i]?.map (·.block) = some id := by
  rw [checked.orderOf?_eq_findIdx?]
  constructor
  · intro placed
    obtain ⟨bound, named, -⟩ := List.findIdx?_eq_some_iff_getElem.mp placed
    simpa [List.getElem?_eq_getElem bound] using named
  · intro named
    obtain ⟨l, at_, rfl⟩ := Option.map_eq_some_iff.mp named
    exact findIdx?_key_of_nodup checked.blocks_nodup at_

theorem location?_eq_some_iff {id : BlockId} {l : Location} :
    q.location? id = some l ↔ l ∈ q.locations ∧ l.block = id := by
  rw [checked.location?_eq_find?]
  exact find?_key_eq_some_iff checked.blocks_nodup

theorem block?_eq_some_iff {id : BlockId} {b : Block} :
    q.block? id = some b ↔ b ∈ q.blocks ∧ b.id = id := by
  rw [checked.block?_eq_find?]
  exact find?_key_eq_some_iff checked.ids_nodup

/-- **A section starts at its first block.** -/
theorem sectionStart?_eq_some_iff {id : SectionId} {l : Location} :
    q.sectionStart? id = some l ↔ ∃ sec ∈ q.definition.sections, ∃ first, sec.id = id ∧
      sec.blocks.head? = some first ∧ l = ⟨sec.id, first.id⟩ := by
  have located : ∀ sec ∈ q.definition.sections, ∀ first, sec.blocks.head? = some first →
      q.location? first.id = some ⟨sec.id, first.id⟩ := by
    intro sec member first opening
    refine (checked.location?_eq_some_iff).mpr ⟨?_, rfl⟩
    rw [checked.locations_eq_locationsOf]
    exact List.mem_flatMap.mpr ⟨sec, member,
      List.mem_map_of_mem (f := fun b : Block => (⟨sec.id, b.id⟩ : Location))
        (List.mem_of_mem_head? opening)⟩
  have found : ∀ sec, q.section? id = some sec ↔ sec ∈ q.definition.sections ∧ sec.id = id := by
    intro sec
    rw [checked.section?_eq_find?]
    exact find?_key_eq_some_iff checked.section_ids_nodup
  unfold sectionStart?
  constructor
  · intro started
    obtain ⟨sec, named, started⟩ := Option.bind_eq_some_iff.mp started
    obtain ⟨first, opening, at_⟩ := Option.bind_eq_some_iff.mp started
    obtain ⟨member, rfl⟩ := (found sec).mp named
    rw [located sec member first opening, Option.some.injEq] at at_
    exact ⟨sec, member, first, rfl, opening, at_.symm⟩
  · rintro ⟨sec, member, first, rfl, opening, rfl⟩
    rw [(found sec).mpr ⟨member, rfl⟩, Option.bind_some, opening, Option.bind_some,
      located sec member first opening]

/-- **A slot is found among the default questions' slots first, then among the variants'**: the
first pass meets a block's own slots before its variants', and no two blocks share a slot. -/
theorem slot?_eq_or (x : SlotId) :
    q.slot? x = (q.ownSlots.find? (·.id == x)).or (q.variantSlots.find? (·.id == x)) := by
  have split : q.blocks.flatMap Block.declaredSlots = q.blocks.flatMap fun b =>
      b.questions.flatMap (·.answers) ++ b.questionVariants.flatMap (·.question.answers) := by
    refine List.flatMap_congr fun b member => ?_
    rw [Block.declaredSlots_eq (checked.variants_replace b member), Block.allQuestions,
      List.flatMap_append, List.flatMap_map]
  have declares : ∀ b : Block, ((b.questions.flatMap (·.answers) ++
      b.questionVariants.flatMap (·.question.answers)).find? (·.id == x)).isSome → x ∈ b.slotIds := by
    intro b matched
    obtain ⟨s, declared, named⟩ := List.find?_isSome.mp matched
    simp only [Block.slotIds, Block.allQuestions, List.mem_flatMap, List.mem_append, List.mem_map]
      at declared ⊢
    rcases declared with ⟨question, asked, answer⟩ | ⟨v, variant, answer⟩
    · exact ⟨question, .inl asked, s, answer, beq_iff_eq.mp named⟩
    · exact ⟨v.question, .inr ⟨v, variant, rfl⟩, s, answer, beq_iff_eq.mp named⟩
  rw [checked.slot?_eq_find?, split, List.find?_flatMap, ownSlots, variantSlots, List.find?_flatMap,
    List.find?_flatMap, ← findSome?_or_of_apart]
  · simp only [List.find?_append]
  · -- A block with a match declares `x`, so it is the one block declaring it.
    intro b member b' member' matched matched'
    rw [← List.find?_append] at matched matched'
    exact checked.slots_apart b member b' member' x (declares b matched) (declares b' matched')

/-- **A slot of a block's own question is found as declared there**, when no two such slots
share an id. -/
theorem slot?_of_ownSlot (distinct : (q.ownSlots.map (·.id)).Nodup) {s : AnswerSlot}
    (own : s ∈ q.ownSlots) : q.slot? s.id = some s := by
  rw [checked.slot?_eq_or, (find?_key_eq_some_iff distinct).mpr ⟨own, rfl⟩]
  rfl

/-- A slot declared by no block's own question is found in the first variant declaring it. -/
theorem slot?_of_variants {x : SlotId} (absent : x ∉ q.ownSlots.map (·.id)) :
    q.slot? x = q.variantSlots.find? (·.id == x) := by
  have missing : q.ownSlots.find? (·.id == x) = none :=
    List.find?_eq_none.mpr fun s own same => absent (List.mem_map.mpr ⟨s, own, by simpa using same⟩)
  rw [checked.slot?_eq_or, missing]
  rfl

/-- The block declaring a slot: no two blocks share a slot. -/
theorem blockOf?_eq_some_iff {x : SlotId} {b : Block} :
    q.blockOf? x = some b ↔ b ∈ q.blocks ∧ x ∈ b.slotIds := by
  refine ⟨checked.blockOf?_spec, ?_⟩
  rintro ⟨member, declared⟩
  exact checked.blockOf?_of_mem member declared

/-- A calculation and its block, when calculation ids are all different. -/
theorem calculation?_eq_some_iff (unique : q.RuleIdsUnique) {r : RuleId} {b : Block}
    {rule : CalculatedRule} :
    q.calculation? r = some (b, rule) ↔ b ∈ q.blocks ∧ rule ∈ b.calculations ∧ rule.id = r := by
  constructor
  · intro found
    rw [checked.calculation?_eq_findSome?] at found
    obtain ⟨b', member, picked⟩ := List.exists_of_findSome?_eq_some found
    obtain ⟨rule', chosen, same⟩ := Option.map_eq_some_iff.mp picked
    obtain ⟨rfl, rfl⟩ := Prod.mk.inj same
    exact ⟨member, List.mem_of_find?_eq_some chosen, by simpa using List.find?_some chosen⟩
  · rintro ⟨member, declared, rfl⟩
    exact unique.calculation?_eq checked member declared

end Checked

/-- **The indexes and lookups of a loaded questionnaire agree with its definition.** Loading
records every block's location in order and, by id, the position of every block, section, slot
and calculation, refusing repeated ids; so each index holds the position of the one declaration
of its id, and every lookup through them finds what the definition declares under the id. -/
theorem lookups_agree_of_ofDefinition {d : QuestionnaireDefinition} {q : Questionnaire}
    (ok : ofDefinition d = .ok q) : q.LookupsAgree := by
  have checked := checked_of_ofDefinition ok
  have valid := QuestionnaireDefinition.valid_of_ofDefinition ok
  have unique := ruleIdsUnique_of_ofDefinition ok
  have ownIds : q.ownSlots.map (·.id) = d.ownSlots.map (·.id) := by
    obtain ⟨-, -, sources, -, rfl⟩ := ofDefinition_ok ok
    simp [ownSlots, QuestionnaireDefinition.ownSlots, QuestionnaireDefinition.checked_blocks,
      List.map_flatMap, List.flatMap_map, Block.markRawText]
  refine ⟨checked.locations_eq_locationsOf, checked.blocks_nodup, checked.blockPositions_eq_some,
    checked.sectionPositions_eq_some, checked.slotPositions_isSome,
    fun _ _ => checked.slotPositions_declared, checked.rulePositions_eq_some unique,
    fun _ _ => checked.orderOf?_eq_some_iff, fun id l => ?_, fun _ _ => checked.block?_eq_some_iff,
    fun i l at_ => ?_, fun _ _ => checked.sectionStart?_eq_some_iff,
    fun _ own => checked.slot?_of_ownSlot (ownIds ▸ valid.ownSlotIds_nodup) own,
    fun _ absent => checked.slot?_of_variants absent, fun _ _ => checked.blockOf?_eq_some_iff,
    fun _ _ _ => checked.calculation?_eq_some_iff unique⟩
  · rw [checked.location?_eq_some_iff, checked.locations_eq_locationsOf,
      QuestionnaireDefinition.locationsOf, List.mem_flatMap]
    constructor
    · rintro ⟨⟨sec, member, placed⟩, rfl⟩
      obtain ⟨b, inSection, rfl⟩ := List.mem_map.mp placed
      exact ⟨sec, member, b, inSection, rfl, rfl⟩
    · rintro ⟨sec, member, b, inSection, rfl, rfl⟩
      exact ⟨⟨sec, member, List.mem_map_of_mem inSection⟩, rfl⟩
  · simp [nextInSequence?, checked.orderOf?_of_getElem? at_]

/-- The census questionnaire is accepted, and its indexes and lookups agree with its definition. -/
theorem lookups_agree_census :
    ofDefinition Catalog.censusHousehold = .ok (Catalog.censusHousehold.checked []) ∧
      (Catalog.censusHousehold.checked []).LookupsAgree :=
  have accepted : ofDefinition Catalog.censusHousehold = .ok (Catalog.censusHousehold.checked []) := by
    rfl
  ⟨accepted, lookups_agree_of_ofDefinition accepted⟩

end Questionnaire

end Survey
