import Mathlib
import Survey.Proofs.Schema.Passing
import Survey.Proofs.Schema.References
import Survey.Catalog

/-!
# The definitions the schema check accepts

`QuestionnaireDefinition.Valid` says, in terms of the definition alone, what
`Questionnaire.ofDefinition` checks; `ofDefinition_ok_iff_valid` proves that it accepts exactly
the valid definitions.

A valid definition has sections, blocks and questions; unique section, block, default question
and calculation ids; questions, variants included, with slots and at most one exclusive slot;
default questions whose slot ids differ; one owner per slot id (`slotOwners`: the block and the
question declaring it, a variant's slots owned by the question it replaces); variants only of
their block's questions; calculations over known slots whose first declaration is numeric;
conditions over known slots; and routes pointing forward.

The first pass records each slot at a place, the coordinates of its owner; places and owners
determine each other once block and question ids are unique (`placesAgree_of_owners`,
`owners_agree_of_placed`).
-/

namespace Survey

/-- Who declares each slot of a block: the block's id and the question's id, a variant's slots
belonging to the question it replaces. -/
def Block.slotOwners (b : Block) : List (SlotId × BlockId × QuestionId) :=
  b.allQuestions.flatMap fun q => q.answers.map fun s => (s.id, b.id, q.id)

namespace QuestionnaireDefinition

variable (d : QuestionnaireDefinition)

/-- Every block's own questions, in order. -/
def defaultQuestions : List Question := d.allBlocks.flatMap (·.questions)

/-- Every calculation, in order. -/
def calculations : List CalculatedRule := d.allBlocks.flatMap (·.calculations)

/-- Every slot id declared, variants included. -/
def slotIds : List SlotId := d.allBlocks.flatMap Block.slotIds

/-- Every slot with its owner. -/
def slotOwners : List (SlotId × BlockId × QuestionId) := d.allBlocks.flatMap Block.slotOwners

/-- Every slot with the place the first pass records it at. -/
def slotPlaces : List (SlotId × SlotPlace) :=
  d.blockPositions.flatMap fun (b, si, bi) => b.slotPlaces si bi

/-- **The definitions `ofDefinition` accepts.** -/
structure Valid : Prop where
  sections_ne_nil : d.sections ≠ []
  blocks_ne_nil : ∀ sec ∈ d.sections, sec.blocks ≠ []
  questions_ne_nil : ∀ b ∈ d.allBlocks, b.questions ≠ []
  section_ids_nodup : (d.sections.map (·.id)).Nodup
  block_ids_nodup : (d.allBlocks.map (·.id)).Nodup
  question_ids_nodup : (d.defaultQuestions.map (·.id)).Nodup
  rule_ids_nodup : (d.calculations.map (·.id)).Nodup
  /-- Every question, variants included, has a slot and at most one exclusive slot. -/
  questions_checked : ∀ b ∈ d.allBlocks, ∀ q ∈ b.allQuestions,
    q.answers ≠ [] ∧ (q.answers.filter (·.kind.isExclusive)).length ≤ 1
  slot_ids_nodup : ∀ q ∈ d.defaultQuestions, (q.answers.map (·.id)).Nodup
  owners_agree : ∀ x o o', (x, o) ∈ d.slotOwners → (x, o') ∈ d.slotOwners → o = o'
  variants_replace : ∀ b ∈ d.allBlocks, ∀ v ∈ b.questionVariants, ∃ q ∈ b.questions, q.id = v.question.id
  /-- A calculation sums known slots whose first declaration is numeric. -/
  sources_numeric : ∀ r ∈ d.calculations, r.sources ≠ [] ∧
    ∀ x ∈ r.sources, ∃ s, d.indexed.slot? x = some s ∧ s.kind.isNumeric = true
  conditions_known : ∀ b ∈ d.allBlocks,
    (∀ rule ∈ b.routing, ∀ p ∈ rule.when?, ∀ x ∈ p.slots, x ∈ d.slotIds) ∧
      ∀ v ∈ b.questionVariants, ∀ x ∈ v.when.slots, x ∈ d.slotIds
  routes_forward : ∀ b i, (b, i) ∈ d.allBlocks.zipIdx → ∀ rule ∈ b.routing,
    d.indexed.RouteForward i rule.goto

/-! ### Positions -/

variable {d}

theorem mem_allBlocks_of_position {b : Block} {si bi : Nat} (member : (b, si, bi) ∈ d.blockPositions) :
    b ∈ d.allBlocks :=
  blockPositions_blocks ▸ List.mem_map_of_mem member

theorem position_of_mem_allBlocks {b : Block} (member : b ∈ d.allBlocks) :
    ∃ si bi, (b, si, bi) ∈ d.blockPositions := by
  obtain ⟨sec, si, bi, sectionAt, blockAt⟩ := coordinates_of_mem member
  exact ⟨si, bi, mem_blockPositions.mpr ⟨sec, sectionAt, blockAt⟩⟩

/-- A position holds one block. -/
theorem block_eq_of_position {b b' : Block} {si bi : Nat} (at_ : (b, si, bi) ∈ d.blockPositions)
    (at' : (b', si, bi) ∈ d.blockPositions) : b = b' := by
  obtain ⟨sec, sectionAt, blockAt⟩ := mem_blockPositions.mp at_
  obtain ⟨sec', sectionAt', blockAt'⟩ := mem_blockPositions.mp at'
  have sameSection := List.mem_zipIdx_iff_getElem?.mp sectionAt
  rw [List.mem_zipIdx_iff_getElem?.mp sectionAt', Option.some.injEq] at sameSection
  subst sameSection
  have sameBlock := List.mem_zipIdx_iff_getElem?.mp blockAt
  rw [List.mem_zipIdx_iff_getElem?.mp blockAt', Option.some.injEq] at sameBlock
  exact sameBlock.symm

/-- With unique block ids, a block's id gives its position. -/
theorem position_eq_of_id (distinct : (d.allBlocks.map (·.id)).Nodup) {b b' : Block} {si bi si' bi' : Nat}
    (at_ : (b, si, bi) ∈ d.blockPositions) (at' : (b', si', bi') ∈ d.blockPositions)
    (same : b.id = b'.id) : (b, si, bi) = (b', si', bi') := by
  have positions : (d.blockPositions.map (·.1.id)).Nodup := by
    rw [← blockPositions_blocks, List.map_map] at distinct
    exact distinct
  exact List.inj_on_of_nodup_map positions at_ at' same

end QuestionnaireDefinition

/-- With unique keys, a key gives the index. -/
theorem index_eq_of_key {α β : Type} {f : α → β} {l : List α} (distinct : (l.map f).Nodup) {i j : Nat}
    {a a' : α} (at_ : l[i]? = some a) (at' : l[j]? = some a') (same : f a = f a') : i = j := by
  have keyed : (l.map f)[i]? = some (f a) := by simp [at_]
  have keyed' : (l.map f)[j]? = some (f a) := by simp [at', same]
  have bound : i < (l.map f).length := (List.getElem?_eq_some_iff.mp keyed).1
  exact (List.getElem?_inj bound distinct).mp (keyed.trans keyed'.symm)

/-! ### Places and owners -/

namespace Block

variable {b : Block} {si bi : Nat}

/-- A slot's place names, at its question index, the question of the block that owns it. -/
theorem owner_of_mem_slotPlaces {x : SlotId} {p : SlotPlace} (member : (x, p) ∈ b.slotPlaces si bi) :
    p.sectionIndex = si ∧ p.blockIndex = bi ∧
      ∃ q, b.questions[p.questionIndex]? = some q ∧ (x, b.id, q.id) ∈ b.slotOwners := by
  simp only [slotPlaces, List.mem_append, List.mem_flatMap, List.mem_map, Prod.mk.injEq] at member
  rcases member with ⟨⟨q, i⟩, at_, s, answer, rfl, rfl⟩ | ⟨v, variant, i, found, s, answer, rfl, rfl⟩
  · refine ⟨rfl, rfl, q, List.mem_zipIdx_iff_getElem?.mp at_, ?_⟩
    exact List.mem_flatMap.mpr ⟨q, List.mem_append_left _ (List.mem_of_getElem?
      (List.mem_zipIdx_iff_getElem?.mp at_)), List.mem_map_of_mem (f := fun s => (s.id, b.id, q.id)) answer⟩
  · have found : b.questions.findIdx? (·.id == v.question.id) = some i := by simpa using found
    obtain ⟨bound, same, -⟩ := List.findIdx?_eq_some_iff_getElem.mp found
    refine ⟨rfl, rfl, b.questions[i], List.getElem?_eq_getElem bound, ?_⟩
    rw [show b.questions[i].id = v.question.id by simpa using same]
    exact List.mem_flatMap.mpr ⟨v.question, List.mem_append_right _ (List.mem_map_of_mem variant),
      List.mem_map_of_mem (f := fun s => (s.id, b.id, v.question.id)) answer⟩

/-- When every variant replaces a question of the block, each owned slot has a place at its
owner's index. -/
theorem place_of_mem_slotOwners
    (replaces : ∀ v ∈ b.questionVariants, ∃ i, b.questions.findIdx? (·.id == v.question.id) = some i)
    {x : SlotId} {o : BlockId × QuestionId} (member : (x, o) ∈ b.slotOwners) :
    o.1 = b.id ∧ ∃ i q, (x, ⟨si, bi, i⟩) ∈ b.slotPlaces si bi ∧ b.questions[i]? = some q ∧ q.id = o.2 := by
  simp only [slotOwners, allQuestions, List.mem_flatMap, List.mem_append, List.mem_map,
    Prod.mk.injEq] at member
  obtain ⟨q, own | ⟨v, variant, rfl⟩, s, answer, rfl, rfl⟩ := member
  · obtain ⟨i, at_⟩ := List.getElem?_of_mem own
    exact ⟨rfl, i, q, mem_slotPlaces_of_question (List.mem_zipIdx_iff_getElem?.mpr at_) answer, at_, rfl⟩
  · obtain ⟨i, found⟩ := replaces v variant
    obtain ⟨bound, same, -⟩ := List.findIdx?_eq_some_iff_getElem.mp found
    exact ⟨rfl, i, b.questions[i], mem_slotPlaces_of_variant variant found answer,
      List.getElem?_eq_getElem bound, by simpa using same⟩

end Block

/-- A block placed by the first pass has each of its slots recorded at its place. -/
theorem BlockPlaced.slotPlace_of_mem {seen : Seen} {si bi : Nat} {b : Block}
    (placed : BlockPlaced seen si bi b) {x : SlotId} {p : SlotPlace} (member : (x, p) ∈ b.slotPlaces si bi) :
    seen.slotPlace? x = some p := by
  simp only [Block.slotPlaces, List.mem_append, List.mem_flatMap, List.mem_map, Prod.mk.injEq] at member
  rcases member with ⟨⟨q, i⟩, at_, s, answer, rfl, rfl⟩ | ⟨v, variant, i, found, s, answer, rfl, rfl⟩
  · exact (placed.questions q i at_).2.2 s answer
  · obtain ⟨-, i', found', recorded⟩ := placed.variants v variant
    have : i = i' := by simpa [found'] using found
    subst this
    exact recorded s answer


/-- A placed block's questions, variants included, pass their own checks. -/
theorem BlockPlaced.checked {seen : Seen} {si bi : Nat} {b : Block} (placed : BlockPlaced seen si bi b) :
    ∀ q ∈ b.allQuestions, checkQuestion q = .ok () := by
  intro q member
  rcases List.mem_append.mp member with own | shown
  · obtain ⟨i, at_⟩ := List.getElem?_of_mem own
    exact (placed.questions q i (List.mem_zipIdx_iff_getElem?.mpr at_)).1
  · obtain ⟨v, variant, rfl⟩ := List.mem_map.mp shown
    exact (placed.variants v variant).1

namespace QuestionnaireDefinition

variable {d : QuestionnaireDefinition}

theorem mem_slotOwners {x : SlotId} {o : BlockId × QuestionId} :
    (x, o) ∈ d.slotOwners ↔ ∃ b ∈ d.allBlocks, (x, o) ∈ b.slotOwners :=
  List.mem_flatMap

theorem mem_slotPlaces {x : SlotId} {p : SlotPlace} :
    (x, p) ∈ d.slotPlaces ↔ ∃ b si bi, (b, si, bi) ∈ d.blockPositions ∧ (x, p) ∈ b.slotPlaces si bi := by
  simp [slotPlaces]

theorem defaultQuestions_eq :
    d.defaultQuestions = d.sections.flatMap fun s => s.blocks.flatMap (·.questions) :=
  List.flatMap_assoc

theorem calculations_eq :
    d.calculations = d.sections.flatMap fun s => s.blocks.flatMap (·.calculations) :=
  List.flatMap_assoc

theorem questions_nodup_of_mem (distinct : (d.defaultQuestions.map (·.id)).Nodup) {b : Block}
    (member : b ∈ d.allBlocks) : (b.questions.map (·.id)).Nodup := by
  rw [defaultQuestions, List.map_flatMap] at distinct
  exact (List.nodup_flatMap.mp distinct).1 b member

/-- **Places agree when owners do**: with unique block and question ids, a slot with one owner
has one place. -/
theorem placesAgree_of_owners (blocksDistinct : (d.allBlocks.map (·.id)).Nodup)
    (questionsDistinct : (d.defaultQuestions.map (·.id)).Nodup)
    (agree : ∀ x o o', (x, o) ∈ d.slotOwners → (x, o') ∈ d.slotOwners → o = o') :
    PlacesAgree d.slotPlaces := by
  rintro x ⟨ps, pb, pq⟩ ⟨ps', pb', pq'⟩ member member'
  obtain ⟨b, si, bi, at_, placed⟩ := mem_slotPlaces.mp member
  obtain ⟨b', si', bi', at', placed'⟩ := mem_slotPlaces.mp member'
  obtain ⟨rfl, rfl, q, question, owned⟩ := Block.owner_of_mem_slotPlaces placed
  obtain ⟨rfl, rfl, q', question', owned'⟩ := Block.owner_of_mem_slotPlaces placed'
  have inBlocks := mem_allBlocks_of_position at_
  -- One owner: the same block, at one position, and the same question id, at one index.
  have same := agree x _ _ (mem_slotOwners.mpr ⟨b, inBlocks, owned⟩)
    (mem_slotOwners.mpr ⟨b', mem_allBlocks_of_position at', owned'⟩)
  obtain ⟨sameBlock, sameQuestion⟩ := Prod.mk.inj same
  have samePosition := position_eq_of_id blocksDistinct at_ at' sameBlock
  simp only [Prod.mk.injEq] at samePosition
  obtain ⟨rfl, rfl, rfl⟩ := samePosition
  exact congrArg (SlotPlace.mk ps pb)
    (index_eq_of_key (questions_nodup_of_mem questionsDistinct inBlocks) question question' sameQuestion)

/-- **Owners agree when the first pass places every block**: the place recorded for a slot
names its block and question. -/
theorem owners_agree_of_placed {seen : Seen}
    (placed : ∀ sec si, (sec, si) ∈ d.sections.zipIdx →
      ∀ b bi, (b, bi) ∈ sec.blocks.zipIdx → BlockPlaced seen si bi b) :
    ∀ x o o', (x, o) ∈ d.slotOwners → (x, o') ∈ d.slotOwners → o = o' := by
  have recorded : ∀ x o, (x, o) ∈ d.slotOwners → ∃ b si bi i q, (b, si, bi) ∈ d.blockPositions ∧
      seen.slotPlace? x = some ⟨si, bi, i⟩ ∧ b.questions[i]? = some q ∧ o = (b.id, q.id) := by
    intro x o member
    obtain ⟨b, member, owned⟩ := mem_slotOwners.mp member
    obtain ⟨si, bi, at_⟩ := position_of_mem_allBlocks member
    obtain ⟨sec, sectionAt, blockAt⟩ := mem_blockPositions.mp at_
    have blockPlaced := placed sec si sectionAt b bi blockAt
    obtain ⟨owner, i, q, place, question, same⟩ := @Block.place_of_mem_slotOwners b si bi
      (fun v variant => let ⟨_, i, found, _⟩ := blockPlaced.variants v variant; ⟨i, found⟩) x o owned
    exact ⟨b, si, bi, i, q, at_, blockPlaced.slotPlace_of_mem place, question, Prod.ext owner same.symm⟩
  intro x o o' member member'
  obtain ⟨b, si, bi, i, q, at_, place, question, rfl⟩ := recorded x o member
  obtain ⟨b', si', bi', i', q', at', place', question', rfl⟩ := recorded x o' member'
  rw [place, Option.some.injEq, SlotPlace.mk.injEq] at place'
  obtain ⟨rfl, rfl, rfl⟩ := place'
  obtain rfl := block_eq_of_position at_ at'
  rw [question, Option.some.injEq] at question'
  rw [question']

end QuestionnaireDefinition


/-! ### The two passes -/

/-- `ofDefinition` succeeds exactly when the definition has sections and both passes succeed. -/
theorem ofDefinition_succeeds_iff {d : QuestionnaireDefinition} :
    (∃ q, Questionnaire.ofDefinition d = .ok q) ↔ d.sections ≠ [] ∧
      (∃ seen, d.sections.zipIdx.foldlM (fun seen (s, i) => checkSection seen s i) Seen.empty =
        .ok seen) ∧
      ∃ sources, d.indexed.blocks.zipIdx.flatMapM (fun (b, i) => d.indexed.checkReferences b i) =
        .ok sources := by
  unfold Questionnaire.ofDefinition
  by_cases empty : d.sections = []
  · simp only [empty, List.isEmpty_nil, ↓reduceIte, ne_eq, not_true_eq_false, false_and, iff_false]
    rintro ⟨_, failed⟩
    cases failed
  simp only [List.isEmpty_iff, empty, ↓reduceIte, bind, except_bind_eq_ok, except_pure_eq_ok, ne_eq,
    not_false_eq_true, true_and]
  constructor
  · rintro ⟨_, seen, firstOk, sources, referencesOk, -⟩
    rw [QuestionnaireDefinition.questionnaire_of_firstPass firstOk] at referencesOk
    exact ⟨⟨seen, firstOk⟩, sources, referencesOk⟩
  · rintro ⟨⟨seen, firstOk⟩, sources, referencesOk⟩
    rw [← QuestionnaireDefinition.questionnaire_of_firstPass firstOk] at referencesOk
    exact ⟨_, seen, firstOk, sources, referencesOk, rfl⟩

namespace QuestionnaireDefinition

variable {d : QuestionnaireDefinition}

/-- **The reference pass succeeds** exactly when calculations sum known numeric slots,
conditions read declared slots and routes point forward. -/
theorem references_succeed_iff
    (replace : ∀ b ∈ d.allBlocks, ∀ v ∈ b.questionVariants,
      (b.questions.findIdx? (·.id == v.question.id)).isSome) :
    (∃ sources, d.indexed.blocks.zipIdx.flatMapM (fun (b, i) => d.indexed.checkReferences b i) =
      .ok sources) ↔
      (∀ r ∈ d.calculations, r.sources ≠ [] ∧
        ∀ x ∈ r.sources, ∃ s, d.indexed.slot? x = some s ∧ s.kind.isNumeric = true) ∧
      (∀ b ∈ d.allBlocks, (∀ rule ∈ b.routing, ∀ p ∈ rule.when?, ∀ x ∈ p.slots, x ∈ d.slotIds) ∧
        ∀ v ∈ b.questionVariants, ∀ x ∈ v.when.slots, x ∈ d.slotIds) ∧
      ∀ b i, (b, i) ∈ d.allBlocks.zipIdx → ∀ rule ∈ b.routing, d.indexed.RouteForward i rule.goto := by
  -- With every variant replacing a question, the slots the blocks declare are their slot ids.
  have known : ∀ x, (d.indexed.slotPositions.lookup x).isSome ↔ x ∈ d.slotIds := fun x => by
    have declared : d.allBlocks.flatMap Block.declaredSlots =
        d.allBlocks.flatMap fun b => b.allQuestions.flatMap (·.answers) :=
      List.flatMap_congr fun b member => Block.declaredSlots_eq (replace b member)
    rw [indexed_slotPositions_isSome, declared, slotIds]
    simp only [List.mem_map, List.mem_flatMap, Block.slotIds]
    constructor
    · rintro ⟨s, ⟨b, member, q, asked, answer⟩, named⟩
      exact ⟨b, member, q, asked, s, answer, named⟩
    · rintro ⟨b, member, q, asked, s, answer, named⟩
      exact ⟨s, ⟨b, member, q, asked, answer⟩, named⟩
  have position : ∀ {b}, b ∈ d.allBlocks → ∃ i, (b, i) ∈ d.allBlocks.zipIdx := by
    intro b member
    obtain ⟨i, at_⟩ := List.getElem?_of_mem member
    exact ⟨i, List.mem_zipIdx_iff_getElem?.mpr at_⟩
  rw [except_flatMapM_succeeds_iff]
  constructor
  · intro each
    -- Each block's references pass, at the block's position.
    have block : ∀ b i, (b, i) ∈ d.allBlocks.zipIdx → _ := fun b i member =>
      d.indexed.checkReferences_succeeds_iff.mp (each (b, i) member)
    refine ⟨fun r member => ?_, fun b member => ?_, fun b i member rule routed =>
      ((block b i member).2.1 rule routed).2⟩
    · obtain ⟨b, inBlocks, calculated⟩ := List.mem_flatMap.mp member
      obtain ⟨i, at_⟩ := position inBlocks
      exact (block b i at_).1 r calculated
    · obtain ⟨i, at_⟩ := position member
      obtain ⟨-, routes, variants⟩ := block b i at_
      exact ⟨fun rule routed p present x read => (known x).mp ((routes rule routed).1 p present x read),
        fun v variant x read => (known x).mp (variants v variant x read)⟩
  · rintro ⟨calculations, conditions, routes⟩ ⟨b, i⟩ member
    have inBlocks := List.mem_of_getElem? (List.mem_zipIdx_iff_getElem?.mp member)
    exact d.indexed.checkReferences_succeeds_iff.mpr
      ⟨fun r calculated => calculations r (List.mem_flatMap.mpr ⟨b, inBlocks, calculated⟩),
        fun rule routed => ⟨fun p present x read => (known x).mpr ((conditions b inBlocks).1 rule routed p present x read),
          routes b i member rule routed⟩,
        fun v variant x read => (known x).mpr ((conditions b inBlocks).2 v variant x read)⟩

end QuestionnaireDefinition


/-! ### Both directions -/

namespace QuestionnaireDefinition

variable {d : QuestionnaireDefinition}

/-- A definition that passes the check is valid. -/
theorem valid_of_ofDefinition {q : Questionnaire} (ok : Questionnaire.ofDefinition d = .ok q) :
    d.Valid := by
  obtain ⟨nonempty, ⟨seen, firstOk⟩, referencesOk⟩ := ofDefinition_succeeds_iff.mp ⟨q, ok⟩
  have pass := firstPass_of_ok firstOk
  obtain ⟨-, placed⟩ := checkSections_ok firstOk
  obtain ⟨calculations, conditions, routes⟩ :=
    (references_succeed_iff pass.variants_replace).mp referencesOk
  -- The record started with no question id, so the ids it gained are all different.
  have questions := (firstPass_grows firstOk).questions
  have fresh : ((d.sections.flatMap fun s => s.blocks.flatMap (·.questions)).map (·.id)).Nodup := by
    simpa [questions.1, Seen.empty] using questions.2 List.nodup_nil
  have blockPlaced : ∀ b ∈ d.allBlocks, ∃ si bi, BlockPlaced seen si bi b := fun b member => by
    obtain ⟨si, bi, at_⟩ := position_of_mem_allBlocks member
    obtain ⟨sec, sectionAt, blockAt⟩ := mem_blockPositions.mp at_
    exact ⟨si, bi, ((placed sec si sectionAt).2 b bi blockAt).2⟩
  refine ⟨nonempty, pass.sections_ne_nil, pass.questions_ne_nil, pass.section_ids_nodup, pass.ids_nodup,
    defaultQuestions_eq ▸ fresh, pass.rule_ids_nodup, ?_, ?_, owners_agree_of_placed fun sec si sectionAt b bi blockAt =>
      ((placed sec si sectionAt).2 b bi blockAt).2, ?_, calculations, conditions, routes⟩
  · intro b member q asked
    obtain ⟨si, bi, placedHere⟩ := blockPlaced b member
    exact checkQuestion_eq_ok.mp (placedHere.checked q asked)
  · intro q member
    obtain ⟨b, inBlocks, own⟩ := List.mem_flatMap.mp member
    obtain ⟨si, bi, placedHere⟩ := blockPlaced b inBlocks
    obtain ⟨i, at_⟩ := List.getElem?_of_mem own
    exact (placedHere.questions q i (List.mem_zipIdx_iff_getElem?.mpr at_)).2.1
  · intro b member v variant
    obtain ⟨si, bi, placedHere⟩ := blockPlaced b member
    obtain ⟨-, i, found, -⟩ := placedHere.variants v variant
    obtain ⟨bound, same, -⟩ := List.findIdx?_eq_some_iff_getElem.mp found
    exact ⟨b.questions[i], List.getElem_mem bound, by simpa using same⟩

/-- In a valid definition every variant replaces a question found in its block. -/
theorem Valid.variants_found (valid : d.Valid) :
    ∀ b ∈ d.allBlocks, ∀ v ∈ b.questionVariants, (b.questions.findIdx? (·.id == v.question.id)).isSome := by
  intro b member v variant
  obtain ⟨q, own, same⟩ := valid.variants_replace b member v variant
  rw [List.findIdx?_isSome]
  exact List.any_eq_true.mpr ⟨q, own, by simp [same]⟩

/-- Every block of a valid definition is ready to pass at its position. -/
theorem Valid.blockReady (valid : d.Valid) {b : Block} {si bi : Nat}
    (at_ : (b, si, bi) ∈ d.blockPositions) : BlockReady d.slotPlaces si bi b := by
  have member := mem_allBlocks_of_position at_
  refine ⟨valid.questions_ne_nil b member,
    fun q asked => checkQuestion_eq_ok.mpr (valid.questions_checked b member q asked),
    fun q own => valid.slot_ids_nodup q (List.mem_flatMap.mpr ⟨b, member, own⟩), fun v variant => ?_,
    fun ⟨x, p⟩ placed => mem_slotPlaces.mpr ⟨b, si, bi, at_, placed⟩⟩
  exact Option.isSome_iff_exists.mp (valid.variants_found b member v variant)

/-- A valid definition passes the check. -/
theorem ofDefinition_succeeds_of_valid (valid : d.Valid) :
    ∃ q, Questionnaire.ofDefinition d = .ok q := by
  refine ofDefinition_succeeds_iff.mpr ⟨valid.sections_ne_nil, ?_,
    (references_succeed_iff valid.variants_found).mpr
      ⟨valid.sources_numeric, valid.conditions_known, valid.routes_forward⟩⟩
  -- The first pass records every slot at its owner's place, which no other slot shares.
  have agree := placesAgree_of_owners valid.block_ids_nodup valid.question_ids_nodup valid.owners_agree
  refine checkSections_succeeds agree d.sections (fun sec si sectionAt =>
    ⟨valid.blocks_ne_nil sec (List.mem_of_getElem? (List.mem_zipIdx_iff_getElem?.mp sectionAt)),
      fun b bi blockAt => valid.blockReady (mem_blockPositions.mpr ⟨sec, sectionAt, blockAt⟩)⟩)
    valid.section_ids_nodup valid.block_ids_nodup ?_ ?_ ?_
  · simpa [Seen.empty, defaultQuestions_eq] using valid.question_ids_nodup
  · simpa [Seen.empty, calculations_eq] using valid.rule_ids_nodup
  · intro x p recorded
    simp [Seen.empty, Seen.slotPlace?] at recorded

end QuestionnaireDefinition

/-- **The schema check accepts exactly the valid definitions.** -/
theorem ofDefinition_ok_iff_valid {d : QuestionnaireDefinition} :
    (∃ q, Questionnaire.ofDefinition d = .ok q) ↔ d.Valid :=
  ⟨fun ⟨_, ok⟩ => QuestionnaireDefinition.valid_of_ofDefinition ok,
    QuestionnaireDefinition.ofDefinition_succeeds_of_valid⟩


/-- A block whose variant repeats the slot `a`, once as a number and once as text. -/
def repeatedSlot : Block :=
  { Catalog.page "b" [Catalog.question "q" "Q" [AnswerSlot.number "a" "A"]] with
    questionVariants := [⟨.answered "a",
      Catalog.question "q" "Q2" [AnswerSlot.number "a" "A", AnswerSlot.text "a" "A again"]⟩] }

/-- A questionnaire of that one block. -/
def repeatedSlotDefinition : QuestionnaireDefinition := ⟨"dup", none, [⟨"s", none, [repeatedSlot]⟩]⟩

/-- A block summing its number slot `a`, whose variant declares `a` as text. -/
def retypedSource : Block :=
  { Catalog.page "b" [Catalog.question "q" "Q" [AnswerSlot.number "a" "A"]] with
    questionVariants := [⟨.answered "a", Catalog.question "q" "Q2" [AnswerSlot.text "a" "A"]⟩]
    calculations := [⟨"t", ["a"], Decimal.ofInt 10, .equal, none⟩] }

/-- A questionnaire of that one block. -/
def retypedSourceDefinition : QuestionnaireDefinition :=
  ⟨"kinds", none, [⟨"s", none, [retypedSource]⟩]⟩

/-- **Loading checks neither that a variant's slot ids differ, nor that a summed slot is numeric
in every question declaring it**: a variant repeating a slot id passes, and so does a variant
redeclaring a summed slot as text, since only the first declaration is looked up. -/
theorem ofDefinition_accepts_unchecked_variants :
    ((∃ q, Questionnaire.ofDefinition repeatedSlotDefinition = .ok q) ∧
      ∃ v ∈ repeatedSlot.questionVariants, ¬ (v.question.answers.map (·.id)).Nodup) ∧
    ((∃ q, Questionnaire.ofDefinition retypedSourceDefinition = .ok q) ∧
      ∃ r ∈ retypedSource.calculations, ∃ x ∈ r.sources, ∃ question ∈ retypedSource.allQuestions,
        ∃ s ∈ question.answers, s.id = x ∧ s.kind.isNumeric = false) :=
  ⟨⟨⟨_, rfl⟩, by decide⟩, ⟨_, rfl⟩, by decide⟩

end Survey
