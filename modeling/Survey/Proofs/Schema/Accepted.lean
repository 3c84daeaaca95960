import Mathlib
import Survey.Proofs.Schema.Indexes
import Survey.Routing.Path

/-!
# What a checked questionnaire guarantees

`Questionnaire.ofDefinition` runs the first pass, which builds the definition's indexes
(`Survey.Proofs.Schema.Indexes`), runs the reference pass over every block with the block's
position, and finally marks the calculation sources to keep raw text. This module turns a
successful run into the facts routing and the engine rely on, collected in
`Questionnaire.Checked`:

* the questionnaire has a first block, and its locations list the blocks in order;
* its indexes are those of its definition, so every lookup searches the definition
  (`Questionnaire.Checked.block?_eq_find?` and its neighbours);
* section and block ids are all different, no two blocks share a slot, and every variant
  replaces a question of its block;
* every routing rule resolves to the summary or to a block strictly later than its own
  (`Questionnaire.RouteForward`).

Marking changes only `acceptsRawText`, so blocks keep their ids, slots and routing rules, the
marked definition has the same indexes (`QuestionnaireDefinition.marked_indexed`), and every
routing decision of the marked questionnaire is the decision of the questionnaire the reference
pass checked (`nextDestination_marked`, `reachable_marked`).
-/

namespace Survey

namespace QuestionnaireDefinition

variable (d : QuestionnaireDefinition) (sources : List SlotId)

/-- The definition with the given calculation sources marked to keep raw text. -/
def marked : QuestionnaireDefinition :=
  { d with sections := d.sections.map fun s => { s with blocks := s.blocks.map (Block.markRawText sources) } }

/-- The checked questionnaire: the definition's indexes, with its sources marked. -/
abbrev checked : Questionnaire := { d.indexed with definition := d.marked sources }

end QuestionnaireDefinition

/-! ### Taking `ofDefinition` apart -/

/-- **A successful check** is a successful first pass, a successful reference pass over the
indexed definition, and the marked definition with the same indexes. -/
theorem ofDefinition_ok {d : QuestionnaireDefinition} {q : Questionnaire}
    (ok : Questionnaire.ofDefinition d = .ok q) :
    d.sections ≠ [] ∧ FirstPass d ∧ ∃ sources,
      d.indexed.blocks.zipIdx.flatMapM (fun (b, i) => d.indexed.checkReferences b i) =
        .ok sources ∧ q = d.checked sources := by
  simp only [Questionnaire.ofDefinition, bind] at ok
  split at ok
  · simp at ok
  next nonempty =>
  simp only [except_bind_eq_ok] at ok
  obtain ⟨seen, firstOk, sources, referencesOk, built⟩ := ok
  rw [QuestionnaireDefinition.questionnaire_of_firstPass firstOk] at referencesOk built
  refine ⟨by simpa using nonempty, firstPass_of_ok firstOk, sources, referencesOk, ?_⟩
  simp only [except_pure_eq_ok] at built
  exact built.symm

/-- Every element of a successful `flatMapM` succeeds. -/
theorem except_flatMapM_ok {ε α β : Type} {f : α → Except ε (List β)} {l : List α} {r : List β}
    (ok : l.flatMapM f = .ok r) : ∀ x ∈ l, ∃ r', f x = .ok r' := by
  induction l generalizing r with
  | nil => simp
  | cons a rest ih =>
    simp only [List.flatMapM_cons, bind, except_bind_eq_ok] at ok
    obtain ⟨first, firstOk, others, othersOk, -⟩ := ok
    intro x member
    rcases List.mem_cons.mp member with rfl | member
    · exact ⟨first, firstOk⟩
    · exact ih othersOk x member

/-- Every step of a successful `for` loop over a list, whose body only checks, succeeds. -/
theorem except_forIn_ok {ε α : Type} {f : α → Except ε Unit} {l : List α} {u : PUnit}
    (ok : forIn l PUnit.unit (fun x _ => (f x).bind fun _ => pure (ForInStep.yield PUnit.unit)) =
      .ok u) : ∀ x ∈ l, f x = .ok () := by
  induction l with
  | nil => simp
  | cons a rest ih =>
    rw [List.forIn_cons] at ok
    cases checked : f a with
    | error e => simp [checked, bind, Except.bind] at ok
    | ok v =>
      simp only [checked, bind, Except.bind, pure, Except.pure] at ok
      intro x member
      rcases List.mem_cons.mp member with rfl | member
      · exact checked
      · exact ih ok x member

/-! ### The reference pass -/

namespace Questionnaire

/-- A destination, taken from the block at position `order`, leads to the summary or to a
block strictly later in the order. -/
def RouteForward (q : Questionnaire) (order : Nat) (goto : Destination) : Prop :=
  q.destinationNext goto = some .summary ∨
    ∃ l later, q.destinationNext goto = some (.block l) ∧ q.orderOf? l.block = some later ∧
      order < later

/-- A routing rule that passes its check passes it without its condition: the condition only
has its slots checked. -/
theorem checkRoute_without_condition {q : Questionnaire} {b : Block} {order index : Nat}
    {rule : RoutingRule} (ok : q.checkRoute b order rule index = .ok ()) :
    q.checkRoute b order ⟨none, rule.goto⟩ index = .ok () := by
  obtain ⟨condition, goto⟩ := rule
  cases condition with
  | none => exact ok
  | some p =>
    simp only [checkRoute, bind] at ok ⊢
    obtain ⟨_, -, rest⟩ := except_bind_eq_ok.mp ok
    exact rest

/-- **A routing rule that passes its check points forward.** -/
theorem checkRoute_ok {q : Questionnaire} {b : Block} {order index : Nat} {rule : RoutingRule}
    (ok : q.checkRoute b order rule index = .ok ()) : q.RouteForward order rule.goto := by
  have bare := checkRoute_without_condition ok
  unfold RouteForward
  cases goto : rule.goto with
  | summary => simp [destinationNext]
  | block id =>
    simp only [checkRoute, goto, bind] at bare
    cases found : q.location? id with
    | none => simp [found] at bare
    | some l =>
      simp only [found, except_pure_bind] at bare
      cases placed : q.orderOf? l.block with
      | none => simp [placed] at bare
      | some later =>
        simp only [placed] at bare
        split at bare
        · simp at bare
        next forward => exact .inr ⟨l, later, by simp [destinationNext, found], placed, by omega⟩
  | «section» id =>
    simp only [checkRoute, goto, bind] at bare
    cases found : q.sectionStart? id with
    | none => simp [found] at bare
    | some l =>
      simp only [found, except_pure_bind] at bare
      cases placed : q.orderOf? l.block with
      | none => simp [placed] at bare
      | some later =>
        simp only [placed] at bare
        split at bare
        · simp at bare
        next forward => exact .inr ⟨l, later, by simp [destinationNext, found], placed, by omega⟩

/-- A block that passes the reference pass has every routing rule pointing forward. -/
theorem checkReferences_ok {q : Questionnaire} {b : Block} {order : Nat} {sources : List SlotId}
    (ok : q.checkReferences b order = .ok sources) : ∀ rule ∈ b.routing, q.RouteForward order rule.goto := by
  simp only [checkReferences, bind, except_bind_eq_ok] at ok
  obtain ⟨_, -, _, routesOk, -⟩ := ok
  intro rule member
  obtain ⟨index, at_⟩ := List.getElem?_of_mem member
  exact checkRoute_ok (except_forIn_ok routesOk (rule, index)
    (List.mem_zipIdx_iff_getElem?.mpr at_))

end Questionnaire

/-! ### Marking keeps what routing reads -/

section Marking

variable (sources : List SlotId)

@[simp] theorem markRawText_id (q : Question) : (markRawText sources q).id = q.id := rfl

/-- Marking a question keeps each slot's id and kind. -/
theorem markRawText_answers (q : Question) :
    (markRawText sources q).answers.map (fun s => (s.id, s.kind)) =
      q.answers.map (fun s => (s.id, s.kind)) := by
  simp only [markRawText, List.map_map]
  congr 1
  funext s
  by_cases source : s.id ∈ sources <;> simp [source]

@[simp] theorem markRawText_slotIds (q : Question) :
    (markRawText sources q).answers.map (·.id) = q.answers.map (·.id) := by
  have same := congrArg (List.map Prod.fst) (markRawText_answers sources q)
  simpa [List.map_map, Function.comp_def] using same

@[simp] theorem Block.markRawText_id (b : Block) : (b.markRawText sources).id = b.id := rfl

@[simp] theorem Block.markRawText_routing (b : Block) : (b.markRawText sources).routing = b.routing :=
  rfl

@[simp] theorem Block.markRawText_slotIds (b : Block) :
    (b.markRawText sources).slotIds = b.slotIds := by
  simp [Block.slotIds, Block.allQuestions, Block.markRawText, List.flatMap_append,
    List.flatMap_map, Function.comp_def]

theorem QuestionnaireDefinition.marked_allBlocks (d : QuestionnaireDefinition) :
    (d.marked sources).allBlocks = d.allBlocks.map (Block.markRawText sources) := by
  simp [QuestionnaireDefinition.marked, QuestionnaireDefinition.allBlocks, List.flatMap_map,
    List.map_flatMap]

/-- Marking keeps every slot entry of a block: entries read only ids and indices. -/
theorem Block.markRawText_slotEntries (b : Block) (si bi : Nat) :
    (b.markRawText sources).slotEntries si bi = b.slotEntries si bi := by
  simp [Block.slotEntries, questionSlotEntries, variantSlotEntries, Block.markRawText,
    Survey.markRawText, List.zipIdx_map, List.flatMap_map, List.map_map, List.findIdx?_map,
    Function.comp_def, apply_ite]

/-- Marking keeps the ids of the slots a block declares. -/
theorem Block.markRawText_declaredSlots_ids (b : Block) :
    (b.markRawText sources).declaredSlots.map (·.id) = b.declaredSlots.map (·.id) := by
  simp [Block.declaredSlots, Block.markRawText, Survey.markRawText, List.filter_map,
    List.flatMap_map, List.map_flatMap, List.findIdx?_map, Function.comp_def, apply_ite]

@[simp] theorem Block.markRawText_ruleEntries (b : Block) (position : BlockPosition) :
    (b.markRawText sources).ruleEntries position = b.ruleEntries position := rfl

theorem placeFrom_map_blocks (f : Block → Block) (order : Nat) (positions : List (Block × Nat × Nat)) :
    placeFrom order (positions.map fun e => (f e.1, e.2)) =
      (placeFrom order positions).map fun e => (f e.1, e.2) := by
  induction positions generalizing order with
  | nil => rfl
  | cons e rest ih =>
    obtain ⟨b, si, bi⟩ := e
    simp only [List.map_cons, placeFrom, ih]

theorem QuestionnaireDefinition.marked_placedBlocks (d : QuestionnaireDefinition) :
    (d.marked sources).placedBlocks = d.placedBlocks.map fun e => (e.1.markRawText sources, e.2) := by
  have positions : (d.marked sources).blockPositions =
      d.blockPositions.map fun e => (e.1.markRawText sources, e.2) := by
    simp [QuestionnaireDefinition.blockPositions, QuestionnaireDefinition.marked, List.zipIdx_map,
      List.flatMap_map, List.map_flatMap, Function.comp_def]
  rw [QuestionnaireDefinition.placedBlocks, positions, placeFrom_map_blocks]
  rfl

/-- **Marking keeps the indexes**: the marked definition's indexes are the definition's. -/
theorem QuestionnaireDefinition.marked_indexed (d : QuestionnaireDefinition) :
    (d.marked sources).indexed = d.checked sources := by
  rw [QuestionnaireDefinition.indexed, QuestionnaireDefinition.marked_placedBlocks]
  simp [QuestionnaireDefinition.indexed, placedBlockEntries, placedSlotEntries, placedRuleEntries,
    Block.markRawText_slotEntries, Block.markRawText_ruleEntries, QuestionnaireDefinition.locationsOf,
    QuestionnaireDefinition.marked, List.zipIdx_map, List.flatMap_map, List.map_map,
    Function.comp_def]

end Marking

namespace QuestionnaireDefinition

variable (d : QuestionnaireDefinition) (sources : List SlotId)

theorem checked_blocks : (d.checked sources).blocks = d.allBlocks.map (Block.markRawText sources) :=
  marked_allBlocks sources d

theorem indexed_blocks : d.indexed.blocks = d.allBlocks := rfl

theorem checked_block? (id : BlockId) :
    (d.checked sources).block? id = (d.indexed.block? id).map (Block.markRawText sources) := by
  rw [← marked_indexed, indexed_block?, indexed_block?, marked_allBlocks, List.find?_map]
  rfl

theorem checked_sectionStart? (id : SectionId) :
    (d.checked sources).sectionStart? id = d.indexed.sectionStart? id := by
  have found : (d.checked sources).section? id = (d.indexed.section? id).map
      fun s => { s with blocks := s.blocks.map (Block.markRawText sources) } := by
    rw [← marked_indexed, indexed_section?, indexed_section?, marked, List.find?_map]
    rfl
  unfold Questionnaire.sectionStart?
  rw [found]
  cases d.indexed.section? id with
  | none => rfl
  | some s =>
    obtain ⟨sid, title, blocks⟩ := s
    cases blocks <;> rfl

theorem checked_destinationNext (goto : Destination) :
    (d.checked sources).destinationNext goto = d.indexed.destinationNext goto := by
  cases goto with
  | block id => rfl
  | «section» id => simp [Questionnaire.destinationNext, checked_sectionStart?]
  | summary => rfl

theorem checked_orderOf? (id : BlockId) :
    (d.checked sources).orderOf? id = d.indexed.orderOf? id := rfl

theorem checked_ruleChoice? (block : BlockId) (answers : Lookup) :
    (d.checked sources).ruleChoice? block answers = d.indexed.ruleChoice? block answers := by
  simp only [Questionnaire.ruleChoice?, checked_block?]
  cases (d.indexed.block? block) with
  | none => rfl
  | some b => simp [checked_destinationNext]

/-- **The marked questionnaire routes as the checked one.** -/
theorem nextDestination_marked (block : BlockId) (answers : Lookup) :
    (d.checked sources).nextDestination block answers = d.indexed.nextDestination block answers := by
  simp only [Questionnaire.nextDestination, checked_block?, checked_ruleChoice?]
  cases (d.indexed.block? block) <;> rfl

theorem checked_blockOf? (slot : SlotId) :
    (d.checked sources).blockOf? slot = (d.indexed.blockOf? slot).map (Block.markRawText sources) := by
  -- Whether a block declares the slot depends only on the ids it declares.
  have declares : ∀ b : Block, ((b.markRawText sources).declaredSlots.find? (·.id == slot)).isSome =
      (b.declaredSlots.find? (·.id == slot)).isSome := by
    intro b
    have same := congrArg (slot ∈ ·) (Block.markRawText_declaredSlots_ids sources b)
    rw [Bool.eq_iff_iff, List.find?_isSome, List.find?_isSome]
    simpa using same
  rw [← marked_indexed, indexed_blockOf?, indexed_blockOf?, marked_allBlocks, List.find?_map]
  simp only [Function.comp_def, declares]

theorem reachable_marked (answers : AnswerStore) (blocks : List BlockId) :
    (d.checked sources).reachable answers blocks = d.indexed.reachable answers blocks := by
  funext slot
  simp only [Questionnaire.reachable, checked_blockOf?]
  cases (d.indexed.blockOf? slot) <;> rfl

end QuestionnaireDefinition

/-! ### Checked questionnaires -/

namespace Questionnaire

/-- What a checked questionnaire guarantees of its indexes, blocks, slots and routes. -/
structure Checked (q : Questionnaire) : Prop where
  locations_ne_nil : q.locations ≠ []
  locations_blocks : q.locations.map (·.block) = q.blocks.map (·.id)
  /-- The indexes are those of the definition. -/
  indexed : q.definition.indexed = q
  section_ids_nodup : (q.definition.sections.map (·.id)).Nodup
  ids_nodup : (q.blocks.map (·.id)).Nodup
  variants_replace : ∀ b ∈ q.blocks, ∀ v ∈ b.questionVariants,
    (b.questions.findIdx? (·.id == v.question.id)).isSome
  routes_forward : ∀ b i, (b, i) ∈ q.blocks.zipIdx → ∀ rule ∈ b.routing, q.RouteForward i rule.goto
  slots_apart : ∀ b ∈ q.blocks, ∀ b' ∈ q.blocks, ∀ slot ∈ b.slotIds, slot ∈ b'.slotIds → b = b'

end Questionnaire

/-- **A questionnaire that passes `ofDefinition` is `Checked`.** -/
theorem checked_of_ofDefinition {d : QuestionnaireDefinition} {q : Questionnaire}
    (ok : Questionnaire.ofDefinition d = .ok q) : q.Checked := by
  obtain ⟨nonempty, pass, sources, referencesOk, rfl⟩ := ofDefinition_ok ok
  have blocks := d.checked_blocks sources
  have ids : (d.checked sources).blocks.map (·.id) = d.allBlocks.map (·.id) := by
    simp [blocks, Function.comp_def]
  refine ⟨?_, ?_, d.marked_indexed sources, ?_, ids ▸ pass.ids_nodup, ?_, ?_, ?_⟩
  · -- The first section has a block, so there is a first location.
    obtain ⟨first, rest, split⟩ := List.exists_cons_of_ne_nil nonempty
    obtain ⟨b, others, opening⟩ :=
      List.exists_cons_of_ne_nil (pass.sections_ne_nil first (by simp [split]))
    simp [QuestionnaireDefinition.indexed, QuestionnaireDefinition.locationsOf, split, opening]
  · exact (d.locationsOf_blocks).trans ids.symm
  · simpa [QuestionnaireDefinition.marked, Function.comp_def] using pass.section_ids_nodup
  · intro b member v variant
    rw [blocks, List.mem_map] at member
    obtain ⟨original, member, rfl⟩ := member
    obtain ⟨v', variant', rfl⟩ := List.mem_map.mp variant
    simpa [Block.markRawText, List.findIdx?_map, Function.comp_def] using
      pass.variants_replace original member v' variant'
  · intro b i member rule routed
    rw [blocks, List.zipIdx_map, List.mem_map] at member
    obtain ⟨⟨original, j⟩, member, same⟩ := member
    simp only [Prod.map, id, Prod.mk.injEq] at same
    obtain ⟨rfl, rfl⟩ := same
    obtain ⟨found, checked⟩ := except_flatMapM_ok referencesOk (original, j) member
    have forward := Questionnaire.checkReferences_ok checked rule (by simpa using routed)
    unfold Questionnaire.RouteForward at forward ⊢
    simpa [QuestionnaireDefinition.checked_destinationNext,
      QuestionnaireDefinition.checked_orderOf?] using forward
  · intro b member b' member' slot declared declared'
    rw [blocks, List.mem_map] at member member'
    obtain ⟨original, member, rfl⟩ := member
    obtain ⟨original', member', rfl⟩ := member'
    rw [Block.markRawText_slotIds] at declared declared'
    rw [pass.slots_apart member member' declared declared']

/-! ### Lookups of a checked questionnaire -/

/-- With every variant replacing a question of its block, a block declares exactly its slots. -/
theorem Block.declaredSlots_eq {b : Block}
    (replace : ∀ v ∈ b.questionVariants, (b.questions.findIdx? (·.id == v.question.id)).isSome) :
    b.declaredSlots = b.allQuestions.flatMap (·.answers) := by
  rw [Block.declaredSlots, List.filter_eq_self.mpr replace, Block.allQuestions, List.flatMap_append,
    List.flatMap_map]

namespace Questionnaire.Checked

variable {q : Questionnaire} (checked : q.Checked)
include checked

theorem block?_eq_find? (id : BlockId) : q.block? id = q.blocks.find? (·.id == id) := by
  rw [← checked.indexed]
  exact q.definition.indexed_block? id

theorem orderOf?_eq_findIdx? (id : BlockId) :
    q.orderOf? id = q.locations.findIdx? (·.block == id) := by
  rw [← checked.indexed]
  exact q.definition.indexed_orderOf? id

theorem location?_eq_find? (id : BlockId) : q.location? id = q.locations.find? (·.block == id) := by
  rw [← checked.indexed]
  exact q.definition.indexed_location? id

theorem section?_eq_find? (id : SectionId) :
    q.section? id = q.definition.sections.find? (·.id == id) := by
  rw [← checked.indexed]
  exact q.definition.indexed_section? id

theorem slot?_eq_find? (x : SlotId) :
    q.slot? x = (q.blocks.flatMap Block.declaredSlots).find? (·.id == x) := by
  rw [← checked.indexed]
  exact q.definition.indexed_slot? x

theorem calculation?_eq_findSome? (r : RuleId) :
    q.calculation? r =
      q.blocks.findSome? fun b => (b.calculations.find? (·.id == r)).map fun c => (b, c) := by
  rw [← checked.indexed]
  exact q.definition.indexed_calculation? r

/-- The block of a slot is the first block declaring it. -/
theorem blockOf?_eq_find? (x : SlotId) : q.blockOf? x = q.blocks.find? (·.slotIds.contains x) := by
  have declares : ∀ b ∈ q.blocks, (b.declaredSlots.find? (·.id == x)).isSome = b.slotIds.contains x := by
    intro b member
    rw [Block.declaredSlots_eq (checked.variants_replace b member), Bool.eq_iff_iff,
      List.find?_isSome, List.contains_iff_mem]
    simp only [Block.slotIds, List.mem_flatMap, List.mem_map, beq_iff_eq]
    constructor
    · rintro ⟨s, ⟨question, asked, answer⟩, named⟩
      exact ⟨question, asked, s, answer, named⟩
    · rintro ⟨question, asked, s, answer, named⟩
      exact ⟨s, ⟨question, asked, answer⟩, named⟩
  rw [← checked.indexed, q.definition.indexed_blockOf? x]
  rw [checked.indexed]
  exact List.find?_congr declares

end Questionnaire.Checked

end Survey
