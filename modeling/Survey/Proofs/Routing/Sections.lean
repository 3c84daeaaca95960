import Mathlib
import Survey.Routing.Progress
import Survey.Proofs.Routing.Walk

/-!
# Sections complete along the route

Progress is judged against a routing path in two ways. `ProgressStore.isComplete` scans the
path's locations for a block not yet submitted; `ProgressStore.sectionStatus` keeps the blocks of
one section that lie on the path and counts the submitted ones among them, so a section with no
block on the path counts as completed.

* `ProgressStore.isComplete_iff` — complete exactly when every block on the path is submitted;
* `ProgressStore.sectionStatus_eq_completed_iff`, `ProgressStore.sectionStatus_eq_notStarted_iff`
  — a section is completed when each of its blocks on the path is submitted, and not started when
  it has a block on the path and none of those is submitted;
* `ProgressStore.isComplete_iff_sections` — the two judgements agree whenever every block on the
  path is a block of one of the sections;
* `Questionnaire.Checked.routingPath_in_sections` — which holds of the routing path of a checked
  questionnaire, whose locations are those of its sections' blocks;
* **`ProgressStore.complete_iff_sections_completed`** — so on every questionnaire `ofDefinition`
  accepts, for every progress and every answers, the questionnaire is complete exactly when all of
  its sections are, and a section is not started exactly when it has a block on the route and
  none of them is submitted.
-/

namespace Survey

namespace ProgressStore

variable (p : ProgressStore) (path : RoutingPath)

/-- Complete exactly when every block on the path is submitted. -/
theorem isComplete_iff :
    p.isComplete path = true ↔ ∀ l ∈ path.locations, p.isSubmitted l.block = true := by
  simp [isComplete, firstIncomplete?]

/-- The blocks of a section that lie on the path, as `sectionStatus` keeps them. -/
theorem mem_onPath_iff (s : Section) (block : BlockId) :
    block ∈ (s.blocks.map (·.id)).filter path.contains ↔
      ∃ b ∈ s.blocks, b.id = block ∧ path.contains block = true := by
  simp only [List.mem_filter, List.mem_map]
  constructor
  · rintro ⟨⟨b, member, rfl⟩, onPath⟩
    exact ⟨b, member, rfl, onPath⟩
  · rintro ⟨b, member, rfl, onPath⟩
    exact ⟨⟨b, member, rfl⟩, onPath⟩

/-- **A section is completed when each of its blocks on the path is submitted**, so also when
none of them is on the path. -/
theorem sectionStatus_eq_completed_iff (s : Section) :
    p.sectionStatus s path = .completed ↔
      ∀ b ∈ s.blocks, path.contains b.id = true → p.isSubmitted b.id = true := by
  unfold sectionStatus
  dsimp only
  -- Only the first branch gives `completed`: all blocks kept are submitted.
  have decided : ∀ (done total : Nat), (if done = total then CompletionStatus.completed
      else if done = 0 then .notStarted else .inProgress) = .completed ↔ done = total := by
    intro done total
    split_ifs <;> simp_all
  rw [decided, List.length_filter_eq_length_iff]
  constructor
  · intro all b member onPath
    exact all b.id ((mem_onPath_iff path s b.id).mpr ⟨b, member, rfl, onPath⟩)
  · intro all block kept
    obtain ⟨b, member, rfl, onPath⟩ := (mem_onPath_iff path s block).mp kept
    exact all b member onPath

/-- **A section is not started when it has a block on the path and none of those is
submitted.** -/
theorem sectionStatus_eq_notStarted_iff (s : Section) :
    p.sectionStatus s path = .notStarted ↔
      (∃ b ∈ s.blocks, path.contains b.id = true) ∧
        ∀ b ∈ s.blocks, path.contains b.id = true → p.isSubmitted b.id = false := by
  unfold sectionStatus
  dsimp only
  -- `notStarted` is the second branch: nothing submitted among a nonempty list of blocks kept.
  have decided : ∀ (done total : Nat), (if done = total then CompletionStatus.completed
      else if done = 0 then .notStarted else .inProgress) = .notStarted ↔
        done = 0 ∧ 0 < total := by
    intro done total
    split_ifs with same nothing
    · simp only [false_iff]
      omega
    · simp only [true_iff]
      omega
    · simp only [false_iff]
      omega
  rw [decided, List.length_eq_zero_iff, List.filter_eq_nil_iff, List.length_pos_iff_exists_mem,
    and_comm]
  apply and_congr
  · constructor
    · rintro ⟨block, kept⟩
      obtain ⟨b, member, rfl, onPath⟩ := (mem_onPath_iff path s block).mp kept
      exact ⟨b, member, onPath⟩
    · rintro ⟨b, member, onPath⟩
      exact ⟨b.id, (mem_onPath_iff path s b.id).mpr ⟨b, member, rfl, onPath⟩⟩
  · constructor
    · intro none_ b member onPath
      simpa using none_ b.id ((mem_onPath_iff path s b.id).mpr ⟨b, member, rfl, onPath⟩)
    · intro none_ block kept
      obtain ⟨b, member, rfl, onPath⟩ := (mem_onPath_iff path s block).mp kept
      simp [none_ b member onPath]

/-- **Complete exactly when every section is**, as long as every block on the path is a block of
one of the sections: a block not submitted on the path leaves its section short of completed. -/
theorem isComplete_iff_sections {sections : List Section}
    (covered : ∀ l ∈ path.locations, ∃ s ∈ sections, ∃ b ∈ s.blocks, b.id = l.block) :
    p.isComplete path = true ↔ ∀ s ∈ sections, p.sectionStatus s path = .completed := by
  simp only [isComplete_iff, sectionStatus_eq_completed_iff]
  constructor
  · intro all s _ b _ onPath
    obtain ⟨l, located, named⟩ :=
      List.mem_map.mp ((RoutingPath.contains_iff_mem path b.id).mp onPath)
    exact named ▸ all l located
  · intro all l located
    obtain ⟨s, listed, b, member, named⟩ := covered l located
    have onPath : path.contains b.id = true :=
      (RoutingPath.contains_iff_mem path b.id).mpr (named ▸ List.mem_map_of_mem located)
    exact named ▸ all s listed b member onPath

end ProgressStore

/-- Every block on the routing path of a checked questionnaire is a block of one of its
sections: the walk visits locations of the questionnaire only, and those are its blocks'. -/
theorem Questionnaire.Checked.routingPath_in_sections {q : Questionnaire} (checked : q.Checked)
    (answers : AnswerStore) :
    ∀ l ∈ (q.routingPath answers).locations,
      ∃ s ∈ q.definition.sections, ∃ b ∈ s.blocks, b.id = l.block := by
  intro l located
  have visited : l ∈ q.locations := (checked.wellFormedPath answers).known l located
  have known : l.block ∈ q.blocks.map (·.id) :=
    checked.locations_blocks ▸ List.mem_map_of_mem visited
  obtain ⟨b, member, named⟩ := List.mem_map.mp known
  obtain ⟨s, listed, inSection⟩ := List.mem_flatMap.mp member
  exact ⟨s, listed, b, inSection, named⟩

/-- **Questionnaire completion agrees with section completion.** On every questionnaire that
`ofDefinition` accepts, for every progress and every answers, the questionnaire is complete along
the routing path exactly when every one of its sections is completed there; and a section is not
started exactly when it has a block on the route and none of them is submitted. -/
theorem ProgressStore.complete_iff_sections_completed {d : QuestionnaireDefinition}
    {q : Questionnaire} (accepted : Questionnaire.ofDefinition d = .ok q) (p : ProgressStore)
    (answers : AnswerStore) :
    (p.isComplete (q.routingPath answers) = true ↔
      ∀ s ∈ q.definition.sections, p.sectionStatus s (q.routingPath answers) = .completed) ∧
    ∀ s ∈ q.definition.sections,
      (p.sectionStatus s (q.routingPath answers) = .notStarted ↔
        (∃ b ∈ s.blocks, (q.routingPath answers).contains b.id = true) ∧
          ∀ b ∈ s.blocks, (q.routingPath answers).contains b.id = true →
            p.isSubmitted b.id = false) :=
  ⟨p.isComplete_iff_sections _
      ((checked_of_ofDefinition accepted).routingPath_in_sections answers),
    fun s _ => p.sectionStatus_eq_notStarted_iff _ s⟩

/-- A child's route through the census with only the first block submitted: the questionnaire
is accepted, and its completion and its sections' statuses agree. -/
theorem ProgressStore.complete_iff_sections_completed_child :
    Questionnaire.ofDefinition Catalog.censusHousehold = .ok (Catalog.censusHousehold.checked []) ∧
      ((⟨["over-16"]⟩ : ProgressStore).isComplete
          ((Catalog.censusHousehold.checked []).routingPath
            Questionnaire.childWithMaritalStatus) = true ↔
        ∀ s ∈ (Catalog.censusHousehold.checked []).definition.sections,
          (⟨["over-16"]⟩ : ProgressStore).sectionStatus s
            ((Catalog.censusHousehold.checked []).routingPath
              Questionnaire.childWithMaritalStatus) = .completed) ∧
      ∀ s ∈ (Catalog.censusHousehold.checked []).definition.sections,
        ((⟨["over-16"]⟩ : ProgressStore).sectionStatus s
            ((Catalog.censusHousehold.checked []).routingPath
              Questionnaire.childWithMaritalStatus) = .notStarted ↔
          (∃ b ∈ s.blocks, ((Catalog.censusHousehold.checked []).routingPath
              Questionnaire.childWithMaritalStatus).contains b.id = true) ∧
            ∀ b ∈ s.blocks, ((Catalog.censusHousehold.checked []).routingPath
                Questionnaire.childWithMaritalStatus).contains b.id = true →
              (⟨["over-16"]⟩ : ProgressStore).isSubmitted b.id = false) :=
  have accepted : Questionnaire.ofDefinition Catalog.censusHousehold =
      .ok (Catalog.censusHousehold.checked []) := by rfl
  ⟨accepted, ProgressStore.complete_iff_sections_completed accepted _ _⟩

end Survey
