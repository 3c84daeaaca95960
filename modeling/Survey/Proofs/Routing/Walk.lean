import Mathlib
import Survey.Proofs.Schema.Accepted
import Survey.Proofs.Routing.Locality

/-!
# The routing path is a well-formed walk

On a checked questionnaire every routing decision leads to the summary or to a block strictly
later in the order (`Checked.nextDestination_advances`): routes were checked to point forward
on load, and the next block in sequence is the one at the next position. So the walk from the
first block climbs the order one decision at a time, never meets a block twice, and ends at the
summary before its bound on steps runs out (`Checked.walk_walked`).

`routingPath_wellFormed` states what this gives for the routing path of any answers
(`Questionnaire.WellFormedPath`): it starts at the first block, its blocks come in strictly
increasing order, each location after the first is the decision taken after the one before it
on the answers of the blocks visited so far, the decision after the last is the summary, and
the path's own `contains`, `next?` and `previous?` agree with its list of locations.
-/

namespace Survey

/-- In a list whose keys are all different, an element is found at its own index. -/
theorem findIdx?_key_of_nodup {α β : Type} [BEq β] [LawfulBEq β] {f : α → β} {xs : List α}
    (distinct : (xs.map f).Nodup) {i : Nat} {x : α} (at_ : xs[i]? = some x) :
    xs.findIdx? (fun y => f y == f x) = some i := by
  obtain ⟨bound, rfl⟩ := List.getElem?_eq_some_iff.mp at_
  refine List.findIdx?_eq_some_iff_getElem.mpr ⟨bound, by simp, fun j before same => ?_⟩
  have earlier : j < (xs.map f).length := by simp; omega
  have this_one : i < (xs.map f).length := by simp; omega
  have keys : (xs.map f)[j] = (xs.map f)[i] := by
    simpa using same
  have := (List.Nodup.getElem_inj_iff distinct).mp keys
  omega

/-! ### Moving along a path -/

namespace RoutingPath

theorem contains_iff_mem (p : RoutingPath) (block : BlockId) :
    p.contains block = true ↔ block ∈ p.blocks := by
  simp [contains, blocks]

/-- A block on a path has a first location there, with none of the blocks before it. -/
theorem exists_first_of_contains {p : RoutingPath} {block : BlockId}
    (member : p.contains block = true) :
    ∃ i l, p.locations[i]? = some l ∧ l.block = block ∧
      block ∉ (p.locations.take i).map (·.block) := by
  have found : (p.locations.findIdx? (·.block == block)).isSome := by
    rw [List.findIdx?_isSome]
    exact member
  obtain ⟨i, at_⟩ := Option.isSome_iff_exists.mp found
  obtain ⟨bound, named, earlier⟩ := List.findIdx?_eq_some_iff_getElem.mp at_
  refine ⟨i, p.locations[i], List.getElem?_eq_getElem bound, by simpa using named, ?_⟩
  intro listed
  obtain ⟨l, taken, same⟩ := List.mem_map.mp listed
  obtain ⟨j, before, rfl⟩ := List.mem_take_iff_getElem.mp taken
  exact earlier j (by omega) (by simpa using same)

section Distinct

variable {p : RoutingPath} (distinct : p.blocks.Nodup)
include distinct

theorem position?_of_getElem? {i : Nat} {l : Location} (at_ : p.locations[i]? = some l) :
    p.position? l.block = some i :=
  findIdx?_key_of_nodup distinct at_

/-- After a location the path goes on to the one that follows it. -/
theorem next?_of_getElem? {i : Nat} {l l' : Location} (at_ : p.locations[i]? = some l)
    (after : p.locations[i + 1]? = some l') : p.next? l.block = some (.block l') := by
  simp [next?, position?_of_getElem? distinct at_, after]

/-- After the last location the path goes on to the summary. -/
theorem next?_of_getLast? {l : Location} (ending : p.locations.getLast? = some l) :
    p.next? l.block = some .summary := by
  rw [List.getLast?_eq_getElem?] at ending
  have past : p.locations[p.locations.length - 1 + 1]? = none := by
    have : p.locations.length - 1 + 1 = p.locations.length := by
      have := (List.getElem?_eq_some_iff.mp ending).1
      omega
    simp [this]
  simp [next?, position?_of_getElem? distinct ending, past]

/-- Before a location comes the one that precedes it on the path. -/
theorem previous?_of_getElem? {i : Nat} {l l' : Location} (at_ : p.locations[i]? = some l)
    (after : p.locations[i + 1]? = some l') : p.previous? l'.block = some l := by
  simp [previous?, position?_of_getElem? distinct after, at_]

/-- Nothing comes before the first location. -/
theorem previous?_of_head? {l : Location} (opening : p.locations.head? = some l) :
    p.previous? l.block = none := by
  rw [List.head?_eq_getElem?] at opening
  simp [previous?, position?_of_getElem? distinct opening]

end Distinct

end RoutingPath

namespace Questionnaire

/-- A decision taken after the block at position `order` moves on: to the summary, or to a
location strictly later in the order. -/
def Advances (q : Questionnaire) (order : Nat) : Next → Prop
  | .summary => True
  | .block l => ∃ later, q.locations[later]? = some l ∧ order < later

/-- A block's location is one of the questionnaire's locations. -/
theorem mem_of_location? {q : Questionnaire} {id : BlockId} {l : Location}
    (located : q.location? id = some l) : l ∈ q.locations := by
  obtain ⟨p, -, at_⟩ := Option.bind_eq_some_iff.mp located
  exact List.mem_of_getElem? at_

/-- A destination that leads to a block leads to one of the questionnaire's locations. -/
theorem destinationNext_mem {q : Questionnaire} {goto : Destination} {l : Location}
    (decided : q.destinationNext goto = some (.block l)) : l ∈ q.locations := by
  cases goto with
  | block id =>
    simp only [destinationNext, Option.map_eq_some_iff, Next.block.injEq] at decided
    obtain ⟨found, located, rfl⟩ := decided
    exact mem_of_location? located
  | «section» id =>
    simp only [destinationNext, Option.map_eq_some_iff, Next.block.injEq, sectionStart?,
      Option.bind_eq_some_iff] at decided
    obtain ⟨_, ⟨_, _, _, _, located⟩, rfl⟩ := decided
    exact mem_of_location? located
  | summary => simp [destinationNext] at decided

section Checked

variable {q : Questionnaire} (checked : q.Checked)
include checked

theorem Checked.blocks_nodup : (q.locations.map (·.block)).Nodup :=
  checked.locations_blocks ▸ checked.ids_nodup

/-- A location's block has the location's position as its order. -/
theorem Checked.orderOf?_of_getElem? {i : Nat} {l : Location} (at_ : q.locations[i]? = some l) :
    q.orderOf? l.block = some i := by
  rw [checked.orderOf?_eq_findIdx?]
  exact findIdx?_key_of_nodup checked.blocks_nodup at_

/-- The block at a location's position is the block the location names. -/
theorem Checked.block?_of_getElem? {i : Nat} {l : Location} (at_ : q.locations[i]? = some l) :
    ∃ b, q.block? l.block = some b ∧ (b, i) ∈ q.blocks.zipIdx := by
  have named : (q.blocks.map (·.id))[i]? = some l.block := by
    rw [← checked.locations_blocks, List.getElem?_map, at_]
    rfl
  rw [List.getElem?_map] at named
  obtain ⟨b, at_b, same⟩ := Option.map_eq_some_iff.mp named
  refine ⟨b, ?_, List.mem_zipIdx_iff_getElem?.mpr at_b⟩
  have found := findIdx?_key_of_nodup checked.ids_nodup at_b
  rw [same] at found
  rw [checked.block?_eq_find?, List.find?_eq_some_iff_getElem]
  obtain ⟨bound, rfl⟩ := List.getElem?_eq_some_iff.mp at_b
  refine ⟨by simp [same], i, bound, rfl, fun j before => ?_⟩
  have := (List.findIdx?_eq_some_iff_getElem.mp found).2.2 j before
  simpa using this

/-- A route checked to point forward leads somewhere, and onward. -/
theorem Checked.destinationNext_advances {order : Nat} {goto : Destination}
    (forward : q.RouteForward order goto) : ∃ n, q.destinationNext goto = some n ∧ q.Advances order n := by
  rcases forward with summary | ⟨l, later, decided, placed, after⟩
  · exact ⟨.summary, summary, trivial⟩
  · obtain ⟨j, at_⟩ := List.getElem?_of_mem (destinationNext_mem decided)
    have same := checked.orderOf?_of_getElem? at_
    rw [placed, Option.some.injEq] at same
    exact ⟨.block l, decided, j, at_, same ▸ after⟩

/-- **Every decision on a checked questionnaire moves forward.** After the block at position
`i`, whatever the answers, there is a decision, and it is the summary or a block at a later
position: a routing rule that applies was checked to point forward, and without one the next
block in sequence is the one at position `i + 1`. -/
theorem Checked.nextDestination_advances {i : Nat} {l : Location} (at_ : q.locations[i]? = some l)
    (view : Lookup) : ∃ n, q.nextDestination l.block view = some n ∧ q.Advances i n := by
  obtain ⟨b, found, member⟩ := checked.block?_of_getElem? at_
  simp only [nextDestination, found, Option.bind_eq_bind, Option.bind_some]
  cases choice : q.ruleChoice? l.block view with
  | some next =>
    simp only [ruleChoice?, found, Option.bind_some, Option.map_eq_some_iff] at choice
    obtain ⟨rule, picked, rfl⟩ := choice
    exact checked.destinationNext_advances
      (checked.routes_forward b i member rule (List.mem_of_find?_eq_some picked))
  | none =>
    have sequence : q.nextInSequence? l.block = q.locations[i + 1]? := by
      simp [nextInSequence?, checked.orderOf?_of_getElem? at_]
    cases after : q.locations[i + 1]? with
    | none => exact ⟨.summary, by simp [sequence, after], trivial⟩
    | some l' => exact ⟨.block l', by simp [sequence, after], i + 1, after, by omega⟩

end Checked

/-! ### The walk climbs the order -/

/-- `l` comes strictly before `l'` in the questionnaire's navigation order. -/
def Precedes (q : Questionnaire) (l l' : Location) : Prop :=
  ∃ i j : Nat, q.locations[i]? = some l ∧ q.locations[j]? = some l' ∧ i < j

/-- Each location of a path after the first is the decision taken after the one before it, on
the answers of the blocks up to and including that one. -/
def Steps (q : Questionnaire) (answers : AnswerStore) (path : List Location) : Prop :=
  ∀ i (h : i + 1 < path.length),
    q.nextDestination path[i].block (q.reachable answers ((path.take (i + 1)).map (·.block))) =
      some (.block path[i + 1])

/-- What the walk leaves: locations in navigation order, each decided from the one before, the
decision after the last being the summary. -/
structure Walked (q : Questionnaire) (answers : AnswerStore) (path : List Location) : Prop where
  known : ∀ l ∈ path, l ∈ q.locations
  ordered : path.Pairwise q.Precedes
  steps : q.Steps answers path
  ends : ∃ last, path.getLast? = some last ∧
    q.nextDestination last.block (q.reachable answers (path.map (·.block))) = some .summary

theorem Precedes.mem_left {q : Questionnaire} {l l' : Location} (before : q.Precedes l l') :
    l ∈ q.locations := by
  obtain ⟨i, _, at_, _⟩ := before
  exact List.mem_of_getElem? at_

theorem Steps.singleton (q : Questionnaire) (answers : AnswerStore) (l : Location) :
    q.Steps answers [l] := by
  intro i h
  simp at h

/-- A path whose last decision leads to `l` steps on to `l`. -/
theorem Steps.snoc {q : Questionnaire} {answers : AnswerStore} {path : List Location}
    {last l : Location} (steps : q.Steps answers path) (ending : path.getLast? = some last)
    (decided : q.nextDestination last.block (q.reachable answers (path.map (·.block))) =
      some (.block l)) :
    q.Steps answers (path ++ [l]) := by
  intro i h
  simp only [List.length_append, List.length_singleton] at h
  rcases Nat.lt_or_ge (i + 1) path.length with inside | final
  · -- An old step, read inside the old path.
    rw [List.getElem_append_left (by omega), List.getElem_append_left inside,
      List.take_append_of_le_length inside.le]
    exact steps i inside
  · -- The new step, from the old last location.
    have index : i + 1 = path.length := by omega
    have bound : i < path.length := by omega
    have bound' : i + 1 < (path ++ [l]).length := by simp; omega
    have lastAt : path[i] = last := by
      rw [List.getLast?_eq_getElem?] at ending
      simp only [show path.length - 1 = i by omega] at ending
      exact Option.some.inj ((List.getElem?_eq_getElem _).symm.trans ending)
    have first : (path ++ [l])[i] = last := by
      rw [List.getElem_append_left (by omega)]
      exact lastAt
    have second : (path ++ [l])[i + 1] = l :=
      List.getElem_concat_length index _
    have opening : (path ++ [l]).take (i + 1) = path := by
      rw [index, List.take_append_of_le_length le_rfl, List.take_length]
    rw [first, second, opening]
    exact decided

section Checked

variable {q : Questionnaire} (checked : q.Checked)
include checked

theorem Checked.precedes_trans {l l' l'' : Location} (first : q.Precedes l l')
    (second : q.Precedes l' l'') : q.Precedes l l'' := by
  obtain ⟨i, j, at_i, at_j, before⟩ := first
  obtain ⟨j', k, at_j', at_k, before'⟩ := second
  have same := checked.orderOf?_of_getElem? at_j
  rw [checked.orderOf?_of_getElem? at_j', Option.some.injEq] at same
  exact ⟨i, k, at_i, at_k, by omega⟩

/-- Locations in navigation order have different blocks. -/
theorem Checked.block_ne_of_precedes {l l' : Location} (before : q.Precedes l l') :
    l.block ≠ l'.block := by
  obtain ⟨i, j, at_i, at_j, less⟩ := before
  intro same
  have orders := checked.orderOf?_of_getElem? at_i
  rw [same, checked.orderOf?_of_getElem? at_j, Option.some.injEq] at orders
  omega

/-- **The walk invariant.** Started at the location at position `j` with fuel to spare beyond
the positions left, after a path in navigation order whose steps are decisions, the walk ends in
a `Walked` path extending the one it started from. Each step moves to a later position and
spends one unit of fuel, so the fuel never runs out and the walk stops only on the summary. -/
theorem Checked.walk_walked (answers : AnswerStore) (fuel : Nat) (visited : List Location)
    (location : Location) (j : Nat) (at_ : q.locations[j]? = some location)
    (budget : q.locations.length < fuel + j) (ordered : (visited ++ [location]).Pairwise q.Precedes)
    (steps : q.Steps answers (visited ++ [location])) :
    visited ++ [location] <+: q.walk answers fuel visited location ∧
      q.Walked answers (q.walk answers fuel visited location) := by
  induction fuel generalizing visited location j with
  | zero =>
    have := (List.getElem?_eq_some_iff.mp at_).1
    omega
  | succ fuel ih =>
    have earlier : ∀ v ∈ visited, q.Precedes v location := fun v member =>
      (List.pairwise_append.mp ordered).2.2 v member location (List.mem_singleton_self _)
    have fresh : visited.any (·.block == location.block) = false := by
      simpa using fun v member => checked.block_ne_of_precedes (earlier v member)
    have known : ∀ l ∈ visited ++ [location], l ∈ q.locations := by
      intro l member
      rcases List.mem_append.mp member with old | here
      · exact (earlier l old).mem_left
      · rw [List.mem_singleton.mp here]
        exact List.mem_of_getElem? at_
    rw [walk_succ_of_fresh q answers fresh]
    obtain ⟨n, decided, advances⟩ := checked.nextDestination_advances at_
      (q.reachable answers ((visited ++ [location]).map (·.block)))
    rw [decided]
    cases n with
    | summary =>
      refine ⟨List.prefix_refl _, known, ordered, steps, location, by simp, decided⟩
    | block next =>
      obtain ⟨later, at_next, after⟩ := advances
      have ordered' : (visited ++ [location] ++ [next]).Pairwise q.Precedes := by
        refine List.pairwise_append.mpr ⟨ordered, List.pairwise_singleton _ _, ?_⟩
        intro l member l' single
        rw [List.mem_singleton.mp single]
        have step : q.Precedes location next := ⟨j, later, at_, at_next, after⟩
        rcases List.mem_append.mp member with old | here
        · exact checked.precedes_trans (earlier l old) step
        · rw [List.mem_singleton.mp here]
          exact step
      have steps' := steps.snoc (by simp) decided
      obtain ⟨extends_, walked⟩ := ih (visited ++ [location]) next later at_next (by omega)
        ordered' steps'
      exact ⟨(List.prefix_append _ _).trans extends_, walked⟩

end Checked

/-! ### The routing path -/

/-- What a routing path computed from some answers is: a walk from the first block through
blocks in navigation order, each chosen by the decision after the one before it, ending where
the decision is the summary; and the path's own lookups agree with its list of locations. -/
structure WellFormedPath (q : Questionnaire) (answers : AnswerStore) (path : RoutingPath) : Prop where
  starts : path.locations.head? = some q.firstLocation
  known : ∀ l ∈ path.locations, l ∈ q.locations
  ordered : path.locations.Pairwise q.Precedes
  blocks_nodup : path.blocks.Nodup
  length_le : path.locations.length ≤ q.blocks.length
  steps : q.Steps answers path.locations
  ends : ∃ last, path.locations.getLast? = some last ∧
    q.nextDestination last.block (q.onPath answers path) = some .summary
  contains_iff : ∀ block, path.contains block = true ↔ block ∈ path.blocks
  next_step : ∀ i (h : i + 1 < path.locations.length),
    path.next? path.locations[i].block = some (.block path.locations[i + 1])
  previous_step : ∀ i (h : i + 1 < path.locations.length),
    path.previous? path.locations[i + 1].block = some path.locations[i]
  next_last : ∀ last, path.locations.getLast? = some last → path.next? last.block = some .summary
  previous_first : path.previous? q.firstLocation.block = none

theorem Checked.firstLocation_at {q : Questionnaire} (checked : q.Checked) :
    q.locations[0]? = some q.firstLocation := by
  obtain ⟨first, rest, split⟩ := List.exists_cons_of_ne_nil checked.locations_ne_nil
  simp [firstLocation, split]

/-- **The routing path of a checked questionnaire is well formed**, whatever the answers: the
walk from the first block, with one more unit of fuel than there are blocks, is `Walked`, and
the lookups of a path with distinct blocks agree with its list. -/
theorem Checked.wellFormedPath {q : Questionnaire} (checked : q.Checked) (answers : AnswerStore) :
    q.WellFormedPath answers (q.routingPath answers) := by
  obtain ⟨opening, walked⟩ := checked.walk_walked answers (q.locations.length + 1) []
    q.firstLocation 0 checked.firstLocation_at (by omega) (List.pairwise_singleton _ _)
    (Steps.singleton _ _ _)
  -- The path's locations are the walk's, by definition.
  change [] ++ [q.firstLocation] <+: (q.routingPath answers).locations at opening
  change q.Walked answers (q.routingPath answers).locations at walked
  have distinct : (q.routingPath answers).blocks.Nodup :=
    List.pairwise_map.mpr (walked.ordered.imp checked.block_ne_of_precedes)
  have starts : (q.routingPath answers).locations.head? = some q.firstLocation := by
    obtain ⟨rest, whole⟩ := opening
    rw [← whole]
    rfl
  have blocksCount : q.locations.length = q.blocks.length := by
    simpa using congrArg List.length checked.locations_blocks
  refine ⟨starts, walked.known, walked.ordered, distinct, ?_, walked.steps, walked.ends, ?_, ?_,
    ?_, fun last ending => RoutingPath.next?_of_getLast? distinct ending,
    RoutingPath.previous?_of_head? distinct starts⟩
  · -- Distinct locations of the questionnaire are at most as many as its blocks.
    have sub := (List.Nodup.of_map _ distinct).subperm walked.known
    exact blocksCount ▸ sub.length_le
  · exact RoutingPath.contains_iff_mem _
  · intro i h
    exact RoutingPath.next?_of_getElem? distinct (List.getElem?_eq_getElem _)
      (List.getElem?_eq_getElem h)
  · intro i h
    exact RoutingPath.previous?_of_getElem? distinct (List.getElem?_eq_getElem _)
      (List.getElem?_eq_getElem h)

/-- **The routing path is a well-formed terminating walk** on every questionnaire that
`ofDefinition` accepts, for all answers. -/
theorem routingPath_wellFormed {d : QuestionnaireDefinition} {q : Questionnaire}
    (accepted : Questionnaire.ofDefinition d = .ok q) (answers : AnswerStore) :
    q.WellFormedPath answers (q.routingPath answers) :=
  (checked_of_ofDefinition accepted).wellFormedPath answers

/-- The census questionnaire is accepted; a child's route through it is well formed. -/
theorem routingPath_wellFormed_census :
    Questionnaire.ofDefinition Catalog.censusHousehold = .ok (Catalog.censusHousehold.checked []) ∧
      (Catalog.censusHousehold.checked []).WellFormedPath childWithMaritalStatus
        ((Catalog.censusHousehold.checked []).routingPath childWithMaritalStatus) :=
  have accepted : Questionnaire.ofDefinition Catalog.censusHousehold =
      .ok (Catalog.censusHousehold.checked []) := by rfl
  ⟨accepted, routingPath_wellFormed accepted childWithMaritalStatus⟩

end Questionnaire

end Survey
