import Mathlib
import Survey.Routing.Path
import Survey.Catalog
import Survey.Proofs.Schema.Indexes

/-!
# Skipped answers never steer the route

The routing walk decides each step on the answers of the blocks visited so far, the current
block included (`Questionnaire.reachable`). So the route up to a block depends only on the
answers of the blocks before it:

* `AgreeOn q blocks A B` — the stores `A` and `B` hold the same value for every slot whose
  block is one of `blocks`; such stores give the same view of those blocks
  (`reachable_eq_of_agreeOn`);
* `walk_extends` — the walk only appends to the blocks already visited;
* `walk_locality` — two walks from the same start agree as long as their stores agree on the
  blocks visited;
* **`routingPath_locality`** — the first `k + 1` locations of the path of `A` open the path
  of every store that agrees with `A` on the slots of its first `k` blocks, and when those are
  all of its blocks the two paths are the same;
* `routingPath_eq_of_agreeOn` — in particular, changing answers of blocks off the path, as
  wiping skipped blocks does, leaves the path as it is.

Nothing here needs the questionnaire to be checked: locality is a property of how the walk
reads its answers.
-/

namespace Survey

namespace Questionnaire

/-- The stores agree on every slot that belongs to one of the given blocks. -/
def AgreeOn (q : Questionnaire) (blocks : List BlockId) (A B : AnswerStore) : Prop :=
  ∀ slot b, q.blockOf? slot = some b → b.id ∈ blocks → A.get? slot = B.get? slot

section Agreement

variable {q : Questionnaire} {A B : AnswerStore}

theorem AgreeOn.mono {blocks others : List BlockId} (agree : q.AgreeOn others A B)
    (sub : blocks ⊆ others) : q.AgreeOn blocks A B :=
  fun slot b owner member => agree slot b owner (sub member)

theorem AgreeOn.symm {blocks : List BlockId} (agree : q.AgreeOn blocks A B) :
    q.AgreeOn blocks B A :=
  fun slot b owner member => (agree slot b owner member).symm

/-- **Stores that agree on some blocks give the same view of them.** -/
theorem reachable_eq_of_agreeOn {blocks : List BlockId} (agree : q.AgreeOn blocks A B) :
    q.reachable A blocks = q.reachable B blocks := by
  funext slot
  unfold reachable
  cases owner : q.blockOf? slot with
  | none => rfl
  | some b =>
    by_cases member : b.id ∈ blocks
    · simp [member, agree slot b owner member]
    · simp [member]

end Agreement

/-! ### The walk -/

section Walk

variable (q : Questionnaire) (answers : AnswerStore)

/-- One step of the walk from a block not yet visited: decide on the view of the blocks
visited with it, and go on from the block decided, if any. -/
theorem walk_succ_of_fresh {fuel : Nat} {visited : List Location} {location : Location}
    (fresh : visited.any (·.block == location.block) = false) :
    q.walk answers (fuel + 1) visited location =
      match q.nextDestination location.block
          (q.reachable answers ((visited ++ [location]).map (·.block))) with
      | some (.block next) => q.walk answers fuel (visited ++ [location]) next
      | _ => visited ++ [location] := by
  simp only [walk, fresh, List.map_append, List.map_cons, List.map_nil]
  rfl

/-- The walk stops at a block visited before. -/
theorem walk_succ_of_seen {fuel : Nat} {visited : List Location} {location : Location}
    (seen : visited.any (·.block == location.block) = true) :
    q.walk answers (fuel + 1) visited location = visited := by
  simp only [walk, seen, if_true]

/-- **The walk only appends** to the blocks already visited. -/
theorem walk_extends (fuel : Nat) (visited : List Location) (location : Location) :
    visited <+: q.walk answers fuel visited location := by
  induction fuel generalizing visited location with
  | zero => exact List.prefix_refl _
  | succ fuel ih =>
    by_cases seen : visited.any (·.block == location.block) = true
    · rw [walk_succ_of_seen q answers seen]
    · rw [walk_succ_of_fresh q answers (Bool.eq_false_iff.mpr seen)]
      have step : visited <+: visited ++ [location] := List.prefix_append _ _
      split
      · exact step.trans (ih _ _)
      · exact step

/-- A step from a fresh block puts that block on the walk. -/
theorem walk_extends_of_fresh (fuel : Nat) {visited : List Location} {location : Location}
    (fresh : visited.any (·.block == location.block) = false) :
    visited ++ [location] <+: q.walk answers (fuel + 1) visited location := by
  rw [walk_succ_of_fresh q answers fresh]
  split
  · exact walk_extends q answers _ _ _
  · exact List.prefix_refl _

end Walk

/-- **Two walks agree while their stores agree on the blocks visited.** If `A` and `B` agree
on the slots of the first `k` blocks of the walk under `A`, and the walk started after fewer
than `k + 1` blocks, then the walk under `B` opens with the first `k + 1` locations of the walk
under `A`, and is that walk when it has at most `k` locations. -/
theorem walk_locality {q : Questionnaire} {A B : AnswerStore} (fuel : Nat)
    (visited : List Location) (location : Location) (k : Nat) (started : visited.length ≤ k)
    (agree : q.AgreeOn (((q.walk A fuel visited location).take k).map (·.block)) A B) :
    (q.walk A fuel visited location).take (k + 1) <+: q.walk B fuel visited location ∧
      ((q.walk A fuel visited location).length ≤ k →
        q.walk B fuel visited location = q.walk A fuel visited location) := by
  induction fuel generalizing visited location with
  | zero => exact ⟨List.take_prefix _ _, fun _ => rfl⟩
  | succ fuel ih =>
    by_cases seen : visited.any (·.block == location.block) = true
    · rw [walk_succ_of_seen q A seen, walk_succ_of_seen q B seen]
      exact ⟨List.take_prefix _ _, fun _ => rfl⟩
    have fresh := Bool.eq_false_iff.mpr seen
    have onA := walk_extends_of_fresh q A fuel fresh
    have onB := walk_extends_of_fresh q B fuel fresh
    rcases Nat.lt_or_ge visited.length k with later | now
    · -- The block just visited lies within the agreement, so both walks decide alike.
      have covered : (visited ++ [location]).map (·.block) ⊆
          ((q.walk A (fuel + 1) visited location).take k).map (·.block) := by
        have within : visited ++ [location] <+: (q.walk A (fuel + 1) visited location).take k :=
          List.prefix_take_iff.mpr ⟨onA, by simp; omega⟩
        exact (within.map _).subset
      have same := reachable_eq_of_agreeOn (agree.mono covered)
      rw [walk_succ_of_fresh q A fresh, walk_succ_of_fresh q B fresh, ← same] at *
      split
      · next next decided =>
        rw [decided] at agree
        exact ih _ _ (by simp; omega) agree
      · exact ⟨List.take_prefix _ _, fun _ => rfl⟩
    · -- The walk under `A` has reached `k + 1` locations with this block.
      have opening : (q.walk A (fuel + 1) visited location).take (k + 1) = visited ++ [location] := by
        rw [List.prefix_iff_eq_take.mp onA]
        simp [show k = visited.length by omega]
      refine ⟨opening ▸ onB, fun short => ?_⟩
      have := onA.length_le
      simp at this
      omega

/-- **Skipped answers never steer the route.** If `A` and `B` agree on the slots of the first
`k` blocks of the routing path of `A`, the path of `B` opens with the first `k + 1` locations of
the path of `A` (so the two share their first `min (k + 1) n` locations, `n` the length of the
path of `A`); and when `k` reaches the length of the path of `A`, the two paths are equal. -/
theorem routingPath_locality (q : Questionnaire) (A B : AnswerStore) (k : Nat)
    (agree : q.AgreeOn (((q.routingPath A).locations.take k).map (·.block)) A B) :
    (q.routingPath A).locations.take (k + 1) <+: (q.routingPath B).locations ∧
      ((q.routingPath A).locations.length ≤ k → q.routingPath B = q.routingPath A) := by
  obtain ⟨opening, whole⟩ := walk_locality _ [] q.firstLocation k (Nat.zero_le _) agree
  refine ⟨opening, fun short => ?_⟩
  unfold routingPath
  rw [whole short]

/-- The census questionnaire, indexed without its checks. -/
def censusIndexed : Questionnaire := Catalog.censusHousehold.indexed

/-- A child's answers, with a marital status left in a block that a child's route skips. -/
def childWithMaritalStatus : AnswerStore :=
  ⟨[("marital-status-answer", .choice "Married"), ("over-16-answer", .choice "No")],
    ["marital-status-answer", "over-16-answer"]⟩

/-- Clearing the marital status of a child keeps the child's route, which skips it. -/
theorem routingPath_locality_census_child :
    censusIndexed.AgreeOn
        (((censusIndexed.routingPath childWithMaritalStatus).locations.take 3).map (·.block))
        childWithMaritalStatus (childWithMaritalStatus.clear "marital-status-answer").2 ∧
      ((censusIndexed.routingPath childWithMaritalStatus).locations.take 4 <+:
          (censusIndexed.routingPath (childWithMaritalStatus.clear "marital-status-answer").2).locations ∧
        ((censusIndexed.routingPath childWithMaritalStatus).locations.length ≤ 3 →
          censusIndexed.routingPath (childWithMaritalStatus.clear "marital-status-answer").2 =
            censusIndexed.routingPath childWithMaritalStatus)) :=
  have agree : censusIndexed.AgreeOn
      (((censusIndexed.routingPath childWithMaritalStatus).locations.take 3).map (·.block))
      childWithMaritalStatus (childWithMaritalStatus.clear "marital-status-answer").2 := by
    intro slot b owner member
    have route : ((censusIndexed.routingPath childWithMaritalStatus).locations.take 3).map
        (·.block) = ["over-16", "in-education", "country-of-birth"] := by decide
    by_cases marital : slot = "marital-status-answer"
    · subst marital
      have skipped : (censusIndexed.blockOf? "marital-status-answer").map (·.id) =
          some "marital-status" := by decide
      rw [owner, Option.map_some, Option.some.injEq] at skipped
      rw [route, skipped] at member
      simp at member
    · simp [AnswerStore.clear, AnswerStore.get?, childWithMaritalStatus, Entries.lookup,
        Entries.erase, marital]
  ⟨agree, routingPath_locality censusIndexed _ _ 3 agree⟩

/-- Changing answers of blocks off the routing path leaves the path as it is. -/
theorem routingPath_eq_of_agreeOn {q : Questionnaire} {A B : AnswerStore}
    (agree : q.AgreeOn (q.routingPath A).blocks A B) : q.routingPath B = q.routingPath A := by
  have all : ((q.routingPath A).locations.take (q.routingPath A).locations.length).map (·.block) =
      (q.routingPath A).blocks := by
    simp [RoutingPath.blocks]
  obtain ⟨-, whole⟩ := walk_locality _ [] q.firstLocation _ (Nat.zero_le _) (all ▸ agree)
  unfold routingPath
  rw [whole le_rfl]

end Questionnaire

end Survey
