import Mathlib
import Survey.Proofs.Schema.Accepted

/-!
# When the reference pass passes

Once every block is known, `Questionnaire.ofDefinition` checks the references of each block:
its calculations, its routing rules in order, then the conditions of its variants. Each check
only succeeds or throws; this module says exactly when each succeeds.

* `checkPredicate_eq_ok` — a predicate passes when every slot it reads has a position in the
  slot index;
* `checkCalculation_succeeds_iff` — a calculation passes when it has sources, each a known
  slot whose first declaration is numeric;
* `checkRoute_eq_ok` — a routing rule passes when its condition does and it points forward;
* `checkReferences_succeeds_iff` — a block passes when all of its rules do.

A `for` loop whose body only checks succeeds when every step does
(`except_forIn_eq_ok`), and so does a `flatMapM` (`except_flatMapM_succeeds_iff`).
-/

namespace Survey

/-- A loop whose body yields or throws succeeds exactly when every step yields. -/
theorem except_forIn_eq_ok {ε α : Type} {g : α → PUnit → Except ε (ForInStep PUnit)} {l : List α}
    (yields : ∀ x, (∃ e, g x PUnit.unit = .error e) ∨ g x PUnit.unit = .ok (.yield PUnit.unit)) :
    forIn l PUnit.unit g = .ok PUnit.unit ↔ ∀ x ∈ l, g x PUnit.unit = .ok (.yield PUnit.unit) := by
  induction l with
  | nil => simp [pure, Except.pure]
  | cons a rest ih =>
    rw [List.forIn_cons]
    rcases yields a with ⟨e, failed⟩ | step
    · simp [failed, bind, Except.bind]
    · simp [step, bind, Except.bind, ih]

/-- A loop whose body is a check succeeds exactly when every check does. -/
theorem except_forIn_check_eq_ok {ε α : Type} {f : α → Except ε PUnit} {l : List α} :
    forIn l PUnit.unit (fun x _ => (f x).bind fun _ => pure (ForInStep.yield PUnit.unit)) =
      .ok PUnit.unit ↔ ∀ x ∈ l, f x = .ok PUnit.unit := by
  rw [except_forIn_eq_ok]
  · refine forall₂_congr fun x _ => ?_
    cases f x <;> simp [Except.bind, pure, Except.pure]
  · intro x
    cases f x with
    | error e => exact .inl ⟨e, rfl⟩
    | ok u => exact .inr rfl

/-- A `flatMapM` succeeds exactly when every element does. -/
theorem except_flatMapM_succeeds_iff {ε α β : Type} {f : α → Except ε (List β)} {l : List α} :
    (∃ r, l.flatMapM f = .ok r) ↔ ∀ x ∈ l, ∃ r, f x = .ok r := by
  refine ⟨fun ⟨r, ok⟩ => except_flatMapM_ok ok, fun each => ?_⟩
  induction l with
  | nil => exact ⟨[], rfl⟩
  | cons a rest ih =>
    obtain ⟨first, firstOk⟩ := each a List.mem_cons_self
    obtain ⟨others, othersOk⟩ := ih fun x member => each x (List.mem_cons_of_mem _ member)
    refine ⟨first ++ others, ?_⟩
    simp only [List.flatMapM_cons, bind]
    exact except_bind_eq_ok.mpr ⟨first, firstOk, except_bind_eq_ok.mpr ⟨others, othersOk, rfl⟩⟩

namespace Questionnaire

variable (q : Questionnaire)

/-- **A predicate passes its check** exactly when every slot it reads is known. -/
theorem checkPredicate_eq_ok {p : Predicate} {context : String} :
    q.checkPredicate p context = .ok () ↔ ∀ slot ∈ p.slots, (q.slotPositions.lookup slot).isSome := by
  unfold checkPredicate
  cases found : p.slots.find? (fun s => (q.slotPositions.lookup s).isNone) with
  | none =>
    simp only [except_pure_eq_ok, true_iff]
    intro slot member
    have present := List.find?_eq_none.mp found slot member
    cases known : q.slotPositions.lookup slot with
    | none => simp [known] at present
    | some position => rfl
  | some s =>
    simp only [except_throw_ne_ok, false_iff, not_forall]
    have unknown := List.find?_some found
    have missing : q.slotPositions.lookup s = none := Option.isNone_iff_eq_none.mp unknown
    exact ⟨s, List.mem_of_find?_eq_some found, by simp [missing]⟩

/-- **A calculation passes its check** exactly when it has sources, each a known slot whose
first declaration is numeric. -/
theorem checkCalculation_succeeds_iff {r : CalculatedRule} :
    (∃ sources, q.checkCalculation r = .ok sources) ↔
      r.sources ≠ [] ∧ ∀ slot ∈ r.sources, ∃ s, q.slot? slot = some s ∧ s.kind.isNumeric = true := by
  unfold checkCalculation
  by_cases empty : r.sources = []
  · simp only [empty, List.isEmpty_nil, ↓reduceIte, ne_eq, not_true_eq_false, false_and, iff_false]
    rintro ⟨_, failed⟩
    cases failed
  simp only [List.isEmpty_iff, empty, ↓reduceIte, ne_eq, not_false_eq_true, true_and, bind,
    except_bind_eq_ok, except_pure_eq_ok]
  have succeeds : ∀ x : Except SchemaError PUnit,
      (∃ sources a, x = .ok a ∧ r.sources = sources) ↔ x = .ok PUnit.unit :=
    fun x => ⟨fun found => by obtain ⟨_, _, ok, _⟩ := found; exact ok, fun ok => ⟨_, _, ok, rfl⟩⟩
  rw [succeeds, except_forIn_eq_ok]
  · -- Each source passes when it is known and numeric.
    refine forall₂_congr fun slot _ => ?_
    cases found : q.slot? slot with
    | none => simp
    | some s => cases numeric : s.kind.isNumeric <;> simp [numeric]
  · intro source
    cases found : q.slot? source with
    | none => exact .inl ⟨_, rfl⟩
    | some s =>
      cases numeric : s.kind.isNumeric
      · exact .inl ⟨_, by simp [numeric]; rfl⟩
      · exact .inr (by simp [numeric])

/-- **A routing rule passes its check** exactly when its condition reads known slots and it
points forward. -/
theorem checkRoute_eq_ok {b : Block} {order index : Nat} {rule : RoutingRule} :
    q.checkRoute b order rule index = .ok () ↔
      (∀ p ∈ rule.when?, ∀ slot ∈ p.slots, (q.slotPositions.lookup slot).isSome) ∧ q.RouteForward order rule.goto := by
  obtain ⟨condition, goto⟩ := rule
  constructor
  · intro ok
    refine ⟨fun p present => ?_, checkRoute_ok ok⟩
    cases present
    simp only [checkRoute, bind] at ok
    obtain ⟨_, predicateOk, -⟩ := except_bind_eq_ok.mp ok
    exact (q.checkPredicate_eq_ok).mp predicateOk
  · rintro ⟨known, forward⟩
    -- Without its condition, the rule passes because its target lies after `order`.
    have bare : q.checkRoute b order ⟨none, goto⟩ index = .ok () := by
      unfold RouteForward at forward
      cases goto with
      | summary => rfl
      | block id =>
        rcases forward with summary | ⟨l, later, found, placed, ahead⟩
        · simp [destinationNext] at summary
        · obtain ⟨l', located, same⟩ := Option.map_eq_some_iff.mp found
          cases same
          simp [checkRoute, located, placed, Nat.not_le.mpr ahead, bind, Except.bind, pure, Except.pure]
      | «section» id =>
        rcases forward with summary | ⟨l, later, found, placed, ahead⟩
        · simp [destinationNext] at summary
        · obtain ⟨l', located, same⟩ := Option.map_eq_some_iff.mp found
          cases same
          simp [checkRoute, located, placed, Nat.not_le.mpr ahead, bind, Except.bind, pure, Except.pure]
    cases condition with
    | none => exact bare
    | some p =>
      simp only [checkRoute, bind] at bare ⊢
      exact except_bind_eq_ok.mpr ⟨(), (q.checkPredicate_eq_ok).mpr (known p rfl), bare⟩

/-- **A block passes the reference pass** exactly when its calculations sum known numeric
slots, its routing rules read known slots and point forward, and its variants' conditions read
known slots. -/
theorem checkReferences_succeeds_iff {b : Block} {order : Nat} :
    (∃ sources, q.checkReferences b order = .ok sources) ↔
      (∀ r ∈ b.calculations, r.sources ≠ [] ∧
        ∀ slot ∈ r.sources, ∃ s, q.slot? slot = some s ∧ s.kind.isNumeric = true) ∧
      (∀ rule ∈ b.routing, (∀ p ∈ rule.when?, ∀ slot ∈ p.slots, (q.slotPositions.lookup slot).isSome) ∧
        q.RouteForward order rule.goto) ∧
      ∀ v ∈ b.questionVariants, ∀ slot ∈ v.when.slots, (q.slotPositions.lookup slot).isSome := by
  -- A rule's check does not depend on its index.
  have routes : (∀ x ∈ b.routing.zipIdx, q.checkRoute b order x.1 x.2 = .ok ()) ↔
      ∀ rule ∈ b.routing, (∀ p ∈ rule.when?, ∀ slot ∈ p.slots, (q.slotPositions.lookup slot).isSome) ∧
        q.RouteForward order rule.goto := by
    constructor
    · intro each rule member
      obtain ⟨index, at_⟩ := List.getElem?_of_mem member
      exact (q.checkRoute_eq_ok).mp (each (rule, index) (List.mem_zipIdx_iff_getElem?.mpr at_))
    · intro each x member
      exact (q.checkRoute_eq_ok).mpr
        (each x.1 (List.mem_of_getElem? (List.mem_zipIdx_iff_getElem?.mp member)))
  unfold checkReferences
  simp only [bind, except_bind_eq_ok, except_pure_eq_ok]
  constructor
  · rintro ⟨_, _, calculations, ⟨⟩, routed, ⟨⟩, variants, -⟩
    exact ⟨fun r member => (q.checkCalculation_succeeds_iff).mp (except_flatMapM_ok calculations r member),
      routes.mp (except_forIn_check_eq_ok.mp routed),
      fun v member => (q.checkPredicate_eq_ok).mp (except_forIn_check_eq_ok.mp variants v member)⟩
  · rintro ⟨calculations, routed, variants⟩
    obtain ⟨sources, calculated⟩ := except_flatMapM_succeeds_iff.mpr fun r member =>
      (q.checkCalculation_succeeds_iff).mpr (calculations r member)
    exact ⟨sources, sources, calculated, PUnit.unit, except_forIn_check_eq_ok.mpr (routes.mpr routed),
      PUnit.unit, except_forIn_check_eq_ok.mpr fun v member =>
        (q.checkPredicate_eq_ok).mpr (variants v member), rfl⟩

end Questionnaire

end Survey
