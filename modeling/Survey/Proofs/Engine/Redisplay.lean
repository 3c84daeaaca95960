import Mathlib
import Survey.Proofs.Engine.Marks
import Survey.Proofs.Schema.Validity
import Survey.Proofs.Rule.Totals

/-!
# Recorded totals on display

Submitting a block judges each of its calculations on the answers its route then shows and
records the judged total, sources and all, whether the submission is accepted or not. Asking
for a calculation later shows the recorded total while every source still holds the same answer
(numbers compared by value), and a fresh total marked pending once one of them has changed.

* `Engine.run_calculation` — asking for a calculation gives the session's recorded total, kept
  or replaced by a pending one (`CalculatedTotals.current`), and only reports events;
* `Session.TotalsJudged` — every total a session holds is the judged total of the calculation its
  id names, on the answers of some route; `Engine.Reachable.wellRecorded` keeps it along every
  run, live and stored, on a questionnaire whose calculations have their own ids
  (`Questionnaire.RuleIdsUnique`, which loading guarantees);
* `CalculatedRule.recorded_value_eq` — a recorded total whose sources hold the same answers is
  the current total in value, when the numbers fit decimal text and neither sum skipped a source.
  Both conditions are needed: comparing numbers beyond decimal text falls back to doubles, and a
  later answer of `1.000000000000000000` for a source of `1` widens the sum beyond the word, so
  the source is skipped where it was added before;
* **`Engine.calculation_shown`** — these together, for every live session of every engine a run
  of operations reaches from a fresh one (`Engine.CalculationShown`).
-/

namespace Survey

/-! ### Calculations named by their ids -/

namespace Questionnaire

/-- The answers a route shows: those of the blocks on the routing path of the answers. -/
def routeView (q : Questionnaire) (answers : AnswerStore) : Lookup :=
  q.onPath answers (q.routingPath answers)

/-- No two calculations of the questionnaire share an id. -/
def RuleIdsUnique (q : Questionnaire) : Prop :=
  ((q.blocks.flatMap (·.calculations)).map (·.id)).Nodup

/-- **Loading gives every calculation its own id.** -/
theorem ruleIdsUnique_of_ofDefinition {d : QuestionnaireDefinition} {q : Questionnaire}
    (ok : Questionnaire.ofDefinition d = .ok q) : q.RuleIdsUnique := by
  have distinct := (QuestionnaireDefinition.valid_of_ofDefinition ok).rule_ids_nodup
  obtain ⟨-, -, sources, -, rfl⟩ := ofDefinition_ok ok
  -- Marking the sources leaves every block's calculations as they were.
  rw [RuleIdsUnique, QuestionnaireDefinition.checked_blocks, List.flatMap_map]
  exact distinct

/-- In blocks whose calculations have their own ids, the first block with a calculation of a
given id is the block declaring it. -/
theorem findSome?_calculation {blocks : List Block}
    (distinct : ((blocks.flatMap (·.calculations)).map (·.id)).Nodup) {b : Block}
    (member : b ∈ blocks) {r : CalculatedRule} (declared : r ∈ b.calculations) :
    blocks.findSome? (fun b => (b.calculations.find? (·.id == r.id)).map fun r => (b, r)) =
      some (b, r) := by
  induction blocks with
  | nil => cases member
  | cons first rest ih =>
    rw [List.flatMap_cons, List.map_append, List.nodup_append] at distinct
    obtain ⟨own, others, apart⟩ := distinct
    rw [List.findSome?_cons]
    cases found : first.calculations.find? (·.id == r.id) with
    | some r' =>
      have same : r'.id = r.id := by simpa using List.find?_some found
      have listed := List.mem_of_find?_eq_some found
      rcases List.mem_cons.mp member with rfl | later
      · rw [List.inj_on_of_nodup_map own listed declared same]
        rfl
      · -- The id would be declared both by `first` and by a later block.
        have inRest : r.id ∈ (rest.flatMap (·.calculations)).map (·.id) :=
          List.mem_map.mpr ⟨r, List.mem_flatMap.mpr ⟨b, later, declared⟩, rfl⟩
        exact absurd same (apart _ (List.mem_map_of_mem listed) _ inRest)
    | none =>
      rcases List.mem_cons.mp member with rfl | later
      · have hit := List.find?_eq_none.mp found r declared
        simp at hit
      · simpa using ih others later

variable {q : Questionnaire} (unique : q.RuleIdsUnique)
include unique

/-- **A calculation is the one its id names**, with its block, on a checked questionnaire. -/
theorem RuleIdsUnique.calculation?_eq (checked : q.Checked) {b : Block} (member : b ∈ q.blocks)
    {r : CalculatedRule} (declared : r ∈ b.calculations) : q.calculation? r.id = some (b, r) := by
  rw [checked.calculation?_eq_findSome?]
  exact findSome?_calculation unique member declared

/-- The calculations of one block have their own ids. -/
theorem RuleIdsUnique.nodup_block {b : Block} (member : b ∈ q.blocks) :
    (b.calculations.map (·.id)).Nodup := by
  have distinct := unique
  rw [RuleIdsUnique, List.map_flatMap] at distinct
  exact (List.nodup_flatMap.mp distinct).1 b member

/-- Two calculations of the questionnaire with one id are one, in one block. -/
theorem RuleIdsUnique.owner_eq {b b' : Block} (member : b ∈ q.blocks) (member' : b' ∈ q.blocks)
    {r r' : CalculatedRule} (declared : r ∈ b.calculations) (declared' : r' ∈ b'.calculations)
    (same : r'.id = r.id) : b' = b ∧ r' = r := by
  have named := findSome?_calculation unique member' declared'
  rw [same, findSome?_calculation unique member declared, Option.some.injEq, Prod.mk.injEq] at named
  exact ⟨named.1.symm, named.2.symm⟩

end Questionnaire

/-! ### Recording and forgetting totals -/

namespace Engine

/-- **Recording the totals of calculations with their own ids records each one's judged total.** -/
theorem get?_recordTotals_of_mem (view : Lookup) {rules : List CalculatedRule}
    (distinct : (rules.map (·.id)).Nodup) (totals : CalculatedTotals) {r : CalculatedRule}
    (member : r ∈ rules) : (recordTotals view rules totals).get? r.id = some (r.evaluate view) := by
  induction rules generalizing totals with
  | nil => cases member
  | cons first rest ih =>
    rw [List.map_cons, List.nodup_cons] at distinct
    have step : recordTotals view (first :: rest) totals =
        recordTotals view rest (totals.record first.id (first.evaluate view)) := rfl
    rw [step]
    rcases List.mem_cons.mp member with rfl | later
    · rw [get?_recordTotals_of_not_mem _ _ _ distinct.1]
      simp [CalculatedTotals.record, CalculatedTotals.get?]
    · exact ih distinct.2 _ later

/-- Forgetting totals holds no total that was not held before. -/
theorem get?_foldl_forget_eq_some (rules : List CalculatedRule) (totals : CalculatedTotals)
    {k : RuleId} {t : CalculatedTotal}
    (held : (rules.foldl (fun t r => (t.forget r.id).2) totals).get? k = some t) :
    totals.get? k = some t := by
  induction rules generalizing totals with
  | nil => exact held
  | cons r rest ih =>
    have forgotten := ih _ held
    by_cases same : k = r.id
    · simp [CalculatedTotals.forget, CalculatedTotals.get?, same] at forgotten
    · rwa [CalculatedTotals.get?_forget_of_ne _ same] at forgotten

/-- Wiping blocks holds no total that was not held before. -/
theorem get?_foldl_wipe_eq_some (config : EngineConfig) (path : RoutingPath) (blocks : List Block)
    (s : Session) {k : RuleId} {t : CalculatedTotal}
    (held : (blocks.foldl (fun s w => if wipes config path w then wipeBlock s w else s) s).totals.get?
      k = some t) : s.totals.get? k = some t := by
  induction blocks generalizing s with
  | nil => exact held
  | cons w rest ih =>
    have later := ih _ held
    dsimp only at later
    split at later
    · exact get?_foldl_forget_eq_some _ _ (by simpa [wipeBlock] using later)
    · exact later

/-- An accepted submission holds no total that the validated session did not. -/
theorem get?_acceptedSession_eq_some (q : Questionnaire) (config : EngineConfig) (block : BlockId)
    (validated : Session) {k : RuleId} {t : CalculatedTotal}
    (held : (acceptedSession q config block validated).totals.get? k = some t) :
    validated.totals.get? k = some t :=
  get?_foldl_wipe_eq_some config _ q.blocks
    { validated with progress := (validated.progress.markSubmitted block).2 } held

end Engine

/-! ### Every held total was judged -/

namespace Session

/-- Every total the session holds is the judged total of the calculation its id names, on the
answers of some route. -/
def TotalsJudged (q : Questionnaire) (s : Session) : Prop :=
  ∀ k t, s.totals.get? k = some t →
    ∃ b r, q.calculation? k = some (b, r) ∧ ∃ answers, t = r.evaluate (q.routeView answers)

variable {q : Questionnaire} {s s' : Session}

theorem totalsJudged_empty : Session.empty.TotalsJudged q := fun k t held => by
  simp [Session.empty, CalculatedTotals.empty, CalculatedTotals.get?, Entries.lookup] at held

/-- A session holding only totals another held keeps them judged. -/
theorem TotalsJudged.of_held (judged : s.TotalsJudged q)
    (held : ∀ k t, s'.totals.get? k = some t → s.totals.get? k = some t) : s'.TotalsJudged q :=
  fun k t found => judged k t (held k t found)

/-- **Recording a block's totals on the view of a route keeps them judged.** -/
theorem TotalsJudged.recordTotals (judged : s.TotalsJudged q) (checked : q.Checked)
    (unique : q.RuleIdsUnique) {b : Block} (member : b ∈ q.blocks) (answers : AnswerStore) :
    { s with totals := Engine.recordTotals (q.routeView answers) b.calculations s.totals }.TotalsJudged
      q := by
  intro k t found
  by_cases listed : k ∈ b.calculations.map (·.id)
  · -- The block's calculation of that id was just judged.
    obtain ⟨r, declared, rfl⟩ := List.mem_map.mp listed
    rw [Engine.get?_recordTotals_of_mem _ (unique.nodup_block member) _ declared,
      Option.some.injEq] at found
    exact ⟨b, r, unique.calculation?_eq checked member declared, answers, found.symm⟩
  · rw [Engine.get?_recordTotals_of_not_mem _ _ _ listed] at found
    exact judged k t found

/-- A sorted session whose held totals were all judged. -/
def WellRecorded (q : Questionnaire) (s : Session) : Prop := s.Sorted ∧ s.TotalsJudged q

end Session

/-! ### Along every run -/

namespace Engine

namespace Holds

variable {q : Questionnaire} (checked : q.Checked) (unique : q.RuleIdsUnique) {e : Engine}
  (holds : Holds (Session.WellRecorded q) e) (served : e.questionnaire = q)
include holds

theorem edit_wellRecorded (id : SessionId) (slot : SlotId) (change : Edit) (phase : EditPhase) :
    Holds (Session.WellRecorded q) ((Operation.edit id slot change phase).apply e) := by
  show Holds _ (Engine.run e (Engine.edit id slot change phase)).2
  rcases ran : Engine.run e (Engine.edit id slot change phase) with ⟨r, e'⟩
  cases r with
  | ok applied =>
    obtain ⟨s, b, question, entry, found, -, -, -, edited, e1, only, put⟩ := run_edit_ok ran
    obtain ⟨key, live⟩ := live_mem found
    obtain ⟨sorted, judged⟩ := holds.live _ live
    -- An edit puts back the session's totals as they were.
    exact (holds.of_logOnly only).putSession
      ⟨sorted.editedSession (Question.applyEdit_sorted edited sorted.answers) _ _,
        judged.of_held fun _ _ held => held⟩ put
  | error err => exact holds.of_error (edit_failsQuietly id slot change phase) ran

theorem blur_wellRecorded (id : SessionId) (slot : SlotId) :
    Holds (Session.WellRecorded q) ((Operation.blur id slot).apply e) := by
  show Holds _ (Engine.run e (Engine.blur id slot)).2
  rcases ran : Engine.run e (Engine.blur id slot) with ⟨r, e'⟩
  cases r with
  | ok applied =>
    obtain ⟨s, b, question, entry, found, -, -, -, committed, e1, only, put⟩ := run_blur_ok ran
    obtain ⟨key, live⟩ := live_mem found
    obtain ⟨sorted, judged⟩ := holds.live _ live
    exact (holds.of_logOnly only).putSession
      ⟨sorted.editedSession (Question.commitDraft_sorted committed sorted.answers) _ _,
        judged.of_held fun _ _ held => held⟩ put
  | error err => exact holds.of_error (blur_failsQuietly id slot) ran

include checked unique served in
theorem submit_wellRecorded (id : SessionId) (block : BlockId) (edits : Entries Edit) :
    Holds (Session.WellRecorded q) ((Operation.submit id block edits).apply e) := by
  show Holds _ (Engine.run e (submitBlock id block edits)).2
  rcases ran : Engine.run e (submitBlock id block edits) with ⟨r, e'⟩
  cases r with
  | ok result =>
    obtain ⟨live, b, edited, found, defined, -, ⟨e1, e2, -, applied⟩, outcome⟩ :=
      run_submitBlock_cases ran
    obtain ⟨key, member⟩ := live_mem found
    obtain ⟨sorted, judged⟩ := holds.live _ member
    have blockMember := (Questionnaire.mem_of_block? defined)
    subst served
    -- The edits leave the totals; validation records the block's, judged on the new route.
    obtain ⟨entry, rfl, -, -⟩ := run_applyEdits_frame applied
    have validated : (validatedSession e.questionnaire b (Session.withEntry live entry)).WellRecorded
        e.questionnaire :=
      ⟨(run_applyEdits_sorted applied sorted).recordTotals _ _,
        (judged.of_held fun _ _ held => held).recordTotals checked unique blockMember _⟩
    rcases outcome with ⟨-, -, e3, only, put⟩ | ⟨-, -, store, e3, e4, committed, only, put, only'⟩
    · exact (holds.of_logOnly only).putSession
        ⟨validated.1.forget block, validated.2.of_held fun _ _ held => held⟩ put
    · -- Accepted: wiping skipped blocks only forgets totals.
      have final : (acceptedSession e.questionnaire e.config block
          (validatedSession e.questionnaire b (Session.withEntry live entry))).WellRecorded
            e.questionnaire :=
        ⟨(validated.1.markSubmitted block).wipeAll e.config _ e.questionnaire.blocks,
          validated.2.of_held fun _ _ held => get?_acceptedSession_eq_some _ _ _ _ held⟩
      have stored : Holds (Session.WellRecorded e.questionnaire) { e3 with store } :=
        (holds.commit final committed).of_unchanged ⟨only.sessions_eq, rfl⟩
      exact (stored.putSession final put).of_logOnly only'
  | error err => exact holds.of_error (submitBlock_failsQuietly id block edits) ran

end Holds

/-- Every operation keeps the sessions, live and stored, sorted with their totals judged. -/
theorem Operation.apply_wellRecorded {q : Questionnaire} (checked : q.Checked)
    (unique : q.RuleIdsUnique) {e : Engine}
    (holds : Holds (Session.WellRecorded q) e) (served : e.questionnaire = q) :
    ∀ op : Operation, Holds (Session.WellRecorded q) (op.apply e)
  | .start => holds.start ⟨Session.sorted_empty, Session.totalsJudged_empty⟩
  | .resume id => holds.resume
      (fun _ kept => ⟨kept.1.dropDrafts, kept.2.of_held fun _ _ held => held⟩)
      (fun _ kept => kept.1) id
  | .close id => holds.close id
  | .edit id slot change phase => holds.edit_wellRecorded id slot change phase
  | .blur id slot => holds.blur_wellRecorded id slot
  | .submit id block edits => holds.submit_wellRecorded checked unique served id block edits

/-- **Every held total was judged**, along every run from an engine serving a questionnaire whose
calculations have their own ids, live and stored. -/
theorem Reachable.wellRecorded {q : Questionnaire} (checked : q.Checked) (unique : q.RuleIdsUnique)
    {start e : Engine} (reached : Reachable start e) (served : start.questionnaire = q)
    (initial : Holds (Session.WellRecorded q) start) : Holds (Session.WellRecorded q) e :=
  reached.of_keeps served initial (Operation.apply_wellRecorded checked unique)

end Engine

/-! ### Asking for a calculation -/

namespace CalculatedTotals

theorem current_eq_none_iff (t : CalculatedTotals) (r : CalculatedRule) (view : Lookup) :
    t.current r view = none ↔ t.get? r.id = none := by
  simp [current]

theorem current_of_get? {t : CalculatedTotals} {r : CalculatedRule} {view : Lookup}
    {recorded : CalculatedTotal} (held : t.get? r.id = some recorded) :
    t.current r view = some (if r.isCurrent recorded view then recorded else r.pending view) := by
  simp [current, held]

end CalculatedTotals

/-- A judged total is current exactly when every source holds the same answer as when it was
judged. -/
theorem CalculatedRule.isCurrent_evaluate_iff (r : CalculatedRule) (past view : Lookup) :
    r.isCurrent (r.evaluate past) view = true ↔
      ∀ slot ∈ r.sources, sameAnswer (view slot) (past slot) = true := by
  simp [isCurrent, evaluate, sourceValues]

namespace Engine

/-- **Asking for a calculation** of a live session gives the session's recorded total of the
calculation its id names, shown as recorded while its sources hold the same answers and as a
fresh pending total otherwise, both on the answers the session's route shows; none when nothing
is recorded. It only reports events. -/
theorem run_calculation {e : Engine} {id : SessionId} {s : Session}
    (found : Engine.run e (session id) = (.ok s, e)) {k : RuleId} {b : Block} {r : CalculatedRule}
    (declared : e.questionnaire.calculation? k = some (b, r)) :
    ∃ e', Engine.run e (calculation id k) =
      (.ok (s.totals.current r (e.questionnaire.routeView s.answers)), e') ∧ LogOnly e e' := by
  unfold calculation
  rw [run_bind, found]
  dsimp only
  rw [run_bind, run_served]
  dsimp only
  rw [declared, run_bind, run_pure]
  dsimp only
  obtain ⟨e1, routed, only⟩ := run_pathFor e s.answers
  rw [run_bind, routed]
  dsimp only
  unfold CalculatedTotals.current
  cases held : s.totals.get? r.id with
  | none => exact ⟨e1, rfl, only⟩
  | some recorded =>
    dsimp only
    split
    · next current => exact ⟨e1, by simp [Questionnaire.routeView, current], only⟩
    · next stale =>
      obtain ⟨e2, reported, only'⟩ := run_totalReported e1 r
        (e.questionnaire.onPath s.answers (e.questionnaire.routingPath s.answers)) false
      refine ⟨e2, ?_, only.trans only'⟩
      rw [run_map, reported]
      simp [Questionnaire.routeView, stale]

end Engine

/-! ### Same answers, same total -/

namespace Decimal

/-- A negative decimal is one of negative value. -/
theorem units_neg_iff_value_neg (d : Decimal) : d.units < 0 ↔ d.value < 0 := by
  constructor
  · intro negative
    exact div_neg_of_neg_of_pos (by exact_mod_cast negative) (by positivity)
  · intro negative
    by_contra nonneg
    exact absurd (value_nonneg (not_lt.mp nonneg)) (not_le.mpr negative)

/-- Widening a decimal that fits decimal text to at most `maxPlaces` places stays in the word:
below `10 ^ 20` units, widened by at most `10 ^ 18`. -/
theorem rescaled_of_fits {d : Decimal} (fits : d.Fits) {s : Nat} (le : d.scale ≤ s)
    (small : s ≤ maxPlaces) : d.rescaled s = some (d.units * 10 ^ (s - d.scale)) := by
  have places : s - d.scale ≤ 18 := by
    unfold maxPlaces at small
    omega
  have units : |d.units| < 10 ^ 20 := by
    have digits : (d.units.natAbs : Int) < 10 ^ 20 := by exact_mod_cast fits.2
    rwa [Int.natCast_natAbs] at digits
  have widening : (10 : Int) ^ (s - d.scale) ≤ 10 ^ 18 := pow_le_pow_right₀ (by norm_num) places
  have bound : |d.units * 10 ^ (s - d.scale)| < 10 ^ 38 := by
    rw [abs_mul, abs_pow, abs_of_pos (by norm_num : (0 : Int) < 10)]
    calc |d.units| * 10 ^ (s - d.scale) ≤ |d.units| * 10 ^ 18 :=
          mul_le_mul_of_nonneg_left widening (abs_nonneg _)
      _ < 10 ^ 20 * 10 ^ 18 := mul_lt_mul_of_pos_right units (by positivity)
      _ = 10 ^ 38 := by norm_num
  obtain ⟨lower, upper⟩ := abs_lt.mp bound
  have lowest : wordMin ≤ -10 ^ 38 := by decide
  have highest : (10 : Int) ^ 38 ≤ wordMax := by decide
  refine rescaled_eq_some_iff.mpr ⟨le, by omega, rfl, ?_⟩
  simp only [fitsWord, Bool.and_eq_true, decide_eq_true_eq]
  constructor <;> linarith

/-- **Decimals that fit decimal text compare equal exactly when they have one value**: both
widen to the larger scale, so `compare` never falls back to doubles. -/
theorem sameValue_iff_of_fits {a b : Decimal} (fitsA : a.Fits) (fitsB : b.Fits) :
    a.sameValue b = true ↔ a.value = b.value := by
  have small : max a.scale b.scale ≤ maxPlaces := max_le fitsA.1 fitsB.1
  have wideA := rescaled_of_fits fitsA (le_max_left _ _) small
  have wideB := rescaled_of_fits fitsB (le_max_right _ _) small
  have castA := rescaled_value wideA
  have castB := rescaled_value wideB
  have pos : (0 : ℚ) < 10 ^ max a.scale b.scale := by positivity
  have cast : ∀ x y : Int, (x : ℚ) = y ↔ x = y := fun _ _ => Int.cast_inj
  unfold sameValue compare
  simp only [wideA, wideB, beq_iff_eq, compare_eq_iff_eq]
  rw [← cast, castA, castB, mul_left_inj' pos.ne']

end Decimal

/-- Two numbers of one value contribute one value. -/
theorem contribution_number_value {n m : Decimal} (same : n.value = m.value) :
    (contribution (some (.number n))).value = (contribution (some (.number m))).value := by
  have sign : n.isNegative = m.isNegative := by
    simp [Decimal.isNegative, Decimal.units_neg_iff_value_neg, same]
  simp only [contribution, sign]
  split <;> simp [same]

/-- **Two answers that are the same answer contribute one value**, when their numbers fit
decimal text. -/
theorem contribution_value_eq {a b : Option AnswerValue} (same : sameAnswer a b = true)
    (fitsA : ∀ v, a = some v → v.Fits) (fitsB : ∀ v, b = some v → v.Fits) :
    (contribution a).value = (contribution b).value := by
  rcases a with _ | x <;> rcases b with _ | y
  · rfl
  · simp [sameAnswer] at same
  · simp [sameAnswer] at same
  · cases x <;> cases y <;> simp [sameAnswer, AnswerValue.sameValue] at same
    · rw [same]
    · exact contribution_number_value
        ((Decimal.sameValue_iff_of_fits (fitsA _ rfl) (fitsB _ rfl)).mp same)
    -- Dates and options contribute nothing.
    · rfl
    · rfl
    · rfl


/-- Sources that contribute the same values sum to the same value. -/
theorem contributionSum_congr {past view : Lookup} {slots : List SlotId}
    (same : ∀ slot ∈ slots, (contribution (view slot)).value = (contribution (past slot)).value) :
    contributionSum view slots = contributionSum past slots :=
  congrArg List.sum (List.map_congr_left same)

namespace CalculatedRule

/-- A total that skipped no source is the exact sum. -/
theorem totalOf_value_of_skipped_nil {r : CalculatedRule} {answers : Lookup}
    (skipped : (r.totalOf answers).2 = []) : (r.totalOf answers).1.value = r.exactSum answers := by
  have exact := sumContributions_value answers Decimal.zero r.sources
  unfold totalOf at skipped
  rw [skipped, Decimal.zero_value, zero_add] at exact
  simpa [totalOf, exactSum, contributionSum] using exact

/-- **A recorded total whose sources hold the same answers is the current total in value**, when
every source number, then and now, fits decimal text and neither sum skipped a source. -/
theorem recorded_value_eq (r : CalculatedRule) {past view : Lookup}
    (same : ∀ slot ∈ r.sources, sameAnswer (view slot) (past slot) = true)
    (fitsNow : ∀ slot ∈ r.sources, ∀ v, view slot = some v → v.Fits)
    (fitsThen : ∀ slot ∈ r.sources, ∀ v, past slot = some v → v.Fits)
    (addedThen : (r.totalOf past).2 = []) (addedNow : (r.totalOf view).2 = []) :
    (r.evaluate past).total.value = (r.totalOf view).1.value := by
  show (r.totalOf past).1.value = _
  rw [totalOf_value_of_skipped_nil addedThen, totalOf_value_of_skipped_nil addedNow]
  exact (contributionSum_congr fun slot listed =>
    contribution_value_eq (same slot listed) (fitsNow slot listed) (fitsThen slot listed)).symm

end CalculatedRule


/-! ### Recorded totals on display -/

namespace Engine

/-- What asking the session `id` of `e`, live as `s`, for the calculation `r` of `q` shows. The
request succeeds and only reports events. It shows nothing exactly when the session holds no total
for `r`. A held total is `r`'s judged total on the answers some route showed
(`CalculatedRule.evaluate`: the sum, matched or mismatched against the target, and the sources
with their answers then). While every source holds the same answer on the session's route
(numbers compared by value) the held total is shown, and it is the current total in value when
every source number, then and now, fits decimal text and neither sum skipped a source; once a
source's answer differs, a pending total of the current answers is shown. -/
def CalculationShown (q : Questionnaire) (e : Engine) (id : SessionId) (s : Session)
    (r : CalculatedRule) : Prop :=
  ∃ shown e', Engine.run e (calculation id r.id) = (.ok shown, e') ∧ LogOnly e e' ∧
    (shown = none ↔ s.totals.get? r.id = none) ∧
    ∀ recorded, s.totals.get? r.id = some recorded → ∃ answers,
      recorded = r.evaluate (q.routeView answers) ∧
      ((∀ slot ∈ r.sources,
          sameAnswer (q.routeView s.answers slot) (q.routeView answers slot) = true) →
        shown = some recorded ∧
        ((∀ slot ∈ r.sources, ∀ v, q.routeView s.answers slot = some v → v.Fits) →
          (∀ slot ∈ r.sources, ∀ v, q.routeView answers slot = some v → v.Fits) →
          (r.totalOf (q.routeView answers)).2 = [] → (r.totalOf (q.routeView s.answers)).2 = [] →
          recorded.total.value = (r.totalOf (q.routeView s.answers)).1.value)) ∧
      ((∃ slot ∈ r.sources,
          sameAnswer (q.routeView s.answers slot) (q.routeView answers slot) = false) →
        shown = some (r.pending (q.routeView s.answers)))

/-- **Recorded totals are shown while their sources keep their answers**, in every live session
of every engine a run of operations reaches from a fresh one serving a questionnaire whose
calculations have their own ids. -/
theorem calculation_shown {q : Questionnaire} (checked : q.Checked) (unique : q.RuleIdsUnique)
    (config : EngineConfig)
    {store : SnapshotStore} (fresh : store.snapshots = []) {e : Engine}
    (reached : Reachable (create q config store) e) {id : SessionId} {s : Session}
    (live : Engine.run e (session id) = (.ok s, e)) {b : Block} (member : b ∈ q.blocks)
    {r : CalculatedRule} (declared : r ∈ b.calculations) : CalculationShown q e id s r := by
  have served : e.questionnaire = q := reached.serves.1
  have named := unique.calculation?_eq checked member declared
  obtain ⟨e', ran, only⟩ := run_calculation live (served ▸ named)
  rw [served] at ran
  -- The session is live, so its held totals were judged.
  obtain ⟨-, key, found⟩ := run_session_ok live
  have judged := ((reached.wellRecorded checked unique rfl (holds_create fresh)).live _
    (List.mem_of_find?_eq_some found)).2
  refine ⟨_, e', ran, only, CalculatedTotals.current_eq_none_iff _ _ _,
    fun recorded held => ?_⟩
  obtain ⟨b', r', named', answers, rfl⟩ := judged _ _ held
  rw [named, Option.some.injEq, Prod.mk.injEq] at named'
  obtain ⟨rfl, rfl⟩ := named'
  refine ⟨answers, rfl, fun same => ⟨?_, r.recorded_value_eq same⟩, fun differs => ?_⟩
  · rw [CalculatedTotals.current_of_get? held,
      if_pos ((r.isCurrent_evaluate_iff _ _).mpr same)]
  · -- One source differs, so the held total is not current.
    obtain ⟨slot, listed, changed⟩ := differs
    have stale : r.isCurrent (r.evaluate (q.routeView answers)) (q.routeView s.answers) = false := by
      rw [Bool.eq_false_iff, ne_eq, r.isCurrent_evaluate_iff]
      exact fun same => absurd (same slot listed) (by simp [changed])
    rw [CalculatedTotals.current_of_get? held, if_neg (by simp [stale])]

end Engine

end Survey
