import Mathlib
import Survey.Proofs.Engine.Redisplay
import Survey.Proofs.Engine.Acceptance

/-!
# When a session holds a total

A session's total for a calculation is put there by two operations only: a submission of the
calculation's block that returns, accepted or rejected, which records the judged total unless
acceptance wipes the block; and a resumption of the session, which puts back the totals of the
snapshot the store holds, so a total recorded by a rejected submission is not kept across it
(`Engine.Operation.Records`). Every other operation keeps the total or drops it.

* `Engine.KeepsTotal` — from one engine to the next, a session holds no total it did not hold;
  every operation that does not record the block's totals afresh keeps them so
  (`Engine.Operation.keepsTotal`);
* `Engine.run_submitBlock_holdsTotal`, `Engine.run_resumeSession_holdsTotal` — what the two
  recording operations leave;
* **`Engine.recorded_total_redisplay`** — with `Engine.calculation_shown`: what a calculation
  shows, and which operation of the run recorded what it shows.
-/

namespace Survey

namespace Engine

/-! ### Holding a total -/

/-- The session `id` of `e` holds `t` as its total for the calculation `k`. -/
def HoldsTotal (id : SessionId) (k : RuleId) (t : CalculatedTotal) (e : Engine) : Prop :=
  ∃ s, Engine.run e (session id) = (.ok s, e) ∧ s.totals.get? k = some t

/-- From `e` to `e'`, the session `id` gains no total for `k`: what it holds in `e'` it held in
`e`. -/
def KeepsTotal (id : SessionId) (k : RuleId) (e e' : Engine) : Prop :=
  ∀ t, HoldsTotal id k t e' → HoldsTotal id k t e

namespace KeepsTotal

variable {id id' : SessionId} {k : RuleId} {e e' : Engine}

theorem of_sessions_eq (same : e'.sessions = e.sessions) : KeepsTotal id k e e' := by
  rintro t ⟨s, live, held⟩
  obtain ⟨-, key, found⟩ := run_session_ok live
  exact ⟨s, run_session_of_find? (same ▸ found), held⟩

theorem of_putsLive {s : Session} (puts : PutsLive id' s e e')
    (kept : id' = id → ∀ t, s.totals.get? k = some t → HoldsTotal id k t e) :
    KeepsTotal id k e e' := by
  rintro t ⟨s', live, held⟩
  by_cases same : id' = id
  · subst same
    rw [puts.run_session, Prod.mk.injEq, Except.ok.injEq] at live
    obtain ⟨rfl, -⟩ := live
    exact kept rfl t held
  · exact ⟨s', puts.run_session_of_ne (Ne.symm same) live, held⟩

/-- Putting a live session back with its totals keeps them. -/
theorem of_putBack {s s' : Session} (found : Engine.run e (session id') = (.ok s, e))
    (puts : PutsLive id' s' e e') (same : s'.totals = s.totals) : KeepsTotal id k e e' :=
  of_putsLive puts fun named t held => by
    subst named
    exact ⟨s, found, same ▸ held⟩

theorem of_withoutSession (dropped : e'.sessions = withoutSession e id') : KeepsTotal id k e e' := by
  rintro t ⟨s, live, held⟩
  exact ⟨s, run_session_of_withoutSession dropped live, held⟩

end KeepsTotal

/-! ### Each operation -/

/-- The operation, run on `e`, records the totals of the block `b` afresh in the session `id`: a
submission of the block that returns, accepted or rejected, or a resumption of the session. -/
def Operation.Records (e : Engine) (id : SessionId) (b : Block) : Operation → Prop
  | .submit id' block edits => id' = id ∧ block = b.id ∧
      ∃ result e', Engine.run e (submitBlock id' block edits) = (.ok result, e')
  | .resume id' => id' = id ∧ ∃ e', Engine.run e (resumeSession id') = (.ok (), e')
  | _ => False

section Operations

variable {e : Engine} {id : SessionId} {k : RuleId}

theorem keepsTotal_start : KeepsTotal id k e (Operation.start.apply e) := by
  show KeepsTotal id k e (Engine.run e startSession).2
  rcases ran : Engine.run e startSession with ⟨r, e'⟩
  cases r with
  | ok fresh =>
    obtain ⟨-, store, e1, -, put, only⟩ := run_startSession_ok ran
    -- The new session holds no total.
    refine KeepsTotal.of_putsLive
      ⟨{ e with nextSerial := e.nextSerial + 1, store }, e1, rfl, put, only.sessions_eq⟩
      fun _ t held => ?_
    simp [Session.empty, CalculatedTotals.empty, CalculatedTotals.get?, Entries.lookup] at held
  | error err => exact KeepsTotal.of_sessions_eq (run_startSession_error ran).1.1

theorem keepsTotal_resume {b : Block} (id' : SessionId)
    (fresh : ¬ (Operation.resume id').Records e id b) :
    KeepsTotal id k e ((Operation.resume id').apply e) := by
  show KeepsTotal id k e (Engine.run e (resumeSession id')).2
  rcases ran : Engine.run e (resumeSession id') with ⟨r, e'⟩
  cases r with
  | ok u =>
    obtain ⟨snapshot, -, -, -, e1, put, only⟩ := run_resumeSession_ok ran
    -- Resuming the session itself records afresh; resuming another leaves it alone.
    refine KeepsTotal.of_putsLive (PutsLive.of_logOnly (LogOnly.refl e) put only) fun same _ _ => ?_
    exact absurd ⟨same, e', ran⟩ fresh
  | error err =>
    exact KeepsTotal.of_sessions_eq ((resumeSession_failsQuietly id').unchanged ran).1

theorem keepsTotal_close (id' : SessionId) : KeepsTotal id k e ((Operation.close id').apply e) := by
  show KeepsTotal id k e (Engine.run e (closeSession id')).2
  rcases ran : Engine.run e (closeSession id') with ⟨r, e'⟩
  cases r with
  | ok u => exact KeepsTotal.of_withoutSession (run_closeSession_ok ran).1
  | error err =>
    rcases run_closeSession_error ran with ⟨-, rfl⟩ | ⟨-, -, -, dropped, -⟩
    · exact KeepsTotal.of_sessions_eq rfl
    · exact KeepsTotal.of_withoutSession dropped

theorem keepsTotal_edit (id' : SessionId) (slot : SlotId) (change : Edit) (phase : EditPhase) :
    KeepsTotal id k e ((Operation.edit id' slot change phase).apply e) := by
  show KeepsTotal id k e (Engine.run e (edit id' slot change phase)).2
  rcases ran : Engine.run e (edit id' slot change phase) with ⟨r, e'⟩
  cases r with
  | ok applied =>
    obtain ⟨s, b, question, entry, found, -, -, -, -, e1, only, put⟩ := run_edit_ok ran
    -- An edit puts the session back with its totals.
    exact KeepsTotal.of_putBack found (PutsLive.of_logOnly only put (LogOnly.refl e')) rfl
  | error err =>
    exact KeepsTotal.of_sessions_eq ((edit_failsQuietly id' slot change phase).unchanged ran).1

theorem keepsTotal_blur (id' : SessionId) (slot : SlotId) :
    KeepsTotal id k e ((Operation.blur id' slot).apply e) := by
  show KeepsTotal id k e (Engine.run e (blur id' slot)).2
  rcases ran : Engine.run e (blur id' slot) with ⟨r, e'⟩
  cases r with
  | ok applied =>
    obtain ⟨s, b, question, entry, found, -, -, -, -, e1, only, put⟩ := run_blur_ok ran
    exact KeepsTotal.of_putBack found (PutsLive.of_logOnly only put (LogOnly.refl e')) rfl
  | error err => exact KeepsTotal.of_sessions_eq ((blur_failsQuietly id' slot).unchanged ran).1

variable {q : Questionnaire} (checked : q.Checked) (unique : q.RuleIdsUnique)
  (served : e.questionnaire = q) {b : Block} (member : b ∈ q.blocks) {r : CalculatedRule}
  (declared : r ∈ b.calculations)
include checked unique served member declared

theorem keepsTotal_submit (id' : SessionId) (block : BlockId) (edits : Entries Edit)
    (fresh : ¬ (Operation.submit id' block edits).Records e id b) :
    KeepsTotal id r.id e ((Operation.submit id' block edits).apply e) := by
  show KeepsTotal id r.id e (Engine.run e (submitBlock id' block edits)).2
  rcases ran : Engine.run e (submitBlock id' block edits) with ⟨res, e'⟩
  cases res with
  | ok result =>
    obtain ⟨live, b', edited, found, defined, -, ⟨e1, e2, -, applied⟩, outcome⟩ :=
      run_submitBlock_cases ran
    obtain ⟨member', rfl⟩ := (served ▸ checked : e.questionnaire.Checked).block?_spec defined
    obtain ⟨entry, rfl, -, -⟩ := run_applyEdits_frame applied
    -- A submission of another block in the session records other calculations only.
    have kept : id' = id → ∀ t, (validatedSession e.questionnaire b'
        (Session.withEntry live entry)).totals.get? r.id = some t → HoldsTotal id r.id t e := by
      intro same t held
      subst same
      have other : r.id ∉ b'.calculations.map (·.id) := by
        intro listed
        obtain ⟨r', declared', named⟩ := List.mem_map.mp listed
        have owner := (unique.owner_eq member (served ▸ member') declared declared' named).1
        exact fresh ⟨rfl, congrArg Block.id owner, result, e', ran⟩
      rw [validatedSession, get?_recordTotals_of_not_mem _ _ _ other] at held
      exact ⟨live, found, held⟩
    rcases outcome with ⟨-, -, e3, only, put⟩ | ⟨-, -, store, e3, e4, -, only, put, only'⟩
    · exact KeepsTotal.of_putsLive (PutsLive.of_logOnly only put (LogOnly.refl e')) kept
    · -- Accepted: wiping skipped blocks only forgets totals.
      exact KeepsTotal.of_putsLive ⟨{ e3 with store }, e4, only.sessions_eq, put, only'.sessions_eq⟩
        fun same t held => kept same t (get?_acceptedSession_eq_some _ _ _ _ held)
  | error err =>
    exact KeepsTotal.of_sessions_eq ((submitBlock_failsQuietly id' block edits).unchanged ran).1

/-- **Every operation that does not record the block's totals afresh keeps its calculation's
total only as it was.** -/
theorem Operation.keepsTotal :
    ∀ op : Operation, ¬ op.Records e id b → KeepsTotal id r.id e (op.apply e)
  | .start, _ => keepsTotal_start
  | .resume id', fresh => keepsTotal_resume id' fresh
  | .close id', _ => keepsTotal_close id'
  | .edit id' slot change phase, _ => keepsTotal_edit id' slot change phase
  | .blur id' slot, _ => keepsTotal_blur id' slot
  | .submit id' block edits, fresh => keepsTotal_submit checked unique served member declared id' block edits fresh

end Operations

/-! ### What recording leaves -/

/-- Wiping blocks keeps the total of a calculation that no wiped block declares. -/
theorem get?_foldl_wipe_of_kept (config : EngineConfig) (path : RoutingPath) (blocks : List Block)
    (s : Session) {k : RuleId}
    (kept : ∀ w ∈ blocks, wipes config path w = true → k ∉ w.calculations.map (·.id)) :
    (blocks.foldl (fun s w => if wipes config path w then wipeBlock s w else s) s).totals.get? k =
      s.totals.get? k := by
  induction blocks generalizing s with
  | nil => rfl
  | cons w rest ih =>
    rw [List.foldl_cons, ih _ fun w' listed => kept w' (List.mem_cons_of_mem w listed)]
    split
    · next wiped =>
      simp [wipeBlock, get?_foldl_forget _ _ (kept w List.mem_cons_self wiped)]
    · rfl

/-- **A submission of the block that returns records its calculation's judged total**, on the
answers the route of the submitted answers shows, unless it was accepted and wiped the block,
which those answers route past. -/
theorem run_submitBlock_holdsTotal {q : Questionnaire} (checked : q.Checked)
    (unique : q.RuleIdsUnique) {e e' : Engine} (served : e.questionnaire = q) {b : Block}
    (member : b ∈ q.blocks) {r : CalculatedRule} (declared : r ∈ b.calculations) {id : SessionId}
    {edits : Entries Edit} {result : Submission}
    (ran : Engine.run e (submitBlock id b.id edits) = (.ok result, e')) :
    ∃ answers, HoldsTotal id r.id (r.evaluate (q.routeView answers)) e' ∨
      (result.errors = [] ∧ wipes e.config (q.routingPath answers) b = true) := by
  obtain ⟨live, b', edited, -, defined, -, -, outcome⟩ := run_submitBlock_cases ran
  subst served
  obtain ⟨member', named⟩ := checked.block?_spec defined
  obtain rfl := checked.block_eq_of_id member' member named
  -- Validation records the block's totals on the route of the submitted answers.
  have recorded : (validatedSession e.questionnaire b' edited).totals.get? r.id =
      some (r.evaluate (e.questionnaire.routeView edited.answers)) :=
    get?_recordTotals_of_mem _ (unique.nodup_block member) _ declared
  refine ⟨edited.answers, ?_⟩
  rcases outcome with ⟨-, -, e3, only, put⟩ | ⟨-, rfl, store, e3, e4, -, only, put, only'⟩
  · exact .inl ⟨_, (PutsLive.of_logOnly only put (LogOnly.refl e')).run_session, recorded⟩
  · by_cases wiped : wipes e.config (e.questionnaire.routingPath edited.answers) b' = true
    · exact .inr ⟨rfl, wiped⟩
    · -- The block stays, and no other block declares its calculation.
      have kept : ∀ w ∈ e.questionnaire.blocks,
          wipes e.config (e.questionnaire.routingPath edited.answers) w = true →
            r.id ∉ w.calculations.map (·.id) := by
        intro w listed wipedHere declaredHere
        obtain ⟨r', declared', same⟩ := List.mem_map.mp declaredHere
        obtain ⟨rfl, -⟩ := unique.owner_eq member listed declared declared' same
        exact wiped wipedHere
      refine .inl ⟨_, PutsLive.run_session ⟨{ e3 with store }, e4, only.sessions_eq, put,
        only'.sessions_eq⟩, ?_⟩
      unfold acceptedSession
      exact (get?_foldl_wipe_of_kept _ _ _ _ kept).trans recorded

/-- **A resumption puts back the totals of the snapshot the store holds for the session.** -/
theorem run_resumeSession_holdsTotal {e e' : Engine} {id : SessionId} {u : Unit}
    (ran : Engine.run e (resumeSession id) = (.ok u, e')) :
    ∃ snapshot, e.store.load id = .ok (some snapshot) ∧
      ∀ k t, HoldsTotal id k t e' ↔ snapshot.session.totals.get? k = some t := by
  obtain ⟨snapshot, loaded, -, -, e1, put, only⟩ := run_resumeSession_ok ran
  have live := (PutsLive.of_logOnly (LogOnly.refl e) put only).run_session
  refine ⟨snapshot, loaded, fun k t => ⟨?_, fun held => ⟨_, live, held⟩⟩⟩
  rintro ⟨s, found, held⟩
  rw [live, Prod.mk.injEq, Except.ok.injEq] at found
  exact found.1 ▸ held

/-! ### Recorded totals along every run -/

/-- When a session holds a calculation's total, along every run from a fresh engine serving `q`
with the settings `config`: the total was recorded by the last operation of the run that recorded
the totals of the calculation's block afresh in the session (a returning submission of the block,
or a resumption of the session), and the session has held it since; a returning submission of the
block leaves the calculation's judged total held, on the answers the route of the submitted
answers shows, unless it was accepted and wiped the block; and a resumption puts back exactly the
totals of the snapshot the store holds. -/
structure TotalsTrackRecords (q : Questionnaire) (config : EngineConfig) (store : SnapshotStore) :
    Prop where
  lastRecord : ∀ (ops : List Operation) (id : SessionId) (b : Block) (r : CalculatedRule)
    (t : CalculatedTotal), b ∈ q.blocks → r ∈ b.calculations →
    HoldsTotal id r.id t (applyAll (create q config store) ops) →
    ∃ pre op post, ops = pre ++ op :: post ∧
      op.Records (applyAll (create q config store) pre) id b ∧
      NoneOf (fun e op => op.Records e id b) (applyAll (create q config store) (pre ++ [op])) post ∧
      HoldsTotal id r.id t (applyAll (create q config store) (pre ++ [op]))
  submitted : ∀ (e e' : Engine), e.questionnaire = q → ∀ (id : SessionId) (b : Block)
    (r : CalculatedRule) (edits : Entries Edit) (result : Submission), b ∈ q.blocks →
    r ∈ b.calculations → Engine.run e (submitBlock id b.id edits) = (.ok result, e') →
    ∃ answers, HoldsTotal id r.id (r.evaluate (q.routeView answers)) e' ∨
      (result.errors = [] ∧ wipes e.config (q.routingPath answers) b = true)
  resumed : ∀ (e e' : Engine) (id : SessionId) (u : Unit),
    Engine.run e (resumeSession id) = (.ok u, e') →
    ∃ snapshot, e.store.load id = .ok (some snapshot) ∧
      ∀ k t, HoldsTotal id k t e' ↔ snapshot.session.totals.get? k = some t

/-- **Recorded totals on display.** On a questionnaire that loading accepts, with any settings and
a fresh store: in every live session of every engine a run of operations reaches, asking for a
calculation shows nothing exactly when the session holds no total for it, shows the held total
while every source keeps its answer (then equal in value to the current total when the numbers
fit decimal text and neither sum skipped a source), and a pending total of the current answers
once a source's answer differs (`CalculationShown`); and the held total was recorded by the last
returning submission of the calculation's block or resumption of the session
(`TotalsTrackRecords`). -/
theorem recorded_total_redisplay {d : QuestionnaireDefinition} {q : Questionnaire}
    (loaded : Questionnaire.ofDefinition d = .ok q) (config : EngineConfig) {store : SnapshotStore}
    (fresh : store.snapshots = []) :
    (∀ e, Reachable (create q config store) e → ∀ id s, Engine.run e (session id) = (.ok s, e) →
      ∀ b ∈ q.blocks, ∀ r ∈ b.calculations, CalculationShown q e id s r) ∧
    TotalsTrackRecords q config store := by
  have unique := Questionnaire.ruleIdsUnique_of_ofDefinition loaded
  have checked := checked_of_ofDefinition loaded
  refine ⟨fun e reached id s live b member r declared =>
    calculation_shown checked unique config fresh reached live member declared,
    ⟨fun ops id b r t member declared held => ?_,
      fun e e' served id b r edits result member declared ran =>
        run_submitBlock_holdsTotal checked unique served member declared ran,
      fun e e' id u ran => run_resumeSession_holdsTotal ran⟩⟩
  rcases lastStep_of_run (fun e op => op.Records e id b) (HoldsTotal id r.id t)
      (fun e served op fresh after => Operation.keepsTotal checked unique served member declared op fresh t after)
      ops (create q config store) rfl held with found | ⟨-, s, live, -⟩
  · exact found
  · -- A fresh engine has no live session.
    obtain ⟨-, key, none⟩ := run_session_ok live
    simp [create] at none

/-- On the bundled breakdown, with the default settings and an empty store, recorded totals are
shown as `recorded_total_redisplay` says. -/
theorem recorded_total_redisplay_breakdown :
    Questionnaire.ofDefinition Catalog.totalBreakdown = .ok breakdownEngine.questionnaire ∧
      SnapshotStore.empty.snapshots = [] ∧
      (∀ e, Reachable (create breakdownEngine.questionnaire EngineConfig.default SnapshotStore.empty)
          e → ∀ id s, Engine.run e (session id) = (.ok s, e) →
        ∀ b ∈ breakdownEngine.questionnaire.blocks, ∀ r ∈ b.calculations,
          CalculationShown breakdownEngine.questionnaire e id s r) ∧
      TotalsTrackRecords breakdownEngine.questionnaire EngineConfig.default SnapshotStore.empty :=
  have accepted : Questionnaire.ofDefinition Catalog.totalBreakdown =
      .ok breakdownEngine.questionnaire := by rfl
  ⟨accepted, rfl, recorded_total_redisplay accepted EngineConfig.default rfl⟩

/-! ### A total that drifts, and one that a resumption forgets -/

/-- A run whose value reads as `v` succeeded with a value that reads so. -/
theorem run_of_toOption {α β : Type} {e : Engine} {op : EngineM α} {f : α → β} {v : β}
    (read : (Engine.run e op).1.toOption.map f = some v) :
    ∃ a e', Engine.run e op = (.ok a, e') ∧ f a = v := by
  rcases ran : Engine.run e op with ⟨_ | a, e'⟩
  · simp [ran, Except.toOption] at read
  · simp only [ran, Except.toOption, Option.map_some, Option.some.injEq] at read
    exact ⟨a, e', rfl, read⟩

/-- The breakdown's calculation: the four percentages, equal to 100. -/
def breakdownTotal : CalculatedRule :=
  ⟨"total-percentage", ["percentage-1", "percentage-2", "percentage-3", "percentage-4"],
    Decimal.ofInt 100, .equal, some "Total percentage"⟩

/-- Percentages of `10 ^ 20 - 1`, `10 ^ 20 - 1` and `1`: a total of `2 · 10 ^ 20 - 1`, which
misses the target. -/
def driftPercentages : Entries Edit :=
  [("percentage-1", .set (.number ⟨99999999999999999999, 0⟩)),
   ("percentage-2", .set (.number ⟨99999999999999999999, 0⟩)),
   ("percentage-3", .set (.number ⟨1, 0⟩))]

/-- The breakdown after a session submits those percentages and is rejected. -/
def driftRecorded : Engine := (Operation.submit ⟨0⟩ "block" driftPercentages).apply breakdownStarted

/-- Then the third percentage written again as `1.000000000000000000`. -/
def driftEdited : Engine :=
  (Operation.edit ⟨0⟩ "percentage-3" (.set (.number ⟨1000000000000000000, 18⟩)) .commit).apply
    driftRecorded

/-- Or the session resumed after the rejection. -/
def driftResumed : Engine := (Operation.resume ⟨0⟩).apply driftRecorded

/-- **A recorded total can drift from the current one, and a resumption forgets it.** On the
bundled breakdown, percentages of `10 ^ 20 - 1`, `10 ^ 20 - 1` and `1` are submitted and rejected,
their total `2 · 10 ^ 20 - 1` recorded. Writing the third again as `1.000000000000000000` keeps
every source the same answer, so the recorded total is still shown, as judged; but the current
total widens to 18 places when it reaches that source, overflows, skips it, and is
`2 · 10 ^ 20 - 2`. Resuming the session after the rejection shows no total at all, though one was
recorded since the session started and its block was never wiped. -/
theorem recorded_total_drifts :
    (breakdownEngine.questionnaire.calculation? breakdownTotal.id).map (·.2) =
        some breakdownTotal ∧
      Reachable breakdownEngine driftEdited ∧
      (∃ s t e', Engine.run driftEdited (session ⟨0⟩) = (.ok s, driftEdited) ∧
        Engine.run driftEdited (calculation ⟨0⟩ breakdownTotal.id) = (.ok (some t), e') ∧
        t.outcome = .mismatch ∧
        t.total.value ≠
          (breakdownTotal.totalOf (breakdownEngine.questionnaire.routeView s.answers)).1.value) ∧
      Reachable breakdownEngine driftResumed ∧
      (∃ t, HoldsTotal ⟨0⟩ breakdownTotal.id t driftRecorded) ∧
      ∃ e', Engine.run driftResumed (calculation ⟨0⟩ breakdownTotal.id) = (.ok none, e') := by
  have declared : (breakdownEngine.questionnaire.calculation? breakdownTotal.id).map (·.2) =
      some breakdownTotal := by decide +kernel
  -- The runs are evaluated by the kernel, read through decidable projections.
  have currentRead : (Engine.run driftEdited (session ⟨0⟩)).1.toOption.map
      (fun s => (breakdownTotal.totalOf (breakdownEngine.questionnaire.routeView s.answers)).1) =
        some ⟨199999999999999999998, 0⟩ := by decide +kernel
  have shownRead : (Engine.run driftEdited (calculation ⟨0⟩ breakdownTotal.id)).1.toOption.map
      (Option.map fun t => (t.outcome, t.total)) =
        some (some (.mismatch, ⟨199999999999999999999, 0⟩)) := by decide +kernel
  have recordedRead : (Engine.run driftRecorded (session ⟨0⟩)).1.toOption.map
      (fun s => (s.totals.get? breakdownTotal.id).isSome) = some true := by decide +kernel
  have resumedRead : (Engine.run driftResumed (calculation ⟨0⟩ breakdownTotal.id)).1.toOption.map
      Option.isSome = some false := by decide +kernel
  obtain ⟨s, e1, live, current⟩ := run_of_toOption currentRead
  obtain ⟨rfl, -⟩ := run_session_ok live
  obtain ⟨shown, e', asked, read⟩ := run_of_toOption shownRead
  obtain ⟨t, rfl, same⟩ := Option.map_eq_some_iff.mp read
  obtain ⟨outcome, total⟩ := Prod.mk.inj same
  obtain ⟨s', e2, recorded, held⟩ := run_of_toOption recordedRead
  obtain ⟨rfl, -⟩ := run_session_ok recorded
  obtain ⟨t', held'⟩ := Option.isSome_iff_exists.mp held
  obtain ⟨answer, e3, forgot, unshown⟩ := run_of_toOption resumedRead
  refine ⟨declared, .step _ (.step _ (.step _ .refl)), ⟨s, t, e', live, asked, outcome, ?_⟩,
    .step _ (.step _ (.step _ .refl)), ⟨t', s', recorded, held'⟩, e3, ?_⟩
  · rw [total, current]
    norm_num [Decimal.value]
  · rw [Option.not_isSome_iff_eq_none.mp (by simp [unshown] : ¬ answer.isSome)] at forgot
    exact forgot

end Engine

end Survey
