import Mathlib
import Survey.Proofs.Engine.Steps

/-!
# Operations that fail without a trace

An operation is *quiet* when, whatever its outcome, it changes nothing of the engine but the
log (`Engine.Quiet`); it *fails quietly* when a failure changes nothing but the log
(`Engine.FailsQuietly`). Quiet operations are closed under sequencing, conditionals and loops,
and a quiet prefix followed by a tail that fails quietly fails quietly, as does one that fails
quietly followed by steps that cannot fail (`Engine.Succeeds`).

Every step an edit, a blur or a submission takes before it changes the session is quiet, and
its last steps cannot fail, save the commit of a submission, which fails quietly. So:

* `Engine.edit_failsQuietly`, `Engine.blur_failsQuietly`, `Engine.submitBlock_failsQuietly`,
  `Engine.resumeSession_failsQuietly` — **a failed edit, blur, submission or resumption
  changes nothing but the log**.
-/

namespace Survey

namespace Engine

/-- Whatever its outcome, the operation changes nothing but the log. -/
def Quiet (op : EngineM α) : Prop := ∀ e, LogOnly e (Engine.run e op).2

/-- When the operation fails, it has changed nothing but the log. -/
def FailsQuietly (op : EngineM α) : Prop :=
  ∀ e err e', Engine.run e op = (.error err, e') → LogOnly e e'

/-- The operation never fails. -/
def Succeeds (op : EngineM α) : Prop := ∀ e, ∃ a e', Engine.run e op = (.ok a, e')

/-! ### Rules -/

namespace Quiet

theorem pure (a : α) : Quiet (pure a : EngineM α) := fun e => LogOnly.refl e

/-- A failure, whatever was to follow it. -/
theorem throw_bind (err : EngineError) (f : α → EngineM β) : Quiet (throw err >>= f) := by
  intro e
  rw [run_bind, run_throw]
  exact LogOnly.refl e

theorem throw (err : EngineError) : Quiet (throw err : EngineM α) := fun e => LogOnly.refl e

theorem emit (event : LogEvent) : Quiet (emit event) := fun e => LogOnly.of_emit e event

theorem get : Quiet (get : EngineM Engine) := fun e => LogOnly.refl e

theorem served : Quiet served := fun e => LogOnly.refl e


theorem bind {x : EngineM α} {f : α → EngineM β} (first : Quiet x) (rest : ∀ a, Quiet (f a)) :
    Quiet (x >>= f) := by
  intro e
  rw [run_bind]
  rcases ran : Engine.run e x with ⟨r, e1⟩
  have only : LogOnly e e1 := by simpa [ran] using first e
  cases r with
  | ok a => exact only.trans (rest a e1)
  | error err => exact only

theorem forIn {X σ : Type} (xs : List X) (init : σ) {body : X → σ → EngineM (ForInStep σ)}
    (step : ∀ x acc, Quiet (body x acc)) : Quiet (forIn xs init body) := by
  induction xs generalizing init with
  | nil => exact pure init
  | cons x rest ih =>
    rw [List.forIn_cons]
    refine bind (step x init) fun r => ?_
    cases r with
    | done acc => exact pure acc
    | yield acc => exact ih acc

theorem foldlM {X σ : Type} (xs : List X) (init : σ) {f : σ → X → EngineM σ}
    (step : ∀ acc x, Quiet (f acc x)) : Quiet (xs.foldlM f init) := by
  induction xs generalizing init with
  | nil => exact pure init
  | cons x rest ih =>
    rw [List.foldlM_cons]
    exact bind (step init x) ih

theorem mapM {X Y : Type} (xs : List X) {f : X → EngineM Y} (step : ∀ x, Quiet (f x)) :
    Quiet (xs.mapM f) := by
  induction xs with
  | nil => exact pure []
  | cons x rest ih =>
    rw [List.mapM_cons]
    exact bind (step x) fun y => bind ih fun ys => pure _

end Quiet

namespace Succeeds

theorem pure (a : α) : Succeeds (pure a : EngineM α) := fun e => ⟨a, e, rfl⟩

theorem emit (event : LogEvent) : Succeeds (emit event) := fun _ => ⟨(), _, rfl⟩

theorem putSession (id : SessionId) (s : Session) : Succeeds (putSession id s) := fun e =>
  let ⟨_, put, _⟩ := run_putSession e id s
  ⟨(), _, put⟩

theorem bind {x : EngineM α} {f : α → EngineM β} (first : Succeeds x) (rest : ∀ a, Succeeds (f a)) :
    Succeeds (x >>= f) := by
  intro e
  obtain ⟨a, e1, ran⟩ := first e
  obtain ⟨b, e2, ran'⟩ := rest a e1
  refine ⟨b, e2, ?_⟩
  rw [run_bind, ran]
  exact ran'

end Succeeds

namespace FailsQuietly

theorem of_quiet {op : EngineM α} (quiet : Quiet op) : FailsQuietly op := by
  intro e err e' ran
  simpa [ran] using quiet e

theorem of_succeeds {op : EngineM α} (succeeds : Succeeds op) : FailsQuietly op := by
  intro e err e' ran
  obtain ⟨a, e'', ran'⟩ := succeeds e
  rw [ran'] at ran
  simp at ran

/-- A quiet step followed by a tail that fails quietly. -/
theorem bind {x : EngineM α} {f : α → EngineM β} (first : Quiet x)
    (rest : ∀ a, FailsQuietly (f a)) : FailsQuietly (x >>= f) := by
  intro e err e' ran
  rw [run_bind] at ran
  rcases first' : Engine.run e x with ⟨r, e1⟩
  have only : LogOnly e e1 := by simpa [first'] using first e
  rw [first'] at ran
  cases r with
  | ok a => exact only.trans (rest a e1 err e' ran)
  | error err' =>
    simp only [Prod.mk.injEq] at ran
    obtain ⟨-, rfl⟩ := ran
    exact only

/-- A step that fails quietly followed by steps that cannot fail. -/
theorem bind_succeeds {x : EngineM α} {f : α → EngineM β} (first : FailsQuietly x)
    (rest : ∀ a, Succeeds (f a)) : FailsQuietly (x >>= f) := by
  intro e err e' ran
  rw [run_bind] at ran
  rcases first' : Engine.run e x with ⟨r, e1⟩
  rw [first'] at ran
  cases r with
  | ok a =>
    obtain ⟨b, e2, ran'⟩ := rest a e1
    dsimp only at ran
    rw [ran'] at ran
    simp at ran
  | error err' =>
    simp only [Prod.mk.injEq] at ran
    obtain ⟨-, rfl⟩ := ran
    exact first e err' e1 first'

end FailsQuietly


/-! ### The quiet steps of the engine -/

theorem quiet_session (id : SessionId) : Quiet (session id) := by
  unfold session
  refine Quiet.bind Quiet.get fun e => ?_
  split
  · exact Quiet.pure _
  · exact Quiet.throw _

theorem quiet_pathFor (answers : AnswerStore) : Quiet (pathFor answers) := by
  unfold pathFor
  refine Quiet.bind Quiet.served fun q => ?_
  exact Quiet.bind (Quiet.forIn _ _ fun choice _ => Quiet.bind (Quiet.emit _) fun _ => Quiet.pure _)
    fun _ => Quiet.pure _

theorem quiet_editableQuestion (s : Session) (slot : SlotId) : Quiet (editableQuestion s slot) := by
  unfold editableQuestion
  refine Quiet.bind Quiet.served fun q => ?_
  dsimp only
  split
  · refine Quiet.bind (Quiet.pure _) fun block => Quiet.bind (quiet_pathFor _) fun path => ?_
    split
    · exact Quiet.throw_bind _ _
    · split
      · exact Quiet.pure _
      · exact Quiet.throw _
  · exact Quiet.throw_bind _ _

theorem quiet_enforce (question : Question) (slot : SlotId) (edit : Edit) (phase : EditPhase)
    (entry : Entry) : Quiet (enforce question slot edit phase entry) := by
  unfold enforce
  split
  · exact Quiet.throw _
  · dsimp only
    split
    · exact Quiet.bind (Quiet.emit _) fun _ => Quiet.pure _
    · exact Quiet.pure _

theorem quiet_commitDraft (question : Question) (slot : SlotId) (entry : Entry) :
    Quiet (commitDraft question slot entry) := by
  unfold commitDraft
  split
  · exact Quiet.pure _
  · exact Quiet.bind (quiet_enforce _ _ _ _ _) fun _ => Quiet.pure _

theorem quiet_reopen (id : SessionId) (s : Session) (block : BlockId) : Quiet (reopen id s block) := by
  unfold reopen
  dsimp only
  split
  · exact Quiet.bind (Quiet.emit _) fun _ => Quiet.pure _
  · exact Quiet.pure _

theorem quiet_commitPending (edits : Entries Edit) (entry : Entry) (questions : List Question) :
    Quiet (commitPending edits entry questions) := by
  induction questions generalizing entry with
  | nil => exact Quiet.pure _
  | cons question rest ih =>
    unfold commitPending
    refine Quiet.bind (Quiet.foldlM _ _ fun acc slot => ?_) ih
    exact Quiet.bind (quiet_commitDraft _ _ _) fun _ => Quiet.pure _

theorem quiet_applyEdits (s : Session) (block : Block) (questions : List Question)
    (edits : Entries Edit) : Quiet (applyEdits s block questions edits) := by
  unfold applyEdits
  refine Quiet.bind (quiet_commitPending _ _ _) fun entry => ?_
  refine Quiet.bind (Quiet.mapM _ fun ⟨slot, change⟩ => ?_) fun placed => ?_
  · dsimp only
    split
    · exact Quiet.pure _
    · exact Quiet.throw _
  · refine Quiet.bind (Quiet.foldlM _ _ fun acc edit => ?_) fun _ => Quiet.pure _
    exact Quiet.bind (quiet_enforce _ _ _ _ _) fun _ => Quiet.pure _

theorem quiet_totalReported (rule : CalculatedRule) (view : Lookup) (judged : Bool) :
    Quiet (totalReported rule view judged) := by
  unfold totalReported
  exact Quiet.bind (Quiet.forIn _ _ fun slot _ => Quiet.bind (Quiet.emit _) fun _ => Quiet.pure _)
    fun _ => Quiet.pure _

theorem quiet_validate (s : Session) (block : Block) (questions : List Question)
    (path : RoutingPath) : Quiet (validate s block questions path) := by
  unfold validate
  refine Quiet.bind Quiet.served fun q => ?_
  refine Quiet.bind (Quiet.forIn _ _ fun rule acc => ?_) fun _ => Quiet.pure _
  refine Quiet.bind (quiet_totalReported _ _ _) fun total => ?_
  dsimp only
  split
  · exact Quiet.bind (Quiet.emit _) fun _ => Quiet.pure _
  · exact Quiet.pure _

theorem quiet_invalidateSkipped (s : Session) (path : RoutingPath) :
    Quiet (invalidateSkipped s path) := by
  unfold invalidateSkipped
  refine Quiet.bind Quiet.get fun e => ?_
  refine Quiet.bind (Quiet.forIn _ _ fun block acc => ?_) fun _ => Quiet.pure _
  dsimp only
  split
  · -- Clearing a slot only counts whether it held an answer.
    refine Quiet.bind (Quiet.forIn _ _ fun slot acc => ?_) fun wiped => ?_
    · split
      · exact Quiet.pure _
      · exact Quiet.pure _
    · split
      · exact Quiet.bind (Quiet.emit _) fun _ => Quiet.pure _
      · exact Quiet.pure _
  · exact Quiet.pure _

/-! ### Operations that fail without a trace -/

theorem commitSession_failsQuietly (id : SessionId) (s : Session) :
    FailsQuietly (commitSession id s) := by
  unfold commitSession
  refine FailsQuietly.bind Quiet.get fun e => ?_
  split
  · exact FailsQuietly.of_succeeds fun e' => ⟨(), _, run_set e' _⟩
  · exact FailsQuietly.of_quiet (Quiet.bind (Quiet.emit _) fun _ => Quiet.throw _)

/-- **A failed edit changes nothing but the log.** -/
theorem edit_failsQuietly (id : SessionId) (slot : SlotId) (change : Edit) (phase : EditPhase) :
    FailsQuietly (edit id slot change phase) := by
  unfold edit
  refine FailsQuietly.bind (quiet_session id) fun s => ?_
  refine FailsQuietly.bind (quiet_editableQuestion s slot) fun ⟨block, question⟩ => ?_
  refine FailsQuietly.bind Quiet.get fun e => ?_
  refine FailsQuietly.bind (quiet_enforce _ _ _ _ _) fun ⟨applied, entry⟩ => ?_
  -- The session is put live last, and that cannot fail.
  have put : ∀ s', FailsQuietly (putSession id s' >>= fun _ => pure applied) := fun s' =>
    FailsQuietly.of_succeeds (Succeeds.bind (Succeeds.putSession _ _) fun _ => Succeeds.pure _)
  dsimp only
  split
  · exact FailsQuietly.bind (quiet_reopen _ _ _) put
  · exact FailsQuietly.bind (Quiet.pure _) put

/-- **A failed blur changes nothing but the log.** -/
theorem blur_failsQuietly (id : SessionId) (slot : SlotId) : FailsQuietly (blur id slot) := by
  unfold blur
  refine FailsQuietly.bind (quiet_session id) fun s => ?_
  refine FailsQuietly.bind (quiet_editableQuestion s slot) fun ⟨block, question⟩ => ?_
  refine FailsQuietly.bind (quiet_commitDraft _ _ _) fun ⟨applied, entry⟩ => ?_
  have put : ∀ s', FailsQuietly (putSession id s' >>= fun _ => pure applied) := fun s' =>
    FailsQuietly.of_succeeds (Succeeds.bind (Succeeds.putSession _ _) fun _ => Succeeds.pure _)
  dsimp only
  split
  · exact FailsQuietly.bind (quiet_reopen _ _ _) put
  · exact FailsQuietly.bind (Quiet.pure _) put

/-- **A failed submission changes nothing but the log**: every step before the commit is
quiet, and what follows the commit cannot fail. -/
theorem submitBlock_failsQuietly (id : SessionId) (block : BlockId) (edits : Entries Edit) :
    FailsQuietly (submitBlock id block edits) := by
  unfold submitBlock
  refine FailsQuietly.bind (quiet_session id) fun live => ?_
  refine FailsQuietly.bind Quiet.served fun q => ?_
  dsimp only
  split
  · refine FailsQuietly.bind (Quiet.pure _) fun b => ?_
    refine FailsQuietly.bind (quiet_pathFor _) fun shown => ?_
    split
    · exact FailsQuietly.of_quiet (Quiet.throw_bind _ _)
    refine FailsQuietly.bind (Quiet.emit _) fun _ => ?_
    refine FailsQuietly.bind (quiet_applyEdits _ _ _ _) fun working => ?_
    refine FailsQuietly.bind (quiet_pathFor _) fun path => ?_
    refine FailsQuietly.bind (quiet_validate _ _ _ _) fun ⟨errors, validated⟩ => ?_
    dsimp only
    split
    · -- A rejected submission puts the session back live; nothing of that can fail.
      exact FailsQuietly.of_succeeds (Succeeds.bind (Succeeds.emit _) fun _ =>
        Succeeds.bind (Succeeds.putSession _ _) fun _ => Succeeds.pure _)
    · -- An accepted one is committed first; what follows the commit cannot fail.
      refine FailsQuietly.bind (quiet_invalidateSkipped _ _) fun final => ?_
      exact FailsQuietly.bind_succeeds (commitSession_failsQuietly _ _) fun _ =>
        Succeeds.bind (Succeeds.putSession _ _) fun _ =>
          Succeeds.bind (Succeeds.emit _) fun _ => Succeeds.pure _
  · exact FailsQuietly.of_quiet (Quiet.throw_bind _ _)

/-- **A failed resumption changes nothing but the log.** -/
theorem resumeSession_failsQuietly (id : SessionId) : FailsQuietly (resumeSession id) := by
  unfold resumeSession
  refine FailsQuietly.bind Quiet.get fun e => ?_
  dsimp only
  split
  · exact FailsQuietly.of_quiet (Quiet.throw_bind _ _)
  · exact FailsQuietly.of_quiet (Quiet.throw_bind _ _)
  · refine FailsQuietly.bind (Quiet.pure _) fun snapshot => ?_
    -- Both checks come before the session is put live.
    have put : FailsQuietly (putSession id snapshot.session >>= fun _ => emit (.resumed id)) :=
      FailsQuietly.of_succeeds (Succeeds.bind (Succeeds.putSession _ _) fun _ => Succeeds.emit _)
    split
    · exact FailsQuietly.of_quiet (Quiet.throw_bind _ _)
    · split
      · exact FailsQuietly.of_quiet (Quiet.throw_bind _ _)
      · exact put

end Engine

end Survey
