import Mathlib
import Survey.Proofs.Engine.Quiet

/-!
# What a failed operation leaves behind

The engine's state that matters to a respondent is its live sessions and its store
(`Engine.Unchanged`): the log only grows, and the serial of the next session id is never seen.
A failure of an edit, a blur, a submission or a resumption changes nothing but the log
(`Engine.FailsQuietly`, from `Survey.Proofs.Engine.Quiet`). The two operations that touch the
store in a different order are taken apart here:

* `Engine.run_startSession_error` — a start fails only when the store refuses the empty
  session's snapshot, and then nothing is live that was not before;
* `Engine.run_closeSession_error` — a close fails on an unknown session, changing nothing, or
  when the store refuses the removal; the session was dropped from memory before the store was
  asked, so that failure leaves the store as it was but the session gone
  (`Engine.run_closeSession_refused`).

Together: **`Engine.failed_operation_keeps_state`** — every failed start, resumption, edit,
blur or submission leaves the live sessions and the store as they were, and a failed close
does too unless the store refused the removal.
-/

namespace Survey

namespace Engine

/-- The live sessions and the store of `e'` are those of `e`. -/
def Unchanged (e e' : Engine) : Prop := e'.sessions = e.sessions ∧ e'.store = e.store

theorem LogOnly.unchanged {e e' : Engine} (only : LogOnly e e') : Unchanged e e' :=
  ⟨only.sessions_eq, only.store_eq⟩

theorem FailsQuietly.unchanged {α : Type} {op : EngineM α} (quiet : FailsQuietly op)
    {e e' : Engine} {err : EngineError} (ran : Engine.run e op = (.error err, e')) :
    Unchanged e e' :=
  (quiet e err e' ran).unchanged

/-! ### Starting a session -/

@[simp] theorem run_freshId (e : Engine) :
    Engine.run e freshId = (.ok ⟨e.nextSerial⟩, { e with nextSerial := e.nextSerial + 1 }) := rfl

/-- A refused commit reports the failure and fails with the store's reason. -/
theorem run_commitSession_of_error (e : Engine) (id : SessionId) (s : Session) {reason : String}
    (refused : e.store.commit id (.ofSession e.questionnaire.id s) = .error reason) :
    Engine.run e (commitSession id s) =
      (.error (.persistence reason), { e with log := e.log ++ [.commitFailed id reason] }) := by
  unfold commitSession
  rw [run_bind, run_get]
  simp only [refused]
  rfl

/-- A commit the store takes replaces the store and changes nothing else. -/
theorem run_commitSession_of_ok (e : Engine) (id : SessionId) (s : Session) {store : SnapshotStore}
    (taken : e.store.commit id (.ofSession e.questionnaire.id s) = .ok store) :
    Engine.run e (commitSession id s) = (.ok (), { e with store }) := by
  unfold commitSession
  rw [run_bind, run_get]
  simp only [taken]
  rfl

/-- **A start fails only when the store refuses the empty session**, and then the live sessions
and the store are as they were. -/
theorem run_startSession_error {e e' : Engine} {err : EngineError}
    (ran : Engine.run e startSession = (.error err, e')) :
    Unchanged e e' ∧ ∃ reason,
      e.store.commit ⟨e.nextSerial⟩ (.ofSession e.questionnaire.id .empty) = .error reason ∧
      err = .persistence reason := by
  unfold startSession at ran
  rw [run_bind, run_freshId] at ran
  dsimp only at ran
  rw [run_bind] at ran
  cases committed : e.store.commit ⟨e.nextSerial⟩ (.ofSession e.questionnaire.id .empty) with
  | ok store =>
    -- Once the commit is taken, putting the session live and reporting cannot fail.
    rw [run_commitSession_of_ok { e with nextSerial := e.nextSerial + 1 } _ _ committed] at ran
    dsimp only at ran
    obtain ⟨_, _, put⟩ := Succeeds.putSession ⟨e.nextSerial⟩ Session.empty
      { e with nextSerial := e.nextSerial + 1, store }
    rw [run_bind, put] at ran
    simp [run_map] at ran
  | error reason =>
    rw [run_commitSession_of_error { e with nextSerial := e.nextSerial + 1 } _ _ committed] at ran
    simp only [Prod.mk.injEq, Except.error.injEq] at ran
    obtain ⟨rfl, rfl⟩ := ran
    exact ⟨⟨rfl, rfl⟩, reason, rfl, rfl⟩

/-! ### Closing a session -/

/-- The sessions left live once a session is dropped from memory. -/
def withoutSession (e : Engine) (id : SessionId) : List (SessionId × Session) :=
  e.sessions.filter (·.1 != id)

/-- **A failed close**: either the session was unknown and nothing changed, or the store refused
the removal after the session had been dropped from memory, and the store is as it was. -/
theorem run_closeSession_error {e e' : Engine} {id : SessionId} {err : EngineError}
    (ran : Engine.run e (closeSession id) = (.error err, e')) :
    (err = .unknownSession id ∧ e' = e) ∨
      ∃ reason, e.store.remove id = .error reason ∧ err = .persistence reason ∧
        e'.sessions = withoutSession e id ∧ e'.store = e.store := by
  unfold closeSession at ran
  rw [run_bind] at ran
  cases found : e.sessions.find? (·.1 == id) with
  | none =>
    have unknown : Engine.run e (session id) = (.error (.unknownSession id), e) := by
      unfold session
      rw [run_bind, run_get]
      simp only [found]
      rfl
    rw [unknown] at ran
    simp only [Prod.mk.injEq, Except.error.injEq] at ran
    obtain ⟨rfl, rfl⟩ := ran
    exact .inl ⟨rfl, rfl⟩
  | some pair =>
    rw [run_session_of_find? found] at ran
    dsimp only at ran
    rw [run_bind, run_modify] at ran
    dsimp only at ran
    rw [run_bind, run_get] at ran
    dsimp only at ran
    -- The session is gone from memory before the store is asked to remove it.
    cases removed : e.store.remove id with
    | ok store =>
      simp only [removed, run_bind, run_set, run_emit] at ran
      simp at ran
    | error reason =>
      simp only [removed, run_bind, run_throw, Prod.mk.injEq, Except.error.injEq] at ran
      obtain ⟨rfl, rfl⟩ := ran
      exact .inr ⟨reason, rfl, rfl, rfl, rfl⟩

/-- **A store that refuses removals makes a close of a live session fail after dropping the
session**: the close reports the store's failure, the session is no longer live, and its
snapshot stays in the store. -/
theorem run_closeSession_refused {e : Engine} {id : SessionId} {s : Session}
    (live : Engine.run e (session id) = (.ok s, e)) (refusing : e.store.failRemove = true) :
    Engine.run e (closeSession id) =
      (.error (.persistence "remove refused"), { e with sessions := withoutSession e id }) := by
  have removed : e.store.remove id = .error "remove refused" := by
    simp [SnapshotStore.remove, refusing]
  unfold closeSession
  rw [run_bind, live]
  dsimp only
  rw [run_bind, run_modify]
  dsimp only
  rw [run_bind, run_get]
  dsimp only
  simp only [removed, run_bind, run_throw]
  rfl

/-! ### Every failed operation -/

/-- **A failed operation leaves the live sessions and the store as they were**: a start, a
resumption, an edit, a blur or a submission that fails changes neither, and a close that fails
keeps the store and keeps the sessions too, unless the store refused the removal, in which case
the session has been dropped from memory. -/
theorem failed_operation_keeps_state (e e' : Engine) (err : EngineError) :
    (Engine.run e startSession = (.error err, e') → Unchanged e e') ∧
    (∀ id, Engine.run e (resumeSession id) = (.error err, e') → Unchanged e e') ∧
    (∀ id slot change phase, Engine.run e (edit id slot change phase) = (.error err, e') →
      Unchanged e e') ∧
    (∀ id slot, Engine.run e (blur id slot) = (.error err, e') → Unchanged e e') ∧
    (∀ id block edits, Engine.run e (submitBlock id block edits) = (.error err, e') →
      Unchanged e e') ∧
    (∀ id, Engine.run e (closeSession id) = (.error err, e') →
      e'.store = e.store ∧ (e'.sessions = e.sessions ∨
        ∃ reason, e.store.remove id = .error reason ∧ err = .persistence reason ∧
          e'.sessions = withoutSession e id)) := by
  refine ⟨fun ran => (run_startSession_error ran).1,
    fun id => (resumeSession_failsQuietly id).unchanged,
    fun id slot change phase => (edit_failsQuietly id slot change phase).unchanged,
    fun id slot => (blur_failsQuietly id slot).unchanged,
    fun id block edits => (submitBlock_failsQuietly id block edits).unchanged,
    fun id ran => ?_⟩
  rcases run_closeSession_error ran with ⟨-, rfl⟩ | ⟨reason, removed, failed, dropped, kept⟩
  · exact ⟨rfl, .inl rfl⟩
  · exact ⟨kept, .inr ⟨reason, removed, failed, dropped⟩⟩

end Engine

end Survey
