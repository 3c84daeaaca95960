import Mathlib
import Survey.Engine.Core

/-!
# Running engine operations

An engine operation is run on an engine state and gives a result or an error, with the state
reached (`Engine.run`). A run of `x >>= f` that succeeds is a successful run of `x` followed by
one of `f` (`Engine.run_bind_eq_ok`), so a successful run of a whole operation is taken apart
one step at a time.

Most steps only report events: `Engine.LogOnly e e'` says that `e'` is `e` with events added.
Loops of such steps are handled once, with an invariant of the loop's state
(`Engine.run_forIn`). Then the steps the engine's operations share:

* `Engine.run_session_of_find?` — the live session of an id is the one stored under it;
* `Engine.run_session_putSession` — after `putSession`, that session is the one put;
* `Engine.run_pathFor` — routing reports events and gives the routing path;
* `Engine.run_commitSession_ok` — a successful commit stores the session's snapshot and changes
  nothing else.
-/

namespace Survey

namespace Engine

section Run

variable {α β : Type}

theorem run_bind (e : Engine) (x : EngineM α) (f : α → EngineM β) :
    Engine.run e (x >>= f) = match Engine.run e x with
      | (.ok a, e1) => Engine.run e1 (f a)
      | (.error err, e1) => (.error err, e1) := by
  simp only [Engine.run, ExceptT.run_bind, StateT.run_bind]
  rcases (x.run).run e with ⟨r, e1⟩
  cases r <;> rfl

/-- **A successful run of `x >>= f`** is a successful run of `x`, then of `f` on its result. -/
theorem run_bind_eq_ok {e e' : Engine} {x : EngineM α} {f : α → EngineM β} {b : β} :
    Engine.run e (x >>= f) = (.ok b, e') ↔
      ∃ a e1, Engine.run e x = (.ok a, e1) ∧ Engine.run e1 (f a) = (.ok b, e') := by
  rw [run_bind]
  rcases Engine.run e x with ⟨r, e1⟩
  cases r <;> simp

theorem run_map (e : Engine) (x : EngineM α) (f : α → β) :
    Engine.run e (f <$> x) = match Engine.run e x with
      | (.ok a, e1) => (.ok (f a), e1)
      | (.error err, e1) => (.error err, e1) := by
  simp only [Engine.run, ExceptT.run_map, StateT.run_map]
  rcases (x.run).run e with ⟨r, e1⟩
  cases r <;> rfl

@[simp] theorem run_pure (e : Engine) (a : α) : Engine.run e (pure a) = (.ok a, e) := rfl

@[simp] theorem run_throw (e : Engine) (err : EngineError) :
    Engine.run e (throw err : EngineM α) = (.error err, e) := rfl

@[simp] theorem run_emit (e : Engine) (event : LogEvent) :
    Engine.run e (emit event) = (.ok (), { e with log := e.log ++ [event] }) := rfl

@[simp] theorem run_served (e : Engine) : Engine.run e served = (.ok e.questionnaire, e) := rfl

@[simp] theorem run_get (e : Engine) : Engine.run e (get : EngineM Engine) = (.ok e, e) := rfl

@[simp] theorem run_set (e e' : Engine) : Engine.run e (set e' : EngineM PUnit) = (.ok (), e') := rfl

@[simp] theorem run_modify (e : Engine) (f : Engine → Engine) :
    Engine.run e (modify f : EngineM PUnit) = (.ok (), f e) := rfl

end Run

/-! ### Steps that only report events -/

/-- `e'` is `e` with some events reported. -/
def LogOnly (e e' : Engine) : Prop := ∃ events, e' = { e with log := e.log ++ events }

namespace LogOnly

variable {e e1 e2 : Engine}

theorem refl (e : Engine) : LogOnly e e := ⟨[], by simp⟩

theorem trans (first : LogOnly e e1) (second : LogOnly e1 e2) : LogOnly e e2 := by
  obtain ⟨events, rfl⟩ := first
  obtain ⟨more, rfl⟩ := second
  exact ⟨events ++ more, by simp⟩

theorem of_emit (e : Engine) (event : LogEvent) : LogOnly e { e with log := e.log ++ [event] } :=
  ⟨[event], rfl⟩

theorem questionnaire_eq (only : LogOnly e e1) : e1.questionnaire = e.questionnaire := by
  obtain ⟨_, rfl⟩ := only
  rfl

theorem config_eq (only : LogOnly e e1) : e1.config = e.config := by
  obtain ⟨_, rfl⟩ := only
  rfl

theorem store_eq (only : LogOnly e e1) : e1.store = e.store := by
  obtain ⟨_, rfl⟩ := only
  rfl

theorem sessions_eq (only : LogOnly e e1) : e1.sessions = e.sessions := by
  obtain ⟨_, rfl⟩ := only
  rfl

end LogOnly

/-- **A loop of steps that only report events** keeps an invariant of its state that each step
keeps, never fails, and only reports events. -/
theorem run_forIn {X σ : Type} (P : σ → Prop) (xs : List X) (body : X → σ → EngineM (ForInStep σ))
    (step : ∀ x ∈ xs, ∀ acc e, P acc →
      ∃ r e', Engine.run e (body x acc) = (.ok r, e') ∧ LogOnly e e' ∧ P r.value)
    (acc : σ) (e : Engine) (start : P acc) :
    ∃ r e', Engine.run e (forIn xs acc body) = (.ok r, e') ∧ LogOnly e e' ∧ P r := by
  induction xs generalizing acc e with
  | nil => exact ⟨acc, e, rfl, LogOnly.refl e, start⟩
  | cons x rest ih =>
    obtain ⟨r, e1, ran, only, kept⟩ := step x List.mem_cons_self acc e start
    rw [List.forIn_cons, run_bind, ran]
    cases r with
    | done acc' => exact ⟨acc', e1, rfl, only, kept⟩
    | yield acc' =>
      obtain ⟨r', e2, ran', only', kept'⟩ :=
        ih (fun x member => step x (List.mem_cons_of_mem _ member)) acc' e1 kept
      exact ⟨r', e2, ran', only.trans only', kept'⟩

/-- **A loop whose steps only report events and go on with `g` of the state** ends with the
fold of `g` over the list. -/
theorem run_forIn_yield {X σ : Type} (xs : List X) (body : X → σ → EngineM (ForInStep σ))
    (g : σ → X → σ)
    (step : ∀ x ∈ xs, ∀ acc e, ∃ e', Engine.run e (body x acc) = (.ok (.yield (g acc x)), e') ∧
      LogOnly e e')
    (acc : σ) (e : Engine) :
    ∃ e', Engine.run e (forIn xs acc body) = (.ok (xs.foldl g acc), e') ∧ LogOnly e e' := by
  induction xs generalizing acc e with
  | nil => exact ⟨e, rfl, LogOnly.refl e⟩
  | cons x rest ih =>
    obtain ⟨e1, ran, only⟩ := step x List.mem_cons_self acc e
    obtain ⟨e2, ran', only'⟩ := ih (fun x member => step x (List.mem_cons_of_mem _ member)) (g acc x) e1
    refine ⟨e2, ?_, only.trans only'⟩
    rw [List.forIn_cons, run_bind, ran]
    exact ran'

/-- The same, read off any run of the loop. -/
theorem run_forIn_yield_of_run {X σ : Type} {xs : List X} {body : X → σ → EngineM (ForInStep σ)}
    (g : σ → X → σ)
    (step : ∀ x ∈ xs, ∀ acc e, ∃ e', Engine.run e (body x acc) = (.ok (.yield (g acc x)), e') ∧
      LogOnly e e')
    {acc : σ} {e e' : Engine} {r : Except EngineError σ}
    (ran : Engine.run e (forIn xs acc body) = (r, e')) : r = .ok (xs.foldl g acc) ∧ LogOnly e e' := by
  obtain ⟨e'', looped, only⟩ := run_forIn_yield xs body g step acc e
  rw [looped, Prod.mk.injEq] at ran
  obtain ⟨rfl, rfl⟩ := ran
  exact ⟨rfl, only⟩

/-- A successful loop keeps an invariant of the engine and the loop's state that each
successful step keeps. -/
theorem run_forIn_ok {X σ : Type} (P : Engine → σ → Prop) (xs : List X)
    (body : X → σ → EngineM (ForInStep σ))
    (step : ∀ x ∈ xs, ∀ acc e r e', P e acc → Engine.run e (body x acc) = (.ok r, e') → P e' r.value)
    (acc : σ) (e : Engine) {result : σ} {e' : Engine} (start : P e acc)
    (ran : Engine.run e (forIn xs acc body) = (.ok result, e')) : P e' result := by
  induction xs generalizing acc e with
  | nil =>
    simp only [List.forIn_nil, run_pure, Prod.mk.injEq, Except.ok.injEq] at ran
    obtain ⟨rfl, rfl⟩ := ran
    exact start
  | cons x rest ih =>
    rw [List.forIn_cons, run_bind_eq_ok] at ran
    obtain ⟨r, e1, first, ran⟩ := ran
    have kept := step x List.mem_cons_self acc e r e1 start first
    cases r with
    | done acc' =>
      simp only [run_pure, Prod.mk.injEq, Except.ok.injEq] at ran
      obtain ⟨rfl, rfl⟩ := ran
      exact kept
    | yield acc' =>
      exact ih (fun x member => step x (List.mem_cons_of_mem _ member)) acc' e1 kept ran

/-- A successful fold keeps an invariant of the engine and the accumulator that each
successful step keeps. -/
theorem run_foldlM_ok {X σ : Type} (P : Engine → σ → Prop) (f : σ → X → EngineM σ) (xs : List X)
    (step : ∀ x ∈ xs, ∀ acc e acc' e', P e acc → Engine.run e (f acc x) = (.ok acc', e') → P e' acc')
    (acc : σ) (e : Engine) {result : σ} {e' : Engine} (start : P e acc)
    (ran : Engine.run e (xs.foldlM f acc) = (.ok result, e')) : P e' result := by
  induction xs generalizing acc e with
  | nil =>
    simp only [List.foldlM_nil, run_pure, Prod.mk.injEq, Except.ok.injEq] at ran
    obtain ⟨rfl, rfl⟩ := ran
    exact start
  | cons x rest ih =>
    rw [List.foldlM_cons, run_bind_eq_ok] at ran
    obtain ⟨acc', e1, first, ran⟩ := ran
    exact ih (fun x member => step x (List.mem_cons_of_mem _ member)) acc' e1
      (step x List.mem_cons_self acc e acc' e1 start first) ran

/-- A fold succeeds when every step succeeds from an accumulator with `P` and gives one with `P`. -/
theorem run_foldlM_succeeds {X σ : Type} (P : σ → Prop) (f : σ → X → EngineM σ) (xs : List X)
    (step : ∀ x ∈ xs, ∀ acc e, P acc → ∃ acc' e', Engine.run e (f acc x) = (.ok acc', e') ∧ P acc')
    (acc : σ) (e : Engine) (start : P acc) :
    ∃ result e', Engine.run e (xs.foldlM f acc) = (.ok result, e') ∧ P result := by
  induction xs generalizing acc e with
  | nil => exact ⟨acc, e, rfl, start⟩
  | cons x rest ih =>
    obtain ⟨acc', e1, first, held⟩ := step x List.mem_cons_self acc e start
    rw [List.foldlM_cons, run_bind, first]
    exact ih (fun x member => step x (List.mem_cons_of_mem _ member)) acc' e1 held

/-- A successful map by steps that only give a value gives values each step can give, and leaves
the engine as it was. -/
theorem run_mapM_ok {X Y : Type} (P : Y → Prop) (f : X → EngineM Y) (xs : List X)
    (step : ∀ x ∈ xs, ∀ e y e', Engine.run e (f x) = (.ok y, e') → e' = e ∧ P y)
    {e e' : Engine} {ys : List Y} (ran : Engine.run e (xs.mapM f) = (.ok ys, e')) :
    e' = e ∧ ∀ y ∈ ys, P y := by
  induction xs generalizing e ys with
  | nil =>
    simp only [List.mapM_nil, run_pure, Prod.mk.injEq, Except.ok.injEq] at ran
    obtain ⟨rfl, rfl⟩ := ran
    exact ⟨rfl, by simp⟩
  | cons x rest ih =>
    rw [List.mapM_cons, run_bind_eq_ok] at ran
    obtain ⟨y, e1, first, ran⟩ := ran
    rw [run_bind_eq_ok] at ran
    obtain ⟨others, e2, later, ran⟩ := ran
    simp only [run_pure, Prod.mk.injEq, Except.ok.injEq] at ran
    obtain ⟨rfl, rfl⟩ := ran
    obtain ⟨rfl, holds⟩ := step x List.mem_cons_self e y e1 first
    obtain ⟨rfl, hold⟩ := ih (fun x member => step x (List.mem_cons_of_mem _ member)) later
    refine ⟨rfl, fun z member => ?_⟩
    rcases List.mem_cons.mp member with rfl | other
    · exact holds
    · exact hold z other

/-! ### Sessions, routing and the store -/

/-- The live session of an id is the first one stored under it. -/
theorem run_session_of_find? {e : Engine} {id key : SessionId} {s : Session}
    (found : e.sessions.find? (·.1 == id) = some (key, s)) :
    Engine.run e (session id) = (.ok s, e) := by
  unfold session
  rw [run_bind, run_get]
  simp only [found]
  rfl

theorem run_session_ok {e e' : Engine} {id : SessionId} {s : Session}
    (ran : Engine.run e (session id) = (.ok s, e')) :
    e' = e ∧ ∃ key, e.sessions.find? (·.1 == id) = some (key, s) := by
  unfold session at ran
  rw [run_bind, run_get] at ran
  cases found : e.sessions.find? (·.1 == id) with
  | none =>
    simp only [found, run_throw] at ran
    simp at ran
  | some pair =>
    obtain ⟨key, s'⟩ := pair
    simp only [found, run_pure, Prod.mk.injEq, Except.ok.injEq] at ran
    obtain ⟨rfl, rfl⟩ := ran
    exact ⟨rfl, key, rfl⟩

/-- `putSession` replaces or adds the session of an id and changes nothing else. -/
theorem run_putSession (e : Engine) (id : SessionId) (s : Session) :
    ∃ sessions, Engine.run e (putSession id s) = (.ok (), { e with sessions }) ∧
      sessions.find? (·.1 == id) = some (id, s) := by
  unfold putSession
  rw [run_modify]
  by_cases present : e.sessions.any (·.1 == id) = true
  · simp only [present, ↓reduceIte]
    refine ⟨_, rfl, ?_⟩
    -- Every pair keeps its key, and the first pair of the id now holds the new session.
    generalize e.sessions = sessions at present ⊢
    induction sessions with
    | nil => simp at present
    | cons pair rest ih =>
      obtain ⟨k, v⟩ := pair
      by_cases same : k = id
      · simp [same]
      · have other : (k == id) = false := beq_false_of_ne same
        simp only [List.any_cons, other, Bool.false_or] at present
        simpa [same] using ih present
  · refine ⟨e.sessions ++ [(id, s)], by simp [present], ?_⟩
    have missing : e.sessions.find? (·.1 == id) = none :=
      List.find?_eq_none.mpr fun pair member same => present (List.any_eq_true.mpr ⟨pair, member, same⟩)
    simp [List.find?_append, missing]

/-- After `putSession`, the live session of the id is the one put. -/
theorem run_session_putSession (e : Engine) (id : SessionId) (s : Session) :
    Engine.run (Engine.run e (putSession id s)).2 (session id) =
      (.ok s, (Engine.run e (putSession id s)).2) := by
  obtain ⟨sessions, put, found⟩ := run_putSession e id s
  rw [put]
  exact run_session_of_find? found

/-- After a session is put, it is the live session of its id. -/
theorem run_session_of_put {e e' : Engine} {id : SessionId} {s : Session}
    (put : Engine.run e (putSession id s) = (.ok (), e')) :
    Engine.run e' (session id) = (.ok s, e') := by
  obtain ⟨sessions, putAs, found⟩ := run_putSession e id s
  rw [putAs, Prod.mk.injEq] at put
  obtain ⟨-, rfl⟩ := put
  exact run_session_of_find? found

/-- A step that only reports events leaves the live sessions as they were. -/
theorem LogOnly.run_session {e e' : Engine} (only : LogOnly e e') {id : SessionId} {s : Session}
    (live : Engine.run e (session id) = (.ok s, e)) : Engine.run e' (session id) = (.ok s, e') := by
  obtain ⟨-, key, found⟩ := run_session_ok live
  have kept : e'.sessions.find? (·.1 == id) = some (key, s) := by
    rw [only.sessions_eq]
    exact found
  exact run_session_of_find? kept

/-- Routing a session's answers reports events and gives the routing path. -/
theorem run_pathFor (e : Engine) (answers : AnswerStore) :
    ∃ e', Engine.run e (pathFor answers) = (.ok (e.questionnaire.routingPath answers), e') ∧
      LogOnly e e' := by
  unfold pathFor
  rw [run_bind, run_served]
  dsimp only
  -- Each rule that decided a step is reported; nothing else happens.
  obtain ⟨r, e', ran, only, -⟩ := run_forIn (fun _ => True)
    (e.questionnaire.routeChoices answers (e.questionnaire.routingPath answers))
    (fun choice _ => do emit (.routeChosen choice.1 choice.2); pure (ForInStep.yield PUnit.unit))
    (fun choice _ _ e _ => ⟨_, _, rfl, LogOnly.of_emit e _, trivial⟩) PUnit.unit e trivial
  rw [run_bind, ran]
  exact ⟨e', rfl, only⟩

/-- A successful commit stores the snapshot of the session and changes nothing else. -/
theorem run_commitSession_ok {e e' : Engine} {id : SessionId} {s : Session} {u : Unit}
    (ran : Engine.run e (commitSession id s) = (.ok u, e')) :
    ∃ store, e.store.commit id (.ofSession e.questionnaire.id s) = .ok store ∧
      e' = { e with store } := by
  unfold commitSession at ran
  rw [run_bind, run_get] at ran
  dsimp only at ran
  cases committed : e.store.commit id (.ofSession e.questionnaire.id s) with
  | error reason =>
    simp only [committed] at ran
    rw [run_bind, run_emit] at ran
    simp at ran
  | ok store =>
    simp only [committed, run_set, Prod.mk.injEq] at ran
    obtain ⟨-, rfl⟩ := ran
    exact ⟨store, rfl, rfl⟩

/-! ### Queries -/

/-- Whether a known block may be shown: whether it is on the routing path of the live answers. -/
theorem run_canAccess {e : Engine} {id : SessionId} {s : Session} {block : BlockId}
    (live : Engine.run e (session id) = (.ok s, e)) (known : (e.questionnaire.block? block).isSome) :
    ∃ e', Engine.run e (canAccess id block) =
      (.ok ((e.questionnaire.routingPath s.answers).contains block), e') := by
  have checkedKnown : Engine.run e (knownBlock block) = (.ok (), e) := by
    unfold knownBlock
    rw [run_bind, run_served]
    simp [Option.isNone_iff_eq_none, Option.isSome_iff_ne_none.mp known]
  obtain ⟨e', routed, -⟩ := run_pathFor e s.answers
  refine ⟨e', ?_⟩
  unfold canAccess Engine.routingPath
  rw [run_bind, checkedKnown]
  dsimp only
  rw [run_bind, run_bind, live]
  dsimp only
  rw [routed]
  rfl

/-- Whether a session is complete: whether every block on the routing path of its answers is
submitted. -/
theorem run_isComplete {e : Engine} {id : SessionId} {s : Session}
    (live : Engine.run e (session id) = (.ok s, e)) :
    ∃ e', Engine.run e (isComplete id) =
      (.ok (s.progress.isComplete (e.questionnaire.routingPath s.answers)), e') := by
  obtain ⟨e', routed, -⟩ := run_pathFor e s.answers
  refine ⟨e', ?_⟩
  unfold isComplete
  rw [run_bind, live]
  dsimp only
  rw [run_bind, routed]
  rfl

end Engine

end Survey
