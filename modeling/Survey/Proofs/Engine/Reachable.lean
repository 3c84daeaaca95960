import Mathlib
import Survey.Proofs.Engine.Sorted
import Survey.Proofs.Engine.Quiet
import Survey.Proofs.Engine.Failure
import Survey.Proofs.Engine.Sessions
import Survey.Proofs.Engine.Frame

/-!
# Engines reachable by a run of operations

A caller drives an engine by operations on its sessions: start, resume, close, edit, blur and
submit (`Engine.Operation`). Each leaves an engine, whether it succeeds or fails, and the engines
reachable from a starting one are those a finite run of operations leaves (`Engine.Reachable`).
An invariant of reachable engines is proved by showing that every operation keeps it.

* No operation changes the questionnaire served or the engine's settings
  (`Engine.Operation.apply_serves`).
* `Engine.Holds P e`: every live session has `P`, and every stored snapshot is the text of one
  of a session that has `P`. Starting, closing and failing keep it for every `P`; resuming keeps
  it for every `P` that implies the session is sorted and survives losing the drafts, since a
  resumed session is then the stored one without its drafts (`Engine.Holds.resume`).
* `Engine.Reachable.sorted`: **the engine keeps every session sorted**, live or stored.
-/

namespace Survey

namespace Engine

variable {α β : Type}

/-! ### The questionnaire served stays -/

/-- Two engines serving the same questionnaire with the same settings. -/
def Serves (e e' : Engine) : Prop := e'.questionnaire = e.questionnaire ∧ e'.config = e.config

theorem Serves.refl (e : Engine) : Serves e e := ⟨rfl, rfl⟩

theorem Serves.trans {e e1 e2 : Engine} (first : Serves e e1) (second : Serves e1 e2) :
    Serves e e2 :=
  ⟨second.1.trans first.1, second.2.trans first.2⟩

theorem LogOnly.serves {e e' : Engine} (only : LogOnly e e') : Serves e e' :=
  ⟨only.questionnaire_eq, only.config_eq⟩

/-- Whatever its outcome, the operation keeps the questionnaire served and the settings. -/
def KeepsServed (op : EngineM α) : Prop := ∀ e, Serves e (Engine.run e op).2

namespace KeepsServed

theorem of_quiet {op : EngineM α} (quiet : Quiet op) : KeepsServed op := fun e =>
  (quiet e).serves

theorem bind {x : EngineM α} {f : α → EngineM β} (first : KeepsServed x)
    (rest : ∀ a, KeepsServed (f a)) : KeepsServed (x >>= f) := by
  intro e
  rw [run_bind]
  rcases ran : Engine.run e x with ⟨r, e1⟩
  have kept : Serves e e1 := by simpa [ran] using first e
  cases r with
  | ok a => exact kept.trans (rest a e1)
  | error err => exact kept

theorem putSession (id : SessionId) (s : Session) : KeepsServed (putSession id s) := by
  intro e
  obtain ⟨sessions, put, -⟩ := run_putSession e id s
  rw [put]
  exact Serves.refl e

theorem commitSession (id : SessionId) (s : Session) : KeepsServed (commitSession id s) := by
  intro e
  unfold Engine.commitSession
  rw [run_bind, run_get]
  dsimp only
  split
  · exact Serves.refl e
  · rw [run_bind, run_emit]
    exact (LogOnly.of_emit e _).serves

end KeepsServed

theorem keepsServed_freshId : KeepsServed freshId := by
  intro e
  unfold freshId
  simp only [run_bind, run_get, run_set, run_pure]
  exact ⟨rfl, rfl⟩

theorem keepsServed_startSession : KeepsServed startSession := by
  unfold startSession
  exact KeepsServed.bind keepsServed_freshId fun _ =>
    KeepsServed.bind (KeepsServed.commitSession _ _) fun _ =>
      KeepsServed.bind (KeepsServed.putSession _ _) fun _ =>
        KeepsServed.bind (.of_quiet (Quiet.emit _)) fun _ => .of_quiet (Quiet.pure _)

theorem keepsServed_resumeSession (id : SessionId) : KeepsServed (resumeSession id) := by
  unfold resumeSession
  refine KeepsServed.bind (.of_quiet Quiet.get) fun e => ?_
  dsimp only
  split
  · exact .of_quiet (Quiet.throw_bind _ _)
  · exact .of_quiet (Quiet.throw_bind _ _)
  · refine KeepsServed.bind (.of_quiet (Quiet.pure _)) fun snapshot => ?_
    have put : KeepsServed (putSession id snapshot.session >>= fun _ => emit (.resumed id)) :=
      KeepsServed.bind (KeepsServed.putSession _ _) fun _ => .of_quiet (Quiet.emit _)
    split
    · exact .of_quiet (Quiet.throw_bind _ _)
    · split
      · exact .of_quiet (Quiet.throw_bind _ _)
      · exact put

theorem keepsServed_closeSession (id : SessionId) : KeepsServed (closeSession id) := by
  unfold closeSession
  refine KeepsServed.bind (.of_quiet (quiet_session id)) fun _ => ?_
  refine KeepsServed.bind (fun e => Serves.refl e) fun _ => ?_
  -- The store is read, then written back with the snapshot removed.
  intro e
  rw [run_bind, run_get]
  dsimp only
  split
  · rw [run_bind, run_throw]
    exact Serves.refl e
  · simp only [run_bind, run_set, run_emit]
    exact ⟨rfl, rfl⟩

theorem keepsServed_edit (id : SessionId) (slot : SlotId) (change : Edit) (phase : EditPhase) :
    KeepsServed (edit id slot change phase) := by
  unfold edit
  refine KeepsServed.bind (.of_quiet (quiet_session id)) fun s => ?_
  refine KeepsServed.bind (.of_quiet (quiet_editableQuestion s slot)) fun _ => ?_
  refine KeepsServed.bind (.of_quiet Quiet.get) fun _ => ?_
  refine KeepsServed.bind (.of_quiet (quiet_enforce _ _ _ _ _)) fun _ => ?_
  -- The session is put live last, reopened first or not.
  have put : ∀ s' (r : Applied), KeepsServed (putSession id s' >>= fun _ => pure r) := fun s' r =>
    KeepsServed.bind (KeepsServed.putSession _ _) fun _ => .of_quiet (Quiet.pure _)
  dsimp only
  split
  · exact KeepsServed.bind (.of_quiet (quiet_reopen _ _ _)) fun s' => put s' _
  · exact KeepsServed.bind (.of_quiet (Quiet.pure _)) fun s' => put s' _

theorem keepsServed_blur (id : SessionId) (slot : SlotId) : KeepsServed (blur id slot) := by
  unfold blur
  refine KeepsServed.bind (.of_quiet (quiet_session id)) fun s => ?_
  refine KeepsServed.bind (.of_quiet (quiet_editableQuestion s slot)) fun _ => ?_
  refine KeepsServed.bind (.of_quiet (quiet_commitDraft _ _ _)) fun _ => ?_
  -- The session is put live last, reopened first or not.
  have put : ∀ s' (r : Option Applied), KeepsServed (putSession id s' >>= fun _ => pure r) := fun s' r =>
    KeepsServed.bind (KeepsServed.putSession _ _) fun _ => .of_quiet (Quiet.pure _)
  dsimp only
  split
  · exact KeepsServed.bind (.of_quiet (quiet_reopen _ _ _)) fun s' => put s' _
  · exact KeepsServed.bind (.of_quiet (Quiet.pure _)) fun s' => put s' _

theorem keepsServed_submitBlock (id : SessionId) (block : BlockId) (edits : Entries Edit) :
    KeepsServed (submitBlock id block edits) := by
  unfold submitBlock
  refine KeepsServed.bind (.of_quiet (quiet_session id)) fun live => ?_
  refine KeepsServed.bind (.of_quiet Quiet.served) fun q => ?_
  dsimp only
  split
  · refine KeepsServed.bind (.of_quiet (Quiet.pure _)) fun b => ?_
    refine KeepsServed.bind (.of_quiet (quiet_pathFor _)) fun shown => ?_
    split
    · exact .of_quiet (Quiet.throw_bind _ _)
    refine KeepsServed.bind (.of_quiet (Quiet.emit _)) fun _ => ?_
    refine KeepsServed.bind (.of_quiet (quiet_applyEdits _ _ _ _)) fun working => ?_
    refine KeepsServed.bind (.of_quiet (quiet_pathFor _)) fun path => ?_
    refine KeepsServed.bind (.of_quiet (quiet_validate _ _ _ _)) fun ⟨errors, validated⟩ => ?_
    dsimp only
    split
    · exact KeepsServed.bind (.of_quiet (Quiet.emit _)) fun _ =>
        KeepsServed.bind (KeepsServed.putSession _ _) fun _ => .of_quiet (Quiet.pure _)
    · refine KeepsServed.bind (.of_quiet (quiet_invalidateSkipped _ _)) fun final => ?_
      exact KeepsServed.bind (KeepsServed.commitSession _ _) fun _ =>
        KeepsServed.bind (KeepsServed.putSession _ _) fun _ =>
          KeepsServed.bind (.of_quiet (Quiet.emit _)) fun _ => .of_quiet (Quiet.pure _)
  · exact .of_quiet (Quiet.throw_bind _ _)

/-! ### Operations and the engines they reach -/

/-- An operation a caller runs on an engine that may change its sessions or its store. -/
inductive Operation where
  | start
  | resume (id : SessionId)
  | close (id : SessionId)
  | edit (id : SessionId) (slot : SlotId) (change : Edit) (phase : EditPhase)
  | blur (id : SessionId) (slot : SlotId)
  | submit (id : SessionId) (block : BlockId) (edits : Entries Edit)

/-- The engine an operation leaves, whether it succeeds or fails. -/
def Operation.apply (e : Engine) : Operation → Engine
  | .start => (Engine.run e startSession).2
  | .resume id => (Engine.run e (resumeSession id)).2
  | .close id => (Engine.run e (closeSession id)).2
  | .edit id slot change phase => (Engine.run e (Engine.edit id slot change phase)).2
  | .blur id slot => (Engine.run e (Engine.blur id slot)).2
  | .submit id block edits => (Engine.run e (submitBlock id block edits)).2

/-- No operation changes the questionnaire served or the settings. -/
theorem Operation.apply_serves (e : Engine) : ∀ op : Operation, Serves e (op.apply e)
  | .start => keepsServed_startSession e
  | .resume id => keepsServed_resumeSession id e
  | .close id => keepsServed_closeSession id e
  | .edit id slot change phase => keepsServed_edit id slot change phase e
  | .blur id slot => keepsServed_blur id slot e
  | .submit id block edits => keepsServed_submitBlock id block edits e

/-- The engines a run of operations reaches from `start`. -/
inductive Reachable (start : Engine) : Engine → Prop
  | refl : Reachable start start
  | step {e : Engine} (op : Operation) : Reachable start e → Reachable start (op.apply e)

theorem Reachable.serves {start e : Engine} (reached : Reachable start e) : Serves start e := by
  induction reached with
  | refl => exact Serves.refl start
  | step op _ ih => exact ih.trans (op.apply_serves _)

/-- **Induction along a run**, stated once: what every operation keeps on an engine serving `q`
holds of every engine a run reaches from one where it holds. The questionnaire is carried from
`start` by `Reachable.serves`, so an invariant may rest on facts about `q` alone. -/
theorem Reachable.of_keeps {q : Questionnaire} {P : Engine → Prop} {start e : Engine}
    (reached : Reachable start e) (served : start.questionnaire = q) (initial : P start)
    (keeps : ∀ {e : Engine}, P e → e.questionnaire = q → ∀ op : Operation, P (op.apply e)) :
    P e := by
  induction reached with
  | refl => exact initial
  | step op reached ih => exact keeps ih (reached.serves.1.trans served) op

/-! ### Outcomes of the operations -/

/-- **A successful close** drops the session from memory and its snapshot from the store. -/
theorem run_closeSession_ok {e e' : Engine} {id : SessionId} {u : Unit}
    (ran : Engine.run e (closeSession id) = (.ok u, e')) :
    e'.sessions = withoutSession e id ∧ e.store.remove id = .ok e'.store := by
  unfold closeSession at ran
  rw [run_bind_eq_ok] at ran
  obtain ⟨s, e1, found, ran⟩ := ran
  obtain ⟨unchanged, -⟩ := run_session_ok found
  subst e1
  rw [run_bind, run_modify] at ran
  dsimp only at ran
  rw [run_bind, run_get] at ran
  dsimp only at ran
  cases removed : e.store.remove id with
  | error reason =>
    simp only [removed, run_bind, run_throw] at ran
    simp at ran
  | ok store =>
    simp only [removed, run_bind, run_set, run_emit, Prod.mk.injEq] at ran
    obtain ⟨-, rfl⟩ := ran
    exact ⟨rfl, rfl⟩

/-! ### Invariants of sessions, live and stored -/

theorem mem_committed {snapshots : List (SessionId × String)} {id : SessionId} {text : String}
    {p : SessionId × String} (member : p ∈ SnapshotStore.committed snapshots id text) :
    p ∈ snapshots ∨ p.2 = text := by
  unfold SnapshotStore.committed at member
  exact mem_replaceOrAppend member

/-- Every live session has `P`, and every stored snapshot is the text of the snapshot of a
session that has `P`. -/
structure Holds (P : Session → Prop) (e : Engine) : Prop where
  live : ∀ p ∈ e.sessions, P p.2
  stored : ∀ p ∈ e.store.snapshots, ∃ s questionnaire, P s ∧
    p.2 = (SessionSnapshot.ofSession questionnaire s).toText

namespace Holds

variable {P : Session → Prop} {e e' : Engine}

theorem of_unchanged (holds : Holds P e) (same : Unchanged e e') : Holds P e' := by
  obtain ⟨sessions, store⟩ := same
  exact ⟨sessions ▸ holds.live, store ▸ holds.stored⟩

theorem of_logOnly (holds : Holds P e) (only : LogOnly e e') : Holds P e' :=
  holds.of_unchanged only.unchanged

theorem putSession (holds : Holds P e) {id : SessionId} {s : Session} (good : P s)
    (put : Engine.run e (Engine.putSession id s) = (.ok (), e')) : Holds P e' := by
  obtain ⟨sessions, put', -⟩ := run_putSession e id s
  have placed : (Engine.run e (Engine.putSession id s)).2 = e' := by rw [put]
  refine ⟨fun p member => ?_, ?_⟩
  · rw [← placed] at member
    rcases mem_putSession member with old | new
    · exact holds.live p old
    · exact new ▸ good
  · rw [← placed, put']
    exact holds.stored

/-- Committing a session that has `P` keeps the store's snapshots those of sessions with `P`. -/
theorem commit (holds : Holds P e) {id : SessionId} {questionnaire : String} {s : Session}
    {store : SnapshotStore} (good : P s)
    (committed : e.store.commit id (.ofSession questionnaire s) = .ok store) :
    Holds P { e with store } := by
  obtain ⟨-, rfl⟩ := SnapshotStore.commit_eq_ok.mp committed
  refine ⟨holds.live, fun p member => ?_⟩
  rcases mem_committed member with old | new
  · exact holds.stored p old
  · exact ⟨s, questionnaire, good, new⟩

/-- What a store that holds only texts of snapshots of sessions with `P` loads: when `P` implies
a sorted session and survives losing the drafts, a session with `P`. -/
theorem load (holds : Holds P e) (dropDrafts : ∀ s, P s → P { s with drafts := [] })
    (sorted : ∀ s, P s → s.Sorted) {id : SessionId} {snapshot : SessionSnapshot}
    (loaded : e.store.load id = .ok (some snapshot)) : P snapshot.session := by
  unfold SnapshotStore.load at loaded
  split at loaded
  · cases loaded
  split at loaded
  · cases loaded
  next pair text found =>
  obtain ⟨s, questionnaire, good, rfl⟩ := holds.stored _ (List.mem_of_find?_eq_some found)
  obtain ⟨decoded, decodedOk, same⟩ := except_map_eq_ok.mp loaded
  cases same
  obtain ⟨-, rfl⟩ := (SessionSnapshot.decodeText_toText (.ofSession questionnaire s) (sorted s good)
    (show snapshotVersion ≤ Nat.pow 2 32 - 1 by decide) snapshot).mp decodedOk
  exact dropDrafts s good

end Holds

/-! ### What every operation keeps -/

namespace Holds

variable {P : Session → Prop} {e : Engine}

theorem live_mem {e' : Engine} {id : SessionId} {s : Session}
    (found : Engine.run e (session id) = (.ok s, e')) : ∃ key, (key, s) ∈ e.sessions := by
  obtain ⟨-, key, found⟩ := run_session_ok found
  exact ⟨key, List.mem_of_find?_eq_some found⟩

theorem of_error {α : Type} {op : EngineM α} (holds : Holds P e) (quiet : FailsQuietly op)
    {err : EngineError} {e' : Engine} (ran : Engine.run e op = (.error err, e')) : Holds P e' :=
  holds.of_unchanged (quiet.unchanged ran)

/-- **Starting a session** keeps an invariant that the empty session has. -/
theorem start (holds : Holds P e) (empty : P Session.empty) : Holds P (Operation.start.apply e) := by
  show Holds P (Engine.run e startSession).2
  rcases ran : Engine.run e startSession with ⟨r, e'⟩
  cases r with
  | ok id =>
    obtain ⟨-, store, e1, committed, put, only⟩ := run_startSession_ok ran
    have stored : Holds P { e with nextSerial := e.nextSerial + 1, store } :=
      (holds.commit empty committed).of_unchanged ⟨rfl, rfl⟩
    exact (stored.putSession empty put).of_logOnly only
  | error err => exact holds.of_unchanged (run_startSession_error ran).1

/-- **Resuming a session** keeps an invariant that implies a sorted session and survives losing
the drafts: the session put live is a stored one without its drafts. -/
theorem resume (holds : Holds P e) (dropDrafts : ∀ s, P s → P { s with drafts := [] })
    (sorted : ∀ s, P s → s.Sorted) (id : SessionId) : Holds P ((Operation.resume id).apply e) := by
  show Holds P (Engine.run e (resumeSession id)).2
  rcases ran : Engine.run e (resumeSession id) with ⟨r, e'⟩
  cases r with
  | ok u =>
    obtain ⟨snapshot, loaded, -, -, e1, put, only⟩ := run_resumeSession_ok ran
    exact (holds.putSession (holds.load dropDrafts sorted loaded) put).of_logOnly only
  | error err => exact holds.of_error (resumeSession_failsQuietly id) ran

/-- **Closing a session** keeps every invariant: it only drops a session and a snapshot. -/
theorem close (holds : Holds P e) (id : SessionId) : Holds P ((Operation.close id).apply e) := by
  show Holds P (Engine.run e (closeSession id)).2
  have dropped : ∀ p ∈ withoutSession e id, P p.2 := fun p member =>
    holds.live p (List.mem_of_mem_filter member)
  rcases ran : Engine.run e (closeSession id) with ⟨r, e'⟩
  cases r with
  | ok u =>
    obtain ⟨sessions, removed⟩ := run_closeSession_ok ran
    unfold SnapshotStore.remove at removed
    split at removed
    · cases removed
    · rw [Except.ok.injEq] at removed
      refine ⟨sessions ▸ dropped, fun p member => holds.stored p ?_⟩
      rw [← removed] at member
      exact List.mem_of_mem_filter member
  | error err =>
    rcases run_closeSession_error ran with ⟨-, rfl⟩ | ⟨-, -, -, sessions, store⟩
    · exact holds
    · exact ⟨sessions ▸ dropped, store ▸ holds.stored⟩

end Holds

/-! ### The engine keeps sessions sorted -/

end Engine

namespace Session

theorem sorted_empty : Session.empty.Sorted :=
  ⟨⟨List.Pairwise.nil, List.Pairwise.nil⟩, List.Pairwise.nil, List.Pairwise.nil⟩

/-- Drafts are not part of what is kept sorted, so a resumed session, which has none, is sorted
as its snapshot was. -/
theorem Sorted.dropDrafts {s : Session} (sorted : s.Sorted) : { s with drafts := [] }.Sorted :=
  ⟨sorted.answers, sorted.totals, sorted.progress⟩

theorem Sorted.editedSession {s : Session} {entry : Entry} (sorted : s.Sorted)
    (answers : entry.answers.Sorted) (block : BlockId) (reopened : Bool) :
    (Engine.editedSession s entry block reopened).Sorted := by
  unfold Engine.editedSession
  split
  · exact (sorted.withEntry answers).forget block
  · exact sorted.withEntry answers

end Session

namespace Engine

namespace Holds

variable {e : Engine}

theorem edit_sorted (holds : Holds Session.Sorted e) (id : SessionId) (slot : SlotId)
    (change : Edit) (phase : EditPhase) :
    Holds Session.Sorted ((Operation.edit id slot change phase).apply e) := by
  show Holds Session.Sorted (Engine.run e (Engine.edit id slot change phase)).2
  rcases ran : Engine.run e (Engine.edit id slot change phase) with ⟨r, e'⟩
  cases r with
  | ok applied =>
    obtain ⟨s, b, question, entry, found, -, -, -, edited, e1, only, put⟩ := run_edit_ok ran
    obtain ⟨key, live⟩ := live_mem found
    have sorted : s.Sorted := holds.live _ live
    exact (holds.of_logOnly only).putSession
      (sorted.editedSession (Question.applyEdit_sorted edited sorted.answers) _ _) put
  | error err => exact holds.of_error (edit_failsQuietly id slot change phase) ran

theorem blur_sorted (holds : Holds Session.Sorted e) (id : SessionId) (slot : SlotId) :
    Holds Session.Sorted ((Operation.blur id slot).apply e) := by
  show Holds Session.Sorted (Engine.run e (Engine.blur id slot)).2
  rcases ran : Engine.run e (Engine.blur id slot) with ⟨r, e'⟩
  cases r with
  | ok applied =>
    obtain ⟨s, b, question, entry, found, -, -, -, committed, e1, only, put⟩ := run_blur_ok ran
    obtain ⟨key, live⟩ := live_mem found
    have sorted : s.Sorted := holds.live _ live
    exact (holds.of_logOnly only).putSession
      (sorted.editedSession (Question.commitDraft_sorted committed sorted.answers) _ _) put
  | error err => exact holds.of_error (blur_failsQuietly id slot) ran

theorem submit_sorted (holds : Holds Session.Sorted e) (id : SessionId) (block : BlockId)
    (edits : Entries Edit) : Holds Session.Sorted ((Operation.submit id block edits).apply e) := by
  show Holds Session.Sorted (Engine.run e (submitBlock id block edits)).2
  rcases ran : Engine.run e (submitBlock id block edits) with ⟨r, e'⟩
  cases r with
  | ok result =>
    obtain ⟨live, b, edited, found, -, -, ⟨e1, e2, -, applied⟩, outcome⟩ :=
      run_submitBlock_cases ran
    obtain ⟨key, member⟩ := live_mem found
    -- The edited session is sorted, and so is what validation records in it.
    have validated : (validatedSession e.questionnaire b edited).Sorted :=
      (run_applyEdits_sorted applied (holds.live _ member)).recordTotals _ _
    rcases outcome with ⟨-, -, e3, only, put⟩ | ⟨-, -, store, e3, e4, committed, only, put, only'⟩
    · exact (holds.of_logOnly only).putSession (validated.forget block) put
    · have final := (validated.markSubmitted block).wipeAll e.config
        (e.questionnaire.routingPath (validatedSession e.questionnaire b edited).answers)
        e.questionnaire.blocks
      have stored : Holds Session.Sorted { e3 with store } :=
        (holds.commit final committed).of_unchanged ⟨only.sessions_eq, rfl⟩
      exact (stored.putSession final put).of_logOnly only'
  | error err => exact holds.of_error (submitBlock_failsQuietly id block edits) ran

end Holds

/-- Every operation keeps every session sorted, live or stored. -/
theorem Operation.apply_sorted {e : Engine} (holds : Holds Session.Sorted e) :
    ∀ op : Operation, Holds Session.Sorted (op.apply e)
  | .start => holds.start Session.sorted_empty
  | .resume id => holds.resume (fun _ sorted => sorted.dropDrafts) (fun _ sorted => sorted) id
  | .close id => holds.close id
  | .edit id slot change phase => holds.edit_sorted id slot change phase
  | .blur id slot => holds.blur_sorted id slot
  | .submit id block edits => holds.submit_sorted id block edits

/-- **The engine keeps every session sorted**, live or stored, along every run that starts from
sorted sessions. -/
theorem Reachable.sorted {start e : Engine} (reached : Reachable start e)
    (initial : Holds Session.Sorted start) : Holds Session.Sorted e :=
  reached.of_keeps rfl initial fun holds _ => Operation.apply_sorted holds

/-! ### Snapshots of reachable sessions -/

theorem holds_create {P : Session → Prop} {q : Questionnaire} {config : EngineConfig}
    {store : SnapshotStore} (fresh : store.snapshots = []) : Holds P (create q config store) :=
  ⟨fun p member => by simp [create] at member, fun p member => by simp [create, fresh] at member⟩

/-- **A reachable session's snapshot reads back exactly when its numbers fit.** On every engine
a run of operations reaches from a fresh one, the snapshot of every live session decodes from its
text exactly when every number of the session fits the decoder's bounds, and then gives back the
current version, the questionnaire's id and the session without its drafts; and a store that
does not refuse loads gives that back after committing the snapshot exactly then. -/
theorem snapshot_readsBack_iff_fits {q : Questionnaire} {config : EngineConfig}
    {store : SnapshotStore} {e : Engine} (fresh : store.snapshots = [])
    (reached : Reachable (create q config store) e) {id : SessionId} {s : Session}
    (live : (id, s) ∈ e.sessions) :
    (∀ y, decodeText SessionSnapshot.decoder (SessionSnapshot.ofSession q.id s).toText = .ok y ↔
      s.Fits ∧ y = .ofSession q.id { s with drafts := [] }) ∧
    ∀ target target' : SnapshotStore, target.failLoad = false →
      target.commit id (.ofSession q.id s) = .ok target' →
      (target'.load id = .ok (some (.ofSession q.id { s with drafts := [] })) ↔ s.Fits) := by
  have sorted : s.Sorted := (reached.sorted (holds_create fresh)).live _ live
  refine ⟨fun y => ?_, fun target target' reliable committed => ?_⟩
  · exact SessionSnapshot.decodeText_toText (.ofSession q.id s) sorted
      (show snapshotVersion ≤ Nat.pow 2 32 - 1 by decide) y
  · exact (SnapshotStore.load_ofSession_commit sorted reliable committed).1

/-- The bundled total-breakdown questionnaire, served with the default settings from an empty
store. -/
def breakdownEngine : Engine :=
  create (Catalog.totalBreakdown.checked ["percentage-1", "percentage-2", "percentage-3",
    "percentage-4"]) EngineConfig.default SnapshotStore.empty

/-- Percentages of 99.999999999999999999 and 0.000000000000000001: each fits the decoder's bounds,
and their total, 100 at 18 places, meets the target. -/
def breakdownPercentages : Entries Edit :=
  [("percentage-1", .set (.number ⟨99999999999999999999, 18⟩)),
   ("percentage-2", .set (.number ⟨1, 18⟩))]

/-- A session started on the breakdown, its block submitted with those percentages. -/
def breakdownSubmitted : Engine :=
  (Operation.submit ⟨0⟩ "block" breakdownPercentages).apply (Operation.start.apply breakdownEngine)

/-- The session the submission leaves live. -/
def breakdownSession : Session :=
  (breakdownSubmitted.sessions.head?.map (·.2)).getD Session.empty

theorem breakdown_reachable : Reachable breakdownEngine breakdownSubmitted :=
  .step _ (.step _ .refl)

theorem breakdownSession_live : (⟨0⟩, breakdownSession) ∈ breakdownSubmitted.sessions := by
  have sessions : breakdownSubmitted.sessions = [(⟨0⟩, breakdownSession)] := by rfl
  rw [sessions]
  exact List.mem_singleton_self _

theorem snapshot_readsBack_iff_fits_breakdown :
    SnapshotStore.empty.snapshots = [] ∧ Reachable breakdownEngine breakdownSubmitted ∧
      (⟨0⟩, breakdownSession) ∈ breakdownSubmitted.sessions ∧
      ((∀ y, decodeText SessionSnapshot.decoder
          (SessionSnapshot.ofSession "test_total_breakdown" breakdownSession).toText = .ok y ↔
        breakdownSession.Fits ∧
          y = .ofSession "test_total_breakdown" { breakdownSession with drafts := [] }) ∧
      ∀ target target' : SnapshotStore, target.failLoad = false →
        target.commit ⟨0⟩ (.ofSession "test_total_breakdown" breakdownSession) = .ok target' →
        (target'.load ⟨0⟩ =
            .ok (some (.ofSession "test_total_breakdown" { breakdownSession with drafts := [] })) ↔
          breakdownSession.Fits)) :=
  ⟨rfl, breakdown_reachable, breakdownSession_live,
    snapshot_readsBack_iff_fits rfl breakdown_reachable breakdownSession_live⟩

/-- The total the breakdown's submission records has 21 digits, one more than the decoder reads. -/
theorem breakdownSession_unfit : ¬ breakdownSession.Fits := by
  intro fits
  have totals : breakdownSession.totals.totals.map (·.2.total) = [⟨100000000000000000000, 18⟩] := by
    rfl
  have recorded : ∀ d ∈ breakdownSession.totals.totals.map (·.2.total), d.Fits := by
    intro d member
    obtain ⟨p, listed, rfl⟩ := List.mem_map.mp member
    exact (fits.2 p listed).1
  rw [totals] at recorded
  exact absurd (recorded _ List.mem_cons_self) (by decide)

/-- **The engine commits a snapshot it cannot resume**: on the bundled breakdown, a submission
whose total has 21 digits is accepted and committed, and resuming the session then fails with the
store's error. -/
theorem breakdown_resume_fails :
    Reachable breakdownEngine breakdownSubmitted ∧
      (⟨0⟩, breakdownSession) ∈ breakdownSubmitted.sessions ∧ ¬ breakdownSession.Fits ∧
      ∃ reason, Engine.run breakdownSubmitted (resumeSession ⟨0⟩) =
        (.error (.persistence reason), breakdownSubmitted) := by
  refine ⟨breakdown_reachable, breakdownSession_live, breakdownSession_unfit, ?_⟩
  have sorted : breakdownSession.Sorted :=
    (breakdown_reachable.sorted (holds_create rfl)).live _ breakdownSession_live
  -- The submission committed the session's snapshot to the empty store, and it does not decode.
  have committed : SnapshotStore.empty.commit ⟨0⟩
      (.ofSession "test_total_breakdown" breakdownSession) = .ok breakdownSubmitted.store := by
    rfl
  obtain ⟨reason, failed⟩ :=
    (SnapshotStore.load_ofSession_commit sorted rfl committed).2 breakdownSession_unfit
  refine ⟨reason, ?_⟩
  unfold resumeSession
  rw [run_bind, run_get]
  simp only [failed]
  rfl

end Engine

end Survey
