import Mathlib
import Survey.Proofs.Engine.Quiet

/-!
# What an edit, a blur, a resumption and a start do

One inversion lemma per operation, for its successful runs: which session it read, which block
and question it found, what the enforcer did, and which session it put live (the only change
besides events, and for a start the store).

* `Engine.run_edit_ok`, `Engine.run_blur_ok` — an edit or a blur applies the enforcer to the
  question the block shows for the slot, on a block of the routing path, and puts the session
  back with the new answers and drafts (un-submitting the block when something was committed).
* `Engine.run_resumeSession_ok` — a resumption puts live the session the store gives back.
* `Engine.run_startSession_ok` — a start commits an empty session and puts it live.
* `Engine.mem_putSession` — putting a session live replaces the sessions of its id and keeps
  every other (`Engine.mem_replaceOrAppend`, which the store's commit shares).
-/

namespace Survey

namespace Engine

/-- Replacing the entry of an id, or appending one when there is none, leaves only the entries
there were and the new one. -/
theorem mem_replaceOrAppend {α : Type} {xs : List (SessionId × α)} {id : SessionId} {v : α}
    {p : SessionId × α}
    (member : p ∈ if xs.any (·.1 == id) then xs.map (fun (k, w) => if k == id then (k, v) else (k, w))
      else xs ++ [(id, v)]) : p ∈ xs ∨ p.2 = v := by
  split at member
  · obtain ⟨⟨k, w⟩, old, rfl⟩ := List.mem_map.mp member
    by_cases same : k = id
    · exact .inr (by simp [same])
    · exact .inl (by simpa [same] using old)
  · rcases List.mem_append.mp member with old | new
    · exact .inl old
    · exact .inr (by simp at new; simp [new])

/-- After `putSession id s`, every live session is one of before or `s`. -/
theorem mem_putSession {e : Engine} {id : SessionId} {s : Session} {p : SessionId × Session}
    (member : p ∈ (Engine.run e (putSession id s)).2.sessions) : p ∈ e.sessions ∨ p.2 = s := by
  unfold putSession at member
  rw [run_modify, apply_ite Engine.sessions] at member
  exact mem_replaceOrAppend member

/-- Finding the question of a slot reads the questionnaire and routes the answers; it reports
events only. -/
theorem run_editableQuestion_ok {e e' : Engine} {s : Session} {slot : SlotId} {b : Block}
    {question : Question} (ran : Engine.run e (editableQuestion s slot) = (.ok (b, question), e')) :
    e.questionnaire.blockOf? slot = some b ∧
      (e.questionnaire.routingPath s.answers).contains b.id = true ∧
      owningQuestion (b.questionsFor (e.questionnaire.onPath s.answers
        (e.questionnaire.routingPath s.answers))) slot = some question ∧
      LogOnly e e' := by
  unfold editableQuestion at ran
  rw [run_bind_eq_ok] at ran
  obtain ⟨q, e1, served, ran⟩ := ran
  simp only [run_served, Prod.mk.injEq, Except.ok.injEq] at served
  obtain ⟨rfl, rfl⟩ := served
  dsimp only at ran
  split at ran
  · next found =>
    rw [run_bind_eq_ok] at ran
    obtain ⟨block, e2, picked, ran⟩ := ran
    simp only [run_pure, Prod.mk.injEq, Except.ok.injEq] at picked
    obtain ⟨rfl, rfl⟩ := picked
    rw [run_bind_eq_ok] at ran
    obtain ⟨path, e3, routed, ran⟩ := ran
    obtain ⟨e3', routed', onlyRouted⟩ := run_pathFor e s.answers
    rw [routed', Prod.mk.injEq, Except.ok.injEq] at routed
    obtain ⟨rfl, rfl⟩ := routed
    split at ran
    · rw [run_bind_eq_ok, run_throw] at ran
      simp at ran
    · next onPath =>
      split at ran
      · next owner =>
        simp only [run_pure, Prod.mk.injEq, Except.ok.injEq] at ran
        obtain ⟨⟨rfl, rfl⟩, rfl⟩ := ran
        exact ⟨found, by simpa using onPath, owner, onlyRouted⟩
      · simp at ran
  · rw [run_bind_eq_ok, run_throw] at ran
    simp at ran

/-- Un-submitting a block changes the progress only. -/
theorem run_reopen (e : Engine) (id : SessionId) (s : Session) (block : BlockId) :
    ∃ e', Engine.run e (reopen id s block) = (.ok { s with progress := (s.progress.forget block).2 }, e') ∧
      LogOnly e e' := by
  unfold reopen
  dsimp only
  split
  · exact ⟨_, by rw [run_bind, run_emit]; rfl, LogOnly.of_emit e _⟩
  · exact ⟨e, rfl, LogOnly.refl e⟩

/-- The session an edit or a blur puts back: the entry's answers and drafts, and the block
un-submitted when `reopened`. -/
def editedSession (s : Session) (entry : Entry) (block : BlockId) (reopened : Bool) : Session :=
  { Session.withEntry s entry with
    progress := if reopened then (s.progress.forget block).2 else s.progress }

/-- After the enforcer's step, the session is put back, un-submitting the block when asked. -/
theorem run_putEdited {e e' : Engine} {id : SessionId} {s : Session} {entry : Entry} {b : BlockId}
    {reopened : Bool} {α : Type} {a r : α}
    (ran : Engine.run e (if reopened = true then
        reopen id (Session.withEntry s entry) b >>= fun s' => putSession id s' >>= fun _ => pure a
      else pure (Session.withEntry s entry) >>= fun s' => putSession id s' >>= fun _ => pure a) =
      (.ok r, e')) :
    r = a ∧ ∃ e1, LogOnly e e1 ∧
      Engine.run e1 (putSession id (editedSession s entry b reopened)) = (.ok (), e') := by
  -- Either way the session is put, then the result given back.
  have tail : ∀ {e1 : Engine} {s' : Session},
      Engine.run e1 (putSession id s' >>= fun _ => pure a) = (.ok r, e') →
        r = a ∧ Engine.run e1 (putSession id s') = (.ok (), e') := by
    intro e1 s' ran
    rw [run_bind_eq_ok] at ran
    obtain ⟨_, e2, put, ran⟩ := ran
    simp only [run_pure, Prod.mk.injEq, Except.ok.injEq] at ran
    obtain ⟨rfl, rfl⟩ := ran
    exact ⟨rfl, put⟩
  split at ran
  · next asked =>
    rw [run_bind_eq_ok] at ran
    obtain ⟨s', e1, reopenedRun, ran⟩ := ran
    obtain ⟨e1', reopened', only⟩ := run_reopen e id (Session.withEntry s entry) b
    rw [reopened', Prod.mk.injEq, Except.ok.injEq] at reopenedRun
    obtain ⟨rfl, rfl⟩ := reopenedRun
    obtain ⟨rfl, put⟩ := tail ran
    exact ⟨rfl, _, only, by simpa [editedSession, asked, Session.withEntry] using put⟩
  · next kept =>
    rw [run_bind, run_pure] at ran
    obtain ⟨rfl, put⟩ := tail ran
    exact ⟨rfl, e, LogOnly.refl e, by simpa [editedSession, kept, Session.withEntry] using put⟩

/-- **A successful edit**: the live session `s`, the block `b` of the slot on the routing path
of its answers, the question the block shows for the slot, the enforcer's step on it (a
keystroke counts as a commit when the engine says so), and the session put back. -/
theorem run_edit_ok {e e' : Engine} {id : SessionId} {slot : SlotId} {change : Edit}
    {phase : EditPhase} {applied : Applied}
    (ran : Engine.run e (edit id slot change phase) = (.ok applied, e')) :
    ∃ s b question entry, Engine.run e (session id) = (.ok s, e) ∧
      e.questionnaire.blockOf? slot = some b ∧
      (e.questionnaire.routingPath s.answers).contains b.id = true ∧
      owningQuestion (b.questionsFor (e.questionnaire.onPath s.answers
        (e.questionnaire.routingPath s.answers))) slot = some question ∧
      question.applyEdit slot change (if e.config.clearExclusiveOnKeystroke then .commit else phase)
        ⟨s.answers, s.drafts⟩ = .ok (applied, entry) ∧
      ∃ e1, LogOnly e e1 ∧ Engine.run e1 (putSession id (editedSession s entry b.id
        (!applied.drafted || !applied.cleared.isEmpty))) = (.ok (), e') := by
  unfold edit at ran
  rw [run_bind_eq_ok] at ran
  obtain ⟨s, e1, live, ran⟩ := ran
  obtain ⟨rfl, -⟩ := run_session_ok live
  rw [run_bind_eq_ok] at ran
  obtain ⟨⟨b, question⟩, e2, found, ran⟩ := ran
  obtain ⟨slotBlock, onPath, owner, only2⟩ := run_editableQuestion_ok found
  rw [run_bind_eq_ok] at ran
  obtain ⟨e3, e3', got, ran⟩ := ran
  simp only [run_get, Prod.mk.injEq, Except.ok.injEq] at got
  obtain ⟨rfl, rfl⟩ := got
  rw [run_bind_eq_ok] at ran
  obtain ⟨⟨applied', entry⟩, e4, enforced, ran⟩ := ran
  obtain ⟨edited, only4⟩ := run_enforce_ok enforced
  dsimp only at ran
  obtain ⟨rfl, e5, only5, put⟩ := run_putEdited ran
  rw [only2.config_eq] at edited
  exact ⟨s, b, question, entry, live, slotBlock, onPath, owner, edited, e5,
    only2.trans (only4.trans only5), put⟩

/-- **A successful blur**: the live session, the block of the slot on its routing path, the
question shown for the slot, the commit of the slot's draft, and the session put back. -/
theorem run_blur_ok {e e' : Engine} {id : SessionId} {slot : SlotId} {applied : Option Applied}
    (ran : Engine.run e (blur id slot) = (.ok applied, e')) :
    ∃ s b question entry, Engine.run e (session id) = (.ok s, e) ∧
      e.questionnaire.blockOf? slot = some b ∧
      (e.questionnaire.routingPath s.answers).contains b.id = true ∧
      owningQuestion (b.questionsFor (e.questionnaire.onPath s.answers
        (e.questionnaire.routingPath s.answers))) slot = some question ∧
      question.commitDraft slot ⟨s.answers, s.drafts⟩ = .ok (applied, entry) ∧
      ∃ e1, LogOnly e e1 ∧
        Engine.run e1 (putSession id (editedSession s entry b.id applied.isSome)) = (.ok (), e') := by
  unfold blur at ran
  rw [run_bind_eq_ok] at ran
  obtain ⟨s, e1, live, ran⟩ := ran
  obtain ⟨rfl, -⟩ := run_session_ok live
  rw [run_bind_eq_ok] at ran
  obtain ⟨⟨b, question⟩, e2, found, ran⟩ := ran
  obtain ⟨slotBlock, onPath, owner, only2⟩ := run_editableQuestion_ok found
  rw [run_bind_eq_ok] at ran
  obtain ⟨⟨applied', entry⟩, e3, committed, ran⟩ := ran
  obtain ⟨draftCommitted, only3⟩ := run_commitDraft_eq committed
  dsimp only at ran
  obtain ⟨rfl, e4, only4, put⟩ := run_putEdited ran
  exact ⟨s, b, question, entry, live, slotBlock, onPath, owner, draftCommitted, e4,
    only2.trans (only3.trans only4), put⟩

/-- **A successful resumption** puts live the session of the snapshot the store gives back, of
the current format and for the questionnaire served. -/
theorem run_resumeSession_ok {e e' : Engine} {id : SessionId} {u : Unit}
    (ran : Engine.run e (resumeSession id) = (.ok u, e')) :
    ∃ snapshot, e.store.load id = .ok (some snapshot) ∧ snapshot.version = snapshotVersion ∧
      snapshot.questionnaire = e.questionnaire.id ∧
      ∃ e1, Engine.run e (putSession id snapshot.session) = (.ok (), e1) ∧ LogOnly e1 e' := by
  unfold resumeSession at ran
  rw [run_bind_eq_ok] at ran
  obtain ⟨e1, e1', got, ran⟩ := ran
  simp only [run_get, Prod.mk.injEq, Except.ok.injEq] at got
  obtain ⟨rfl, rfl⟩ := got
  dsimp only at ran
  split at ran
  · rw [run_bind_eq_ok, run_throw] at ran
    simp at ran
  · rw [run_bind_eq_ok, run_throw] at ran
    simp at ran
  · next snapshot loaded =>
    rw [run_bind_eq_ok] at ran
    obtain ⟨snapshot', e2, picked, ran⟩ := ran
    simp only [run_pure, Prod.mk.injEq, Except.ok.injEq] at picked
    obtain ⟨rfl, rfl⟩ := picked
    split at ran
    · rw [run_bind_eq_ok, run_throw] at ran
      simp at ran
    · next current =>
      split at ran
      · rw [run_bind_eq_ok, run_throw] at ran
        simp at ran
      · next matching =>
        rw [run_bind_eq_ok] at ran
        obtain ⟨_, e2, put, ran⟩ := ran
        simp only [run_emit, Prod.mk.injEq] at ran
        obtain ⟨-, rfl⟩ := ran
        exact ⟨snapshot, loaded, by simpa using current, by simpa using matching, e2, put,
          LogOnly.of_emit e2 _⟩

/-- **A successful start** hands out the next serial, commits an empty session under it, and
puts that session live. -/
theorem run_startSession_ok {e e' : Engine} {id : SessionId}
    (ran : Engine.run e startSession = (.ok id, e')) :
    id = ⟨e.nextSerial⟩ ∧ ∃ store e1,
      e.store.commit id (.ofSession e.questionnaire.id .empty) = .ok store ∧
      Engine.run { e with nextSerial := e.nextSerial + 1, store } (putSession id .empty) =
        (.ok (), e1) ∧ LogOnly e1 e' := by
  unfold startSession at ran
  rw [run_bind_eq_ok] at ran
  obtain ⟨fresh, e1, handed, ran⟩ := ran
  unfold freshId at handed
  simp only [run_bind, run_get, run_set, run_pure, Prod.mk.injEq, Except.ok.injEq] at handed
  obtain ⟨rfl, rfl⟩ := handed
  rw [run_bind_eq_ok] at ran
  obtain ⟨_, e2, committed, ran⟩ := ran
  obtain ⟨store, storedAs, rfl⟩ := run_commitSession_ok committed
  rw [run_bind_eq_ok] at ran
  obtain ⟨_, e3, put, ran⟩ := ran
  rw [run_bind_eq_ok] at ran
  obtain ⟨_, e4, reported, ran⟩ := ran
  simp only [run_emit, Prod.mk.injEq] at reported
  obtain ⟨-, rfl⟩ := reported
  simp only [run_pure, Prod.mk.injEq, Except.ok.injEq] at ran
  obtain ⟨rfl, rfl⟩ := ran
  exact ⟨rfl, store, e3, storedAs, put, LogOnly.of_emit e3 _⟩

end Engine

end Survey
