import Mathlib
import Survey.Proofs.Engine.Steps
import Survey.Proofs.Routing.Walk

/-!
# An accepted submission routes by the state it commits

`Engine.run_submitBlock_cases` takes a submission that returns apart once: the live session,
the block, the session its edits leave, and then a rejection or an acceptance, each with the
session it puts live. Every later fact about a submission starts from it.

`Engine.run_submitBlock_ok` reads off it what an accepted submission that names where to go did
(`Engine.Accepted`): the edits changed slots of the submitted block only, wiping kept every answer
of the blocks on the path of the edited answers (`Engine.acceptedSession_get?`), the next
location was chosen on that path, and the session was committed to the store before it was put
live.

With the laws of the routing path this gives **`Engine.submitBlock_routes_consistently`**: the
submitted block keeps its place and the blocks before it, the path the next location was chosen
on is the path of the answers committed, a next block is the block's successor on it or the
first block not yet submitted, the summary comes only once every block on the path is
submitted, and the store holds exactly the live session.
-/

namespace Survey

namespace Engine

/-- Where to go after a block on a path: the next block on the path, else the first block not
yet submitted, else the summary. -/
def nextAfter (path : RoutingPath) (progress : ProgressStore) (block : BlockId) : Next :=
  match path.next? block with
  | some (.block l) => .block l
  | _ =>
    match progress.firstIncomplete? path with
    | some l => .block l
    | none => .summary

/-- The session a submission validates: the edited one, with the block's totals recorded on the
view of the blocks on the route of its answers. -/
def validatedSession (q : Questionnaire) (b : Block) (edited : Session) : Session :=
  let view := q.onPath edited.answers (q.routingPath edited.answers)
  { edited with totals := recordTotals view b.calculations edited.totals }

/-- What validation finds wrong with a submission of `b` showing the questions `shown`. -/
def submissionErrors (q : Questionnaire) (b : Block) (shown : List Question) (edited : Session) :
    List ValidationError :=
  shown.flatMap (questionErrors (q.onPath edited.answers (q.routingPath edited.answers))) ++
    calculationErrors (q.onPath edited.answers (q.routingPath edited.answers)) b.calculations

/-- The session an accepted submission leaves: the block marked submitted, then the blocks that
wiping clears along the route wiped. -/
def acceptedSession (q : Questionnaire) (config : EngineConfig) (block : BlockId)
    (validated : Session) : Session :=
  q.blocks.foldl (fun s w =>
      if wipes config (q.routingPath validated.answers) w then wipeBlock s w else s)
    { validated with progress := (validated.progress.markSubmitted block).2 }

/-- The questions a block shows for a session: those chosen on the view of its route. -/
def shownQuestions (q : Questionnaire) (b : Block) (s : Session) : List Question :=
  b.questionsFor (q.onPath s.answers (q.routingPath s.answers))

/-- **A submission that returns, exactly**: the live session, the block, the session its edits
leave, and then either a rejection, which reports the errors, names no next location and puts
the validated session back live with the block not submitted, or an acceptance, which names the
next location chosen along the route of the edited answers, commits the accepted session to the
store and puts it live. -/
theorem run_submitBlock_cases {e e' : Engine} {id : SessionId} {block : BlockId}
    {edits : Entries Edit} {result : Submission}
    (ran : Engine.run e (submitBlock id block edits) = (.ok result, e')) :
    ∃ live b edited, Engine.run e (session id) = (.ok live, e) ∧
      e.questionnaire.block? block = some b ∧
      (e.questionnaire.routingPath live.answers).contains block = true ∧
      (∃ e1 e2, LogOnly e e1 ∧
        Engine.run e1 (applyEdits live b (shownQuestions e.questionnaire b live) edits) =
          (.ok edited, e2)) ∧
      ((submissionErrors e.questionnaire b (shownQuestions e.questionnaire b live) edited ≠ [] ∧
          result = ⟨submissionErrors e.questionnaire b (shownQuestions e.questionnaire b live) edited,
            none⟩ ∧
          ∃ e1, LogOnly e e1 ∧ Engine.run e1 (putSession id
            { validatedSession e.questionnaire b edited with
              progress := ((validatedSession e.questionnaire b edited).progress.forget block).2 }) =
            (.ok (), e')) ∨
        (submissionErrors e.questionnaire b (shownQuestions e.questionnaire b live) edited = [] ∧
          result = ⟨[], some (nextAfter (e.questionnaire.routingPath edited.answers)
            (acceptedSession e.questionnaire e.config block
              (validatedSession e.questionnaire b edited)).progress block)⟩ ∧
          ∃ store e1 e2, e.store.commit id (.ofSession e.questionnaire.id
              (acceptedSession e.questionnaire e.config block
                (validatedSession e.questionnaire b edited))) = .ok store ∧
            LogOnly e e1 ∧ Engine.run { e1 with store } (putSession id
              (acceptedSession e.questionnaire e.config block
                (validatedSession e.questionnaire b edited))) = (.ok (), e2) ∧
            LogOnly e2 e')) := by
  unfold submitBlock at ran
  rw [run_bind_eq_ok] at ran
  obtain ⟨live, e1, found, ran⟩ := ran
  obtain ⟨unchanged, -⟩ := run_session_ok found
  subst e1
  rw [run_bind_eq_ok] at ran
  obtain ⟨q, e2, served, ran⟩ := ran
  simp only [run_served, Prod.mk.injEq, Except.ok.injEq] at served
  obtain ⟨rfl, rfl⟩ := served
  cases defined : e.questionnaire.block? block with
  | none =>
    simp only [defined, run_bind_eq_ok, run_throw] at ran
    simp at ran
  | some b =>
  simp only [defined, pure_bind] at ran
  rw [run_bind_eq_ok] at ran
  obtain ⟨shown, e3, routedLive, ran⟩ := ran
  obtain ⟨e3', routedLive', onlyShown⟩ := run_pathFor e live.answers
  rw [routedLive', Prod.mk.injEq, Except.ok.injEq] at routedLive
  obtain ⟨rfl, rfl⟩ := routedLive
  split at ran
  · simp at ran
  next onPath =>
  rw [run_bind_eq_ok] at ran
  obtain ⟨_, e4, announced, ran⟩ := ran
  simp only [run_emit, Prod.mk.injEq] at announced
  obtain ⟨-, rfl⟩ := announced
  rw [run_bind_eq_ok] at ran
  obtain ⟨working, e5, applied, ran⟩ := ran
  rw [run_bind_eq_ok] at ran
  obtain ⟨path, e6, routedWorking, ran⟩ := ran
  rw [run_bind_eq_ok] at ran
  obtain ⟨⟨errors, validated⟩, e7, validating, ran⟩ := ran
  dsimp only at ran
  have onlyAnnounced : LogOnly e { e3' with log := e3'.log ++ [.submitting id block edits.length] } :=
    onlyShown.trans (LogOnly.of_emit _ _)
  obtain ⟨-, -, onlyApplied⟩ := run_applyEdits_ok applied
  have only5 : LogOnly e e5 := onlyAnnounced.trans onlyApplied
  obtain ⟨e6', routedWorking', onlyWorking⟩ := run_pathFor e5 working.answers
  rw [routedWorking', Prod.mk.injEq, Except.ok.injEq] at routedWorking
  obtain ⟨rfl, rfl⟩ := routedWorking
  obtain ⟨validatedAs, onlyValidated⟩ := run_validate validating
  have only6 : LogOnly e e6' := only5.trans onlyWorking
  rw [only6.questionnaire_eq, only5.questionnaire_eq] at validatedAs
  simp only [Except.ok.injEq, Prod.mk.injEq] at validatedAs
  obtain ⟨errorsAs, rfl⟩ := validatedAs
  have only7 : LogOnly e e7 := only6.trans onlyValidated
  rw [only5.questionnaire_eq] at ran
  have edits_run : ∃ e1 e2, LogOnly e e1 ∧
      Engine.run e1 (applyEdits live b (shownQuestions e.questionnaire b live) edits) =
        (.ok working, e2) := ⟨_, _, onlyAnnounced, applied⟩
  refine ⟨live, b, working, found, rfl, by simpa using onPath, edits_run, ?_⟩
  split at ran
  · next rejected =>
    -- Rejected: the block is reopened and the session put back.
    rw [run_bind_eq_ok] at ran
    obtain ⟨_, e8, reported, ran⟩ := ran
    simp only [run_emit, Prod.mk.injEq] at reported
    obtain ⟨-, rfl⟩ := reported
    rw [run_bind_eq_ok] at ran
    obtain ⟨_, e9, put, ran⟩ := ran
    simp only [run_pure, Prod.mk.injEq, Except.ok.injEq] at ran
    obtain ⟨rfl, rfl⟩ := ran
    have named : submissionErrors e.questionnaire b (shownQuestions e.questionnaire b live)
        working = errors := by
      unfold submissionErrors shownQuestions
      rw [← errorsAs]
    have found : submissionErrors e.questionnaire b (shownQuestions e.questionnaire b live)
        working ≠ [] := by
      rw [named]
      simpa using rejected
    exact .inl ⟨found, by rw [named], _, only7.trans (LogOnly.of_emit _ _), put⟩
  · next accepted =>
    -- Accepted: the block is marked, the skipped blocks wiped, and the result committed.
    rw [run_bind_eq_ok] at ran
    obtain ⟨final, e8, invalidated, ran⟩ := ran
    rw [run_bind_eq_ok] at ran
    obtain ⟨_, e9, committed, ran⟩ := ran
    rw [run_bind_eq_ok] at ran
    obtain ⟨_, e10, put, ran⟩ := ran
    rw [run_bind_eq_ok] at ran
    obtain ⟨_, e11, reported, ran⟩ := ran
    simp only [run_pure, Prod.mk.injEq, Except.ok.injEq] at ran
    obtain ⟨rfl, rfl⟩ := ran
    obtain ⟨wipedAs, onlyWiped⟩ := run_invalidateSkipped invalidated
    rw [Except.ok.injEq, only7.questionnaire_eq, only7.config_eq] at wipedAs
    subst wipedAs
    have only8 := only7.trans onlyWiped
    obtain ⟨store, storedAs, rfl⟩ := run_commitSession_ok committed
    rw [only8.questionnaire_eq, only8.store_eq] at storedAs
    simp only [run_emit, Prod.mk.injEq] at reported
    obtain ⟨-, rfl⟩ := reported
    have clean : submissionErrors e.questionnaire b (shownQuestions e.questionnaire b live)
        working = [] := by
      unfold submissionErrors shownQuestions
      rw [← errorsAs]
      simpa using accepted
    exact .inr ⟨clean, rfl, store, e8, _, storedAs, only8, put, LogOnly.of_emit _ _⟩

/-- What a successful submission of `block` that goes on to `n` did, from `e` to `e'`: the
session was `live`, the block `b`; the edits gave the answers `edited`, which differ from the
live ones on slots of the block only; the session `final` keeps the edited answers of every
slot that belongs only to blocks on their path; `n` was chosen on that path; and `final` was
committed to the store, then put live. -/
structure Accepted (e : Engine) (id : SessionId) (block : BlockId) (n : Next) (e' : Engine)
    (live : Session) (b : Block) (edited : AnswerStore) (final : Session) : Prop where
  live_eq : Engine.run e (session id) = (.ok live, e)
  found : e.questionnaire.block? block = some b
  on_path : (e.questionnaire.routingPath live.answers).contains block = true
  edited_outside : AnswerStore.SameOutside b.slotIds live.answers edited
  kept : ∀ slot, OnlyOnPath e.questionnaire (e.questionnaire.routingPath edited) slot →
    final.answers.get? slot = edited.get? slot
  chosen : n = nextAfter (e.questionnaire.routingPath edited) final.progress block
  committed : e.store.commit id (.ofSession e.questionnaire.id final) = .ok e'.store
  final_eq : Engine.run e' (session id) = (.ok final, e')
  questionnaire_eq : e'.questionnaire = e.questionnaire

/-- An accepted session keeps the answer of every slot that belongs only to blocks on the route
of the validated answers: marking the block changes no answer, and wiping clears skipped blocks
only. -/
theorem acceptedSession_get? (q : Questionnaire) (config : EngineConfig) (block : BlockId)
    (validated : Session) {slot : SlotId}
    (onlyOnPath : OnlyOnPath q (q.routingPath validated.answers) slot) :
    (acceptedSession q config block validated).answers.get? slot = validated.answers.get? slot :=
  (wipeAll_frame q config _ _ q.blocks fun _ member => member).entry.answer slot
    (not_wiped_of_onlyOnPath onlyOnPath)

/-- An accepted session keeps the mark of every block on the route of the validated answers, the
submitted block's marked: wiping forgets the marks of skipped blocks only. -/
theorem acceptedSession_isSubmitted (q : Questionnaire) (config : EngineConfig) (block : BlockId)
    (validated : Session) {blk : BlockId} (listed : (q.routingPath validated.answers).contains blk = true) :
    (acceptedSession q config block validated).progress.isSubmitted blk =
      (validated.progress.markSubmitted block).2.isSubmitted blk := by
  refine (wipeAll_frame q config _ _ q.blocks fun _ member => member).progress blk ?_
  rintro ⟨w, ⟨-, wiped⟩, rfl⟩
  simp [wipes, listed] at wiped

/-- **A successful submission that names where to go, taken apart.** -/
theorem run_submitBlock_ok {e e' : Engine} {id : SessionId} {block : BlockId}
    {edits : Entries Edit} {result : Submission} {n : Next}
    (ran : Engine.run e (submitBlock id block edits) = (.ok result, e'))
    (routed : result.next = some n) :
    ∃ live b edited final, Accepted e id block n e' live b edited final := by
  obtain ⟨live, b, edited, found, defined, onPath, ⟨e1, e2, -, applied⟩, outcome⟩ :=
    run_submitBlock_cases ran
  rcases outcome with ⟨-, rfl, -⟩ | ⟨-, rfl, store, e3, e4, committed, only, put, reported⟩
  · -- A rejection names no next location.
    simp at routed
  simp only [Option.some.injEq] at routed
  obtain ⟨editedOutside, -, -⟩ := run_applyEdits_ok applied
  -- The session put live is the one committed, and the store is left holding it.
  have live' := reported.run_session (run_session_of_put put)
  obtain ⟨sessions, putAs, -⟩ := run_putSession { e3 with store } id
    (acceptedSession e.questionnaire e.config block (validatedSession e.questionnaire b edited))
  rw [putAs, Prod.mk.injEq] at put
  obtain ⟨-, rfl⟩ := put
  refine ⟨live, b, edited.answers, _, found, defined, onPath,
    editedOutside.mono (Block.questionsFor_slotIds b _),
    fun slot onlyOnPath => acceptedSession_get? e.questionnaire e.config block
      (validatedSession e.questionnaire b edited) onlyOnPath, routed.symm, ?_, live',
    reported.questionnaire_eq.trans only.questionnaire_eq⟩
  rw [reported.store_eq]
  exact committed

end Engine

/-! ### Blocks and the slots they own -/

namespace Questionnaire

section Checked

variable {q : Questionnaire} (checked : q.Checked)
include checked

/-- On a checked questionnaire the block of an id has that id. -/
theorem Checked.block?_spec {id : BlockId} {b : Block} (found : q.block? id = some b) :
    b ∈ q.blocks ∧ b.id = id := by
  rw [checked.block?_eq_find?] at found
  exact ⟨List.mem_of_find?_eq_some found, by simpa using List.find?_some found⟩

/-- On a checked questionnaire the block of a slot declares it. -/
theorem Checked.blockOf?_spec {slot : SlotId} {b : Block} (found : q.blockOf? slot = some b) :
    b ∈ q.blocks ∧ slot ∈ b.slotIds := by
  rw [checked.blockOf?_eq_find?] at found
  exact ⟨List.mem_of_find?_eq_some found, by simpa using List.find?_some found⟩

/-- On a checked questionnaire a slot is owned by the block that declares it. -/
theorem Checked.blockOf?_of_mem {b : Block} (member : b ∈ q.blocks) {slot : SlotId}
    (declared : slot ∈ b.slotIds) : q.blockOf? slot = some b := by
  have found : (q.blockOf? slot).isSome := by
    rw [checked.blockOf?_eq_find?, List.find?_isSome]
    exact ⟨b, member, by simpa using declared⟩
  obtain ⟨owner, owned⟩ := Option.isSome_iff_exists.mp found
  obtain ⟨ownerMember, ownerDeclares⟩ := checked.blockOf?_spec owned
  rw [owned, checked.slots_apart owner ownerMember b member slot ownerDeclares declared]

/-- A slot of a block on a path belongs only to blocks on the path: no other block declares it. -/
theorem Checked.onlyOnPath_of_mem {path : RoutingPath} {b : Block} (member : b ∈ q.blocks)
    (listed : path.contains b.id = true) {slot : SlotId} (declared : slot ∈ b.slotIds) :
    Engine.OnlyOnPath q path slot := by
  intro b' member' declared'
  rw [checked.slots_apart b' member' b member slot declared' declared]
  exact listed

/-- A slot owned by a block on a path belongs only to blocks on the path. -/
theorem Checked.onlyOnPath {path : RoutingPath} {slot : SlotId} {b : Block}
    (owner : q.blockOf? slot = some b) (onPath : b.id ∈ path.blocks) :
    Engine.OnlyOnPath q path slot := by
  obtain ⟨member, declared⟩ := checked.blockOf?_spec owner
  exact checked.onlyOnPath_of_mem member ((RoutingPath.contains_iff_mem path b.id).mpr onPath) declared

/-- Stores that differ only on the slots of one block agree on every list of other blocks. -/
theorem Checked.agreeOn_of_sameOutside {b : Block} (member : b ∈ q.blocks) {A B : AnswerStore}
    (same : AnswerStore.SameOutside b.slotIds A B) {blocks : List BlockId} (absent : b.id ∉ blocks) :
    q.AgreeOn blocks A B := by
  intro slot owner owned listed
  have outside : slot ∉ b.slotIds := by
    intro declared
    rw [checked.blockOf?_of_mem member declared, Option.some.injEq] at owned
    exact absent (owned ▸ listed)
  exact (same slot outside).symm

end Checked

end Questionnaire

/-! ### Where a submission goes -/

namespace Engine

theorem firstIncomplete?_mem {progress : ProgressStore} {path : RoutingPath} {l : Location}
    (found : progress.firstIncomplete? path = some l) : l ∈ path.locations :=
  List.mem_of_find?_eq_some found

section Next

variable {path : RoutingPath} (distinct : path.blocks.Nodup) {progress : ProgressStore}
  {p : Nat} {l : Location} (at_ : path.locations[p]? = some l)
include distinct at_

/-- After a block on a path, a submission goes to the next block on the path, or, after the
last, to the first block not yet submitted. -/
theorem nextAfter_eq_block {l' : Location} (chosen : nextAfter path progress l.block = .block l') :
    path.locations[p + 1]? = some l' ∨
      (path.locations.getLast? = some l ∧ progress.firstIncomplete? path = some l') := by
  unfold nextAfter at chosen
  cases after : path.locations[p + 1]? with
  | some l'' =>
    rw [RoutingPath.next?_of_getElem? distinct at_ after] at chosen
    exact .inl (by simpa using chosen)
  | none =>
    -- The block is the last one on the path.
    have last : p + 1 = path.locations.length := by
      have := (List.getElem?_eq_some_iff.mp at_).1
      have := List.getElem?_eq_none_iff.mp after
      omega
    have ending : path.locations.getLast? = some l := by
      rw [List.getLast?_eq_getElem?, show path.locations.length - 1 = p by omega, at_]
    rw [RoutingPath.next?_of_getLast? distinct ending] at chosen
    dsimp only at chosen
    cases incomplete : progress.firstIncomplete? path with
    | none => simp [incomplete] at chosen
    | some l'' =>
      simp only [incomplete, Next.block.injEq] at chosen
      exact .inr ⟨ending, chosen ▸ rfl⟩

/-- A submission goes to the summary only when every block on the path is submitted. -/
theorem nextAfter_eq_summary (chosen : nextAfter path progress l.block = .summary) :
    progress.firstIncomplete? path = none := by
  unfold nextAfter at chosen
  cases after : path.locations[p + 1]? with
  | some l'' =>
    rw [RoutingPath.next?_of_getElem? distinct at_ after] at chosen
    simp at chosen
  | none =>
    cases incomplete : progress.firstIncomplete? path with
    | none => rfl
    | some l'' =>
      split at chosen
      · simp at chosen
      · simp [incomplete] at chosen

end Next

/-! ### An accepted submission routes by the state it commits -/

namespace Accepted

variable {e e' : Engine} {id : SessionId} {block : BlockId} {n : Next} {live : Session} {b : Block}
  {edited : AnswerStore} {final : Session}
  (checked : e.questionnaire.Checked) (acc : Accepted e id block n e' live b edited final)
include checked acc

/-- Wiping skipped blocks kept every answer of the blocks on the path of the edited answers. -/
theorem kept_on_path :
    e.questionnaire.AgreeOn (e.questionnaire.routingPath edited).blocks edited final.answers := by
  intro slot owner owned listed
  exact (acc.kept slot (checked.onlyOnPath owned listed)).symm

/-- So the committed answers route as the edited ones did. -/
theorem path_eq : e.questionnaire.routingPath final.answers = e.questionnaire.routingPath edited :=
  Questionnaire.routingPath_eq_of_agreeOn (acc.kept_on_path checked)

/-- The edits changed slots of the submitted block only, so the routes of the live and the edited
answers share their locations up to the block's, which is first met at the same position. -/
theorem opening : ∃ p l, (e.questionnaire.routingPath live.answers).locations[p]? = some l ∧
    l.block = block ∧ (e.questionnaire.routingPath edited).locations.take (p + 1) =
      (e.questionnaire.routingPath live.answers).locations.take (p + 1) := by
  obtain ⟨member, named⟩ := checked.block?_spec acc.found
  obtain ⟨p, l, at_, same, before⟩ := RoutingPath.exists_first_of_contains acc.on_path
  have agree := checked.agreeOn_of_sameOutside member acc.edited_outside (named ▸ before)
  -- The walks under both stores agree on the blocks before the submitted one.
  obtain ⟨shared, -⟩ := Questionnaire.walk_locality _ [] e.questionnaire.firstLocation p
    (Nat.zero_le _) agree
  change (e.questionnaire.routingPath live.answers).locations.take (p + 1) <+:
    (e.questionnaire.routingPath edited).locations at shared
  have bound := (List.getElem?_eq_some_iff.mp at_).1
  refine ⟨p, l, at_, same, ?_⟩
  rw [List.prefix_iff_eq_take] at shared
  rw [shared, List.length_take, Nat.min_eq_left (by omega)]

/-- A location the path of the committed answers reaches may be shown afterwards. -/
theorem canAccess_of_mem {l : Location}
    (member : l ∈ (e.questionnaire.routingPath final.answers).locations) :
    ∃ e'', Engine.run e' (canAccess id l.block) = (.ok true, e'') := by
  have known := (checked.wellFormedPath final.answers).known l member
  obtain ⟨i, at_⟩ := List.getElem?_of_mem known
  obtain ⟨b', found, -⟩ := checked.block?_of_getElem? at_
  rw [← acc.questionnaire_eq] at found
  have knownBlock : (e'.questionnaire.block? l.block).isSome := by simp [found]
  obtain ⟨e'', ran⟩ := run_canAccess acc.final_eq knownBlock
  have onPath : (e.questionnaire.routingPath final.answers).contains l.block = true :=
    (RoutingPath.contains_iff_mem _ _).mpr (List.mem_map_of_mem member)
  refine ⟨e'', ?_⟩
  rw [ran, acc.questionnaire_eq, onPath]

end Accepted

/-- What an accepted submission of `block` that goes on to `n` promises, for the live session
`live` before it, the session `final` it leaves and the answers `edited` its edits gave:
(a) the block keeps its position and the blocks before it; (b) `edited` differs from `live` only
in the block's slots, wiping kept every answer of the blocks on its path, that path is the path
of the committed answers, and `n` was chosen on it; (c) a next block may be shown, and is the
block's successor on the path or, after the last block, the first block not yet submitted;
(d) the summary comes only when the session is complete; (e) the store received exactly the
session left live. -/
structure RoutesConsistently (q : Questionnaire) (store : SnapshotStore) (e' : Engine)
    (id : SessionId) (block : BlockId) (n : Next) (live final : Session) (edited : AnswerStore) :
    Prop where
  same_place : ∃ p, (q.routingPath live.answers).position? block = some p ∧
    (q.routingPath final.answers).position? block = some p ∧
    (q.routingPath final.answers).locations.take p = (q.routingPath live.answers).locations.take p
  edited_in_block : ∀ slot, (q.blockOf? slot).map (·.id) ≠ some block →
    edited.get? slot = live.answers.get? slot
  kept_on_path : q.AgreeOn (q.routingPath edited).blocks edited final.answers
  same_path : q.routingPath final.answers = q.routingPath edited
  chosen : n = nextAfter (q.routingPath edited) final.progress block
  next_block : ∀ l, n = .block l →
    (∃ e'', Engine.run e' (canAccess id l.block) = (.ok true, e'')) ∧
    ((∃ i, ∃ h : i + 1 < (q.routingPath final.answers).locations.length,
        (q.routingPath final.answers).locations[i].block = block ∧
          (q.routingPath final.answers).locations[i + 1] = l) ∨
      ((q.routingPath final.answers).locations.getLast?.map (·.block) = some block ∧
        final.progress.firstIncomplete? (q.routingPath final.answers) = some l))
  summary_complete : n = .summary → ∃ e'', Engine.run e' (isComplete id) = (.ok true, e'')
  committed : store.commit id (.ofSession q.id final) = .ok e'.store

/-- **An accepted submission routes consistently with the state it commits**, on every
questionnaire that loading accepts and from every engine state. -/
theorem submitBlock_routes_consistently {d : QuestionnaireDefinition} {e e' : Engine}
    {id : SessionId} {block : BlockId} {edits : Entries Edit} {result : Submission} {n : Next}
    (accepted : Questionnaire.ofDefinition d = .ok e.questionnaire)
    (submitted : Engine.run e (submitBlock id block edits) = (.ok result, e'))
    (routed : result.next = some n) :
    ∃ live final edited, Engine.run e (session id) = (.ok live, e) ∧
      Engine.run e' (session id) = (.ok final, e') ∧
      RoutesConsistently e.questionnaire e.store e' id block n live final edited := by
  have checked := checked_of_ofDefinition accepted
  obtain ⟨live, b, edited, final, acc⟩ := run_submitBlock_ok submitted routed
  have samePath := acc.path_eq checked
  have distinct := (checked.wellFormedPath edited).blocks_nodup
  obtain ⟨p, l, at_, named, prefixes⟩ := acc.opening checked
  have atEdited : (e.questionnaire.routingPath edited).locations[p]? = some l := by
    have := congrArg (·[p]?) prefixes
    simpa [List.getElem?_take, at_] using this
  have position := RoutingPath.position?_of_getElem? distinct atEdited
  rw [named] at position
  -- The committed answers route the same way.
  have atFinal : (e.questionnaire.routingPath final.answers).locations[p]? = some l := by
    rw [samePath]
    exact atEdited
  have distinctFinal := (checked.wellFormedPath final.answers).blocks_nodup
  refine ⟨live, final, edited, acc.live_eq, acc.final_eq, ⟨?_, ?_, acc.kept_on_path checked, samePath,
    acc.chosen, ?_, ?_, acc.committed⟩⟩
  · -- (a) the same position, with the same blocks before it.
    refine ⟨p, ?_, samePath ▸ position, ?_⟩
    · rw [← named]
      exact RoutingPath.position?_of_getElem? (checked.wellFormedPath live.answers).blocks_nodup at_
    · rw [samePath]
      have := congrArg (·.take p) prefixes
      simpa [List.take_take] using this
  · -- (b) the edits touched the block's slots only.
    intro slot notOwned
    obtain ⟨member, id_eq⟩ := checked.block?_spec acc.found
    refine acc.edited_outside slot fun declared => notOwned ?_
    rw [checked.blockOf?_of_mem member declared, Option.map_some, id_eq]
  · -- (c) a next block is the successor, or the first block not submitted after the last.
    intro l' chosen
    rw [acc.chosen, ← named, ← samePath] at chosen
    rcases nextAfter_eq_block distinctFinal atFinal chosen with after | ⟨ending, incomplete⟩
    · have bound := (List.getElem?_eq_some_iff.mp after).1
      refine ⟨acc.canAccess_of_mem checked (List.mem_of_getElem? after), .inl ⟨p, bound, ?_, ?_⟩⟩
      · rw [(List.getElem?_eq_some_iff.mp atFinal).2, named]
      · exact (List.getElem?_eq_some_iff.mp after).2
    · exact ⟨acc.canAccess_of_mem checked (firstIncomplete?_mem incomplete),
        .inr ⟨by simp [ending, named], incomplete⟩⟩
  · -- (d) the summary only when every block on the path is submitted.
    intro chosen
    rw [acc.chosen, ← named, ← samePath] at chosen
    have incomplete := nextAfter_eq_summary distinctFinal atFinal chosen
    obtain ⟨e'', ran⟩ := run_isComplete acc.final_eq
    refine ⟨e'', ?_⟩
    rw [ran, acc.questionnaire_eq]
    simp [ProgressStore.isComplete, incomplete]

/-- The census engine with one empty session. -/
def censusEngine : Engine :=
  ⟨Catalog.censusHousehold.checked [], EngineConfig.default, SnapshotStore.empty,
    [(⟨0⟩, Session.empty)], 1, []⟩

/-- An adult's answer to the first census question. -/
def adultAnswer : Entries Edit := [("over-16-answer", .set (.choice "Yes"))]

/-- The census engine once the adult's answer is submitted. -/
def censusAfterAdult : Engine :=
  (Engine.run censusEngine (submitBlock ⟨0⟩ "over-16" adultAnswer)).2

/-- Submitting an adult's age on the census goes on to the marital status, consistently with
the state committed. -/
theorem submitBlock_routes_consistently_census :
    Questionnaire.ofDefinition Catalog.censusHousehold = .ok censusEngine.questionnaire ∧
      Engine.run censusEngine (submitBlock ⟨0⟩ "over-16" adultAnswer) =
        (.ok ⟨[], some (.block ⟨"individual-section", "marital-status"⟩)⟩, censusAfterAdult) ∧
      (⟨[], some (.block ⟨"individual-section", "marital-status"⟩)⟩ : Submission).next =
        some (.block ⟨"individual-section", "marital-status"⟩) ∧
      ∃ live final edited, Engine.run censusEngine (session ⟨0⟩) = (.ok live, censusEngine) ∧
        Engine.run censusAfterAdult (session ⟨0⟩) = (.ok final, censusAfterAdult) ∧
        RoutesConsistently censusEngine.questionnaire censusEngine.store censusAfterAdult ⟨0⟩
          "over-16" (.block ⟨"individual-section", "marital-status"⟩) live final edited :=
  have accepted : Questionnaire.ofDefinition Catalog.censusHousehold =
      .ok censusEngine.questionnaire := by rfl
  have submitted : Engine.run censusEngine (submitBlock ⟨0⟩ "over-16" adultAnswer) =
      (.ok ⟨[], some (.block ⟨"individual-section", "marital-status"⟩)⟩, censusAfterAdult) := by rfl
  ⟨accepted, submitted, rfl, submitBlock_routes_consistently accepted submitted rfl⟩

end Engine

end Survey
