import Mathlib
import Survey.Proofs.Engine.Reachable
import Survey.Engine.Script

/-!
# A scripted run follows the routing path

A script submits the block the engine routes to, from the first block on, until the summary
(`Script.runIn`). An accepted submission keeps the route up to the submitted block and every
mark along it, marks the block, and names the next block of the route, or after its last block
the first one not yet submitted. A run that has submitted the opening of the route therefore
never meets a block twice and never needs the fallback:

* `Engine.run_submitBlock_marks` — an accepted submission marks its block and keeps the marks of
  every other block of the route it leaves;
* `Engine.nextAfter_of_opening` — after a submitted opening of a route, the next location named
  is the one that follows it, or the summary when the opening is the whole route;
* `Engine.run_submitBlock_advances` — an accepted submission of the block after a submitted
  opening of the route leaves that opening, the block included, submitted at the start of the
  new route, and so names the block after it on that route, or the summary when it was the last;
* `Script.OnTrack` — before each submission, the blocks visited and the current one open the
  route of the live session, and the visited ones are all submitted;
* `Script.runFrom_follows` — from a run on track, the script submits distinct blocks of the
  route one after the other, never comes back to a block, and when it reaches the summary the
  blocks visited are the whole route, each submitted;
* **`Script.runIn_follows_path`** — so a run in any session, from the first block, makes at most
  as many submissions as there are blocks, never stalls, and when it completes has visited exactly
  the routing path of the final answers, every block of it submitted.
-/

namespace Survey

namespace Engine

/-! ### What an accepted submission leaves on the route -/

/-- The live session of an id is one session. -/
theorem session_eq_of_run {e e1 e2 : Engine} {id : SessionId} {s s' : Session}
    (first : Engine.run e (session id) = (.ok s, e1))
    (second : Engine.run e (session id) = (.ok s', e2)) : s = s' := by
  rw [first, Prod.mk.injEq, Except.ok.injEq] at second
  exact second.1

/-- **An accepted submission marks its block and keeps the marks of the rest of its route.** -/
theorem run_submitBlock_marks {e e' : Engine} {id : SessionId} {block : BlockId}
    {edits : Entries Edit} {result : Submission} (checked : e.questionnaire.Checked)
    (ran : Engine.run e (submitBlock id block edits) = (.ok result, e'))
    (accepted : result.errors = []) :
    ∃ live final, Engine.run e (session id) = (.ok live, e) ∧
      Engine.run e' (session id) = (.ok final, e') ∧ final.progress.isSubmitted block = true ∧
      ∀ blk ∈ (e.questionnaire.routingPath final.answers).blocks, blk ≠ block →
        final.progress.isSubmitted blk = live.progress.isSubmitted blk := by
  obtain ⟨live, b, edited, found, -, -, ⟨e1, e2, -, applied⟩, outcome⟩ := run_submitBlock_cases ran
  rcases outcome with ⟨rejected, rfl, -⟩ | ⟨-, routed, store, e3, e4, -, -, put, only⟩
  · exact absurd accepted rejected
  -- The session put live is the accepted one, marked, then wiped off the route it leaves.
  have final_eq := only.run_session (run_session_of_put put)
  obtain ⟨live', b', edited', final', acc⟩ := run_submitBlock_ok ran (by rw [routed])
  have same := session_eq_of_run acc.final_eq final_eq
  subst same
  obtain ⟨p, l, at_, named, prefixes⟩ := acc.opening checked
  set validated := validatedSession e.questionnaire b edited
  -- The accepted session routes as the validated one, along which the wiping ran.
  have route := Questionnaire.routingPath_acceptedSession checked e.config block validated
  have kept : ∀ blk ∈ (e.questionnaire.routingPath
      (acceptedSession e.questionnaire e.config block validated).answers).blocks,
      (acceptedSession e.questionnaire e.config block validated).progress.isSubmitted blk =
        (validated.progress.markSubmitted block).2.isSubmitted blk := fun blk listed =>
    acceptedSession_isSubmitted _ _ _ _ ((RoutingPath.contains_iff_mem _ _).mpr (route ▸ listed))
  -- The submitted block is on that route: the edits kept the route up to it.
  have blockListed : block ∈ (e.questionnaire.routingPath
      (acceptedSession e.questionnaire e.config block validated).answers).blocks := by
    rw [acc.path_eq checked]
    have member : l ∈ (e.questionnaire.routingPath live'.answers).locations.take (p + 1) := by
      apply List.mem_of_getElem? (i := p)
      rw [List.getElem?_take_of_lt (by omega)]
      exact at_
    rw [← prefixes] at member
    exact named ▸ List.mem_map_of_mem (List.mem_of_mem_take member)
  refine ⟨live, _, found, final_eq, by rw [kept block blockListed]; simp, fun blk listed other => ?_⟩
  rw [kept blk listed, ProgressStore.isSubmitted_markSubmitted_of_ne _ other]
  obtain ⟨-, progress, -⟩ := run_applyEdits_ok applied
  exact congrArg (·.isSubmitted blk) progress

/-- On a route without repeated blocks, a block stands at one position only. -/
theorem RoutingPath.index_eq_of_block {path : RoutingPath} (distinct : path.blocks.Nodup)
    {i j : Nat} {l l' : Location} (first : path.locations[i]? = some l)
    (second : path.locations[j]? = some l') (same : l.block = l'.block) : i = j := by
  have atFirst := RoutingPath.position?_of_getElem? distinct first
  rw [same, RoutingPath.position?_of_getElem? distinct second, Option.some.injEq] at atFirst
  exact atFirst.symm

/-- Every block of a route submitted: nothing is left to submit. -/
theorem ProgressStore.firstIncomplete?_eq_none {progress : ProgressStore} {path : RoutingPath}
    (marked : ∀ l ∈ path.locations, progress.isSubmitted l.block = true) :
    progress.firstIncomplete? path = none :=
  List.find?_eq_none.mpr fun l member => by simp [marked l member]

/-- **What comes after a submitted opening of a route.** When `opening ++ [current]` opens a route
of distinct blocks and all of its blocks are submitted, what `nextAfter` names after `current` is
the location that follows on the route, or the summary when the opening is the whole route. -/
theorem nextAfter_of_opening {route : RoutingPath} {progress : ProgressStore}
    {opening : List Location} {current : Location} {n : Next} (distinct : route.blocks.Nodup)
    (opens : opening ++ [current] <+: route.locations)
    (marked : ∀ l ∈ opening ++ [current], progress.isSubmitted l.block = true)
    (chosen : nextAfter route progress current.block = n) :
    (∃ l, n = .block l ∧ opening ++ [current, l] <+: route.locations) ∨
      (n = .summary ∧ opening ++ [current] = route.locations) := by
  have at_ : route.locations[opening.length]? = some current := by
    simpa using List.prefix_iff_getElem?.mp opens opening.length (by simp)
  have taken : route.locations.take (opening.length + 1) = opening ++ [current] := by
    have := List.prefix_iff_eq_take.mp opens
    simp only [List.length_append, List.length_singleton] at this
    exact this.symm
  -- Past the opening lies the next location of the route, or nothing at all.
  have whole : route.locations[opening.length + 1]? = none →
      opening ++ [current] = route.locations := by
    intro past
    have length : route.locations.length = opening.length + 1 := by
      have := (List.getElem?_eq_some_iff.mp at_).1
      have := List.getElem?_eq_none_iff.mp past
      omega
    rw [List.prefix_iff_eq_take.mp opens]
    simp [length]
  cases n with
  | block l' =>
    refine .inl ⟨l', rfl, ?_⟩
    rcases nextAfter_eq_block distinct at_ chosen with after | ⟨ending, incomplete⟩
    · have extended : route.locations.take (opening.length + 1 + 1) = opening ++ [current, l'] := by
        rw [List.take_add_one, after, taken]
        simp
      rw [← extended]
      exact List.take_prefix _ _
    · -- The block was the last of the route, so all of it is submitted and nothing is left.
      rw [List.getLast?_eq_getElem?] at ending
      have last := RoutingPath.index_eq_of_block distinct ending at_ rfl
      have past : route.locations[opening.length + 1]? = none := by
        have := (List.getElem?_eq_some_iff.mp ending).1
        exact List.getElem?_eq_none_iff.mpr (by omega)
      have none := ProgressStore.firstIncomplete?_eq_none fun l'' member =>
        marked l'' (whole past ▸ member)
      rw [none] at incomplete
      cases incomplete
  | summary =>
    refine .inr ⟨rfl, whole ?_⟩
    cases after : route.locations[opening.length + 1]? with
    | none => rfl
    | some l' =>
      have stepped := RoutingPath.next?_of_getElem? distinct at_ after
      simp [nextAfter, stepped] at chosen

/-- **An accepted submission advances along the route.** When the locations `opening`, then the
submitted block's location `current`, open the route of the live session and the blocks of
`opening` are submitted, they open the route the submission leaves and are all submitted there,
the block included; the next location named is the one after them on that route, or the summary
when they are the whole route. -/
theorem run_submitBlock_advances {e e' : Engine} {id : SessionId} {current : Location}
    {edits : Entries Edit} {result : Submission} (checked : e.questionnaire.Checked)
    (ran : Engine.run e (submitBlock id current.block edits) = (.ok result, e'))
    (accepted : result.errors = []) {live : Session}
    (found : Engine.run e (session id) = (.ok live, e)) {opening : List Location}
    (opens : opening ++ [current] <+: (e.questionnaire.routingPath live.answers).locations)
    (marked : ∀ l ∈ opening, live.progress.isSubmitted l.block = true) :
    ∃ final n, Engine.run e' (session id) = (.ok final, e') ∧ result.next = some n ∧
      e'.questionnaire = e.questionnaire ∧
      opening ++ [current] <+: (e.questionnaire.routingPath final.answers).locations ∧
      (∀ l ∈ opening ++ [current], final.progress.isSubmitted l.block = true) ∧
      ((∃ l, n = .block l ∧
          opening ++ [current, l] <+: (e.questionnaire.routingPath final.answers).locations) ∨
        (n = .summary ∧ opening ++ [current] = (e.questionnaire.routingPath final.answers).locations)) := by
  obtain ⟨live', final, found', final_eq, markedBlock, keptMarks⟩ :=
    run_submitBlock_marks checked ran accepted
  cases session_eq_of_run found found'
  obtain ⟨live₀, b₀, edited₀, -, -, -, -, outcome⟩ := run_submitBlock_cases ran
  obtain ⟨n, routed⟩ : ∃ n, result.next = some n := by
    rcases outcome with ⟨rejected, rfl, -⟩ | ⟨-, rfl, -⟩
    · exact absurd accepted rejected
    · exact ⟨_, rfl⟩
  obtain ⟨live'', b, edited, final', acc⟩ := run_submitBlock_ok ran routed
  cases session_eq_of_run found acc.live_eq
  cases session_eq_of_run final_eq acc.final_eq
  set route := e.questionnaire.routingPath final.answers
  have sameRoute : route = e.questionnaire.routingPath edited := acc.path_eq checked
  have distinct : route.blocks.Nodup := (checked.wellFormedPath final.answers).blocks_nodup
  have distinctLive := (checked.wellFormedPath live.answers).blocks_nodup
  -- The submitted block stands at the same position on both routes, after `opening`.
  have atLive : (e.questionnaire.routingPath live.answers).locations[opening.length]? =
      some current := by
    simpa using List.prefix_iff_getElem?.mp opens opening.length (by simp)
  obtain ⟨p, l, at_, named, prefixes⟩ := acc.opening checked
  have position : p = opening.length :=
    RoutingPath.index_eq_of_block distinctLive at_ atLive named
  subst position
  have taken : (e.questionnaire.routingPath live.answers).locations.take (opening.length + 1) =
      opening ++ [current] := by
    have := List.prefix_iff_eq_take.mp opens
    simp only [List.length_append, List.length_singleton] at this
    exact this.symm
  have opensFinal : opening ++ [current] <+: route.locations := by
    rw [sameRoute, ← taken, ← prefixes]
    exact List.take_prefix _ _
  -- Everything opened is submitted: the block now, the rest as before.
  have allMarked : ∀ l' ∈ opening ++ [current], final.progress.isSubmitted l'.block = true := by
    intro l' member
    by_cases same : l'.block = current.block
    · rw [same]
      exact markedBlock
    · have listed : l'.block ∈ route.blocks := List.mem_map_of_mem (opensFinal.subset member)
      rw [keptMarks l'.block listed same]
      refine marked l' ?_
      rcases List.mem_append.mp member with old | new
      · exact old
      · rw [List.mem_singleton] at new
        exact absurd (congrArg Location.block new) same
  have chosen : nextAfter route final.progress current.block = n := by
    rw [sameRoute]
    exact acc.chosen.symm
  exact ⟨final, n, final_eq, routed, acc.questionnaire_eq, opensFinal, allMarked,
    nextAfter_of_opening distinct opensFinal allMarked chosen⟩

end Engine

namespace Script

open Engine

/-! ### A run along the route -/

/-- The engine after the session `id` submits `blocks` one after the other, each with the
script's edits for it. -/
def submitEach (s : Script) (id : SessionId) (e : Engine) (blocks : List BlockId) : Engine :=
  blocks.foldl (fun e block => (Operation.submit id block (s.editsFor block)).apply e) e

/-- One step of a run: unless the current block was visited, submit it with the script's edits,
stop at a rejection, and go on to the block the engine names, or finish at the summary. -/
theorem run_runFrom_succ (s : Script) (id : SessionId) (fuel : Nat) (run : ScriptRun)
    (current : Location) (e : Engine) :
    Engine.run e (s.runFrom id (fuel + 1) run current) =
      if run.visited.any (·.block == current.block) then (.ok (.error (.stalled current.block)), e)
      else match Engine.run e (submitBlock id current.block (s.editsFor current.block)) with
        | (.error err, e1) => (.error err, e1)
        | (.ok submission, e1) =>
          if !submission.isAccepted then
            (.ok (.error (.rejected current.block submission.errors)), e1)
          else match submission.next with
            | some (.block l) => Engine.run e1 (s.runFrom id fuel
                { run with visited := run.visited ++ [current],
                           submissions := run.submissions ++ [(current.block, submission)] } l)
            | _ => (.ok (.ok { run with visited := run.visited ++ [current],
                                        submissions := run.submissions ++ [(current.block, submission)],
                                        completed := true }), e1) := by
  rw [Script.runFrom]
  split
  · rfl
  · rw [run_bind]
    rcases Engine.run e (submitBlock id current.block (s.editsFor current.block)) with ⟨r, e1⟩
    cases r with
    | error err => rfl
    | ok submission =>
      dsimp only
      split
      · rfl
      · rcases submission with ⟨errors, next⟩
        rcases next with _ | _ | _ <;> rfl

/-- Where a run stands before its next submission: the submissions recorded are those of the
visited blocks; nothing is visited unless the session is live; and the visited locations, then
the current one, open the route of the live session, every visited block submitted there. -/
structure OnTrack (e : Engine) (id : SessionId) (run : ScriptRun) (current : Location) : Prop where
  recorded : run.submissions.map (·.1) = run.visited.map (·.block)
  started : run.visited = [] ∨ ∃ s, Engine.run e (session id) = (.ok s, e)
  opens : ∀ s, Engine.run e (session id) = (.ok s, e) →
    run.visited ++ [current] <+: (e.questionnaire.routingPath s.answers).locations ∧
    ∀ l ∈ run.visited, s.progress.isSubmitted l.block = true

/-- A run on track has room for its current block: it was not visited, and it fits among the
questionnaire's blocks. -/
theorem OnTrack.room {e : Engine} {id : SessionId} {run : ScriptRun} {current : Location}
    (checked : e.questionnaire.Checked) (track : OnTrack e id run current) :
    (run.visited.map (·.block) ++ [current.block]).Nodup ∧
      run.visited.length + 1 ≤ e.questionnaire.blocks.length := by
  rcases track.started with empty | ⟨live, found⟩
  · have blocks : e.questionnaire.blocks ≠ [] := by
      intro none
      have := checked.locations_blocks
      rw [none] at this
      exact checked.locations_ne_nil (List.map_eq_nil_iff.mp this)
    refine ⟨by simp [empty], ?_⟩
    simpa [empty, Nat.one_le_iff_ne_zero] using blocks
  · obtain ⟨opens, -⟩ := track.opens live found
    have path := checked.wellFormedPath live.answers
    refine ⟨?_, ?_⟩
    · have sub : List.Sublist ((run.visited ++ [current]).map (·.block))
          (e.questionnaire.routingPath live.answers).blocks := (opens.map _).sublist
      simpa using path.blocks_nodup.sublist sub
    · have := opens.length_le
      have := path.length_le
      simp only [List.length_append, List.length_singleton] at *
      omega

/-- What a run from a visited opening does, ending at `outcome`: it submits further blocks
`rest`, distinct from the visited ones and from each other and fitting among the questionnaire's
blocks, and nothing else; it never stalls; and when it completes, its visited locations are the
routing path of the final answers, every block of it submitted, and the session complete. -/
def Follows (s : Script) (id : SessionId) (e : Engine) (visited : List Location)
    (outcome : Except EngineError (Except ScriptStop ScriptRun) × Engine) : Prop :=
  ∃ rest : List BlockId, (visited.map (·.block) ++ rest).Nodup ∧
    visited.length + rest.length ≤ e.questionnaire.blocks.length ∧
    outcome.2 = s.submitEach id e rest ∧
    (∀ block, outcome.1 ≠ .ok (.error (.stalled block))) ∧
    ∀ r, outcome.1 = .ok (.ok r) →
      r.visited.map (·.block) = visited.map (·.block) ++ rest ∧
      r.submissions.map (·.1) = r.visited.map (·.block) ∧
      ∃ final, Engine.run outcome.2 (session id) = (.ok final, outcome.2) ∧
        r.visited = (e.questionnaire.routingPath final.answers).locations ∧
        (∀ l ∈ r.visited, final.progress.isSubmitted l.block = true) ∧
        ∃ e', Engine.run outcome.2 (isComplete id) = (.ok true, e')

/-- A run that stops right after submitting its current block follows the route. -/
theorem follows_of_stop {s : Script} {id : SessionId} {e e1 : Engine} {run : ScriptRun}
    {current : Location} {result : Except EngineError (Except ScriptStop ScriptRun)}
    (room : (run.visited.map (·.block) ++ [current.block]).Nodup ∧
      run.visited.length + 1 ≤ e.questionnaire.blocks.length)
    (ran : (Engine.run e (submitBlock id current.block (s.editsFor current.block))).2 = e1)
    (stopped : ∀ r, result ≠ .ok (.ok r)) (unstalled : ∀ block, result ≠ .ok (.error (.stalled block))) :
    Follows s id e run.visited (result, e1) :=
  ⟨[current.block], room.1, room.2, by simp [submitEach, Operation.apply, ran], unstalled,
    fun r done => absurd done (stopped r)⟩

/-- A run that submits its current block and goes on from the engine the submission leaves
follows the route when the rest of the run does: the block joins the submitted ones. -/
theorem Follows.of_submitted {s : Script} {id : SessionId} {e e1 : Engine}
    {visited : List Location} {current : Location}
    {outcome : Except EngineError (Except ScriptStop ScriptRun) × Engine}
    (ran : (Engine.run e (submitBlock id current.block (s.editsFor current.block))).2 = e1)
    (served : e1.questionnaire = e.questionnaire)
    (later : Follows s id e1 (visited ++ [current]) outcome) : Follows s id e visited outcome := by
  obtain ⟨rest, distinct, fits, reached, unstalled, completed⟩ := later
  refine ⟨current.block :: rest, by simpa using distinct, ?_, ?_, unstalled, ?_⟩
  · simp only [served, List.length_append, List.length_singleton] at fits
    simp only [List.length_cons]
    omega
  · simp [reached, submitEach, Operation.apply, ran]
  · intro r done
    obtain ⟨visited', recorded, final, final_eq, route, marks, complete⟩ := completed r done
    refine ⟨by simpa using visited', recorded, final, final_eq, ?_, marks, complete⟩
    rw [← served]
    exact route

/-- **A run on track follows the route**, given fuel for every block not yet visited. -/
theorem runFrom_follows (s : Script) (id : SessionId) (fuel : Nat) {e : Engine}
    (checked : e.questionnaire.Checked) {run : ScriptRun} {current : Location}
    (track : OnTrack e id run current)
    (fueled : e.questionnaire.blocks.length < run.visited.length + fuel) :
    Follows s id e run.visited (Engine.run e (s.runFrom id fuel run current)) := by
  -- The induction is on the fuel; the run on track keeps the current block unvisited and
  -- within the questionnaire, so the fuel never runs out.
  induction fuel generalizing e run current with
  | zero =>
    have := (track.room checked).2
    omega
  | succ fuel ih =>
    have room := track.room checked
    have fresh : (run.visited.any (·.block == current.block)) = false := by
      have := (List.nodup_append.mp room.1).2.2
      simpa using fun l member same => this _ (List.mem_map_of_mem member) _
        (List.mem_singleton_self _) same
    rw [run_runFrom_succ, fresh, if_neg (by simp)]
    rcases ran : Engine.run e (submitBlock id current.block (s.editsFor current.block)) with
      ⟨r, e1⟩
    cases r with
    | error err =>
      exact follows_of_stop room (by rw [ran]) (by simp) (by simp)
    | ok submission =>
      dsimp only
      by_cases rejected : submission.isAccepted = false
      · rw [if_pos (by simp [rejected])]
        exact follows_of_stop room (by rw [ran]) (by simp) (by simp)
      rw [if_neg (by simpa using rejected)]
      have accepted : submission.errors = [] := by
        simpa [Submission.isAccepted] using rejected
      obtain ⟨live, -, -, found, -⟩ := run_submitBlock_cases ran
      obtain ⟨opens, marked⟩ := track.opens live found
      obtain ⟨final, n, final_eq, routed, served, opensFinal, allMarked, next⟩ :=
        run_submitBlock_advances checked ran accepted found opens marked
      rw [routed]
      rcases next with ⟨l, rfl, further⟩ | ⟨rfl, whole⟩
      · -- The engine names the block after the current one: the run goes on from it.
        have track' : OnTrack e1 id
            { run with visited := run.visited ++ [current],
                       submissions := run.submissions ++ [(current.block, submission)] } l := by
          refine ⟨by simp [track.recorded], .inr ⟨final, final_eq⟩, fun s' found' => ?_⟩
          cases session_eq_of_run final_eq found'
          rw [served]
          exact ⟨by simpa using further, allMarked⟩
        have fueled' : e1.questionnaire.blocks.length < (run.visited ++ [current]).length + fuel := by
          simp only [served, List.length_append, List.length_singleton]
          omega
        exact Follows.of_submitted (by rw [ran]) served (ih (served ▸ checked) track' fueled')
      · -- The engine names the summary: the visited blocks are the whole route.
        refine ⟨[current.block], room.1, room.2, by simp [submitEach, Operation.apply, ran],
          by simp, fun r done => ?_⟩
        simp only [Except.ok.injEq] at done
        subst done
        obtain ⟨e', complete⟩ := run_isComplete final_eq
        refine ⟨by simp, by simp [track.recorded], final, final_eq, ?_, allMarked, e', ?_⟩
        · simpa [served] using whole
        · rw [complete, served]
          simp [ProgressStore.isComplete, ProgressStore.firstIncomplete?_eq_none fun l member =>
            allMarked l (by rw [whole]; exact member)]

/-! ### Runs from the first block -/

/-- **A scripted run follows the routing path to the end.** On a questionnaire that loading
accepts, from any engine state and in any session, a run from the first block submits distinct
blocks, at most as many as the questionnaire has, and changes the engine by those submissions
only; it never stalls; and when it completes, it has visited exactly the routing path of the
final answers, every block of it is submitted, and the session is complete. -/
theorem runIn_follows_path {d : QuestionnaireDefinition} {e : Engine}
    (accepted : Questionnaire.ofDefinition d = .ok e.questionnaire) (s : Script) (id : SessionId) :
    Follows s id e [] (Engine.run e (s.runIn id)) := by
  have checked := checked_of_ofDefinition accepted
  have start : Engine.run e (s.runIn id) = Engine.run e (s.runFrom id
      (e.questionnaire.locations.length + 1) ⟨id, [], [], false⟩ e.questionnaire.firstLocation) := by
    unfold runIn
    rw [run_bind, run_served]
  rw [start]
  refine @runFrom_follows s id _ e checked ⟨id, [], [], false⟩ e.questionnaire.firstLocation
    ⟨rfl, .inl rfl, fun live _ => ⟨?_, by simp⟩⟩ ?_
  · -- Every route starts at the first block.
    obtain ⟨rest, split⟩ := List.head?_eq_some_iff.mp (checked.wellFormedPath live.answers).starts
    exact ⟨rest, by simp [split]⟩
  · have same := congrArg List.length checked.locations_blocks
    simp only [List.length_map] at same
    simp [same]

/-- A script answering the census's age question and its education question with "No". -/
def censusChild : Script :=
  (Script.empty.withAnswer "over-16" "over-16-answer" (.choice "No")).withAnswer "in-education"
    "in-education-answer" (.choice "No")

theorem runIn_follows_path_census :
    Questionnaire.ofDefinition Catalog.censusHousehold = .ok censusEngine.questionnaire ∧
      Follows censusChild ⟨0⟩ censusEngine [] (Engine.run censusEngine (censusChild.runIn ⟨0⟩)) :=
  have accepted : Questionnaire.ofDefinition Catalog.censusHousehold =
      .ok censusEngine.questionnaire := by rfl
  ⟨accepted, runIn_follows_path accepted censusChild ⟨0⟩⟩

end Script

end Survey
