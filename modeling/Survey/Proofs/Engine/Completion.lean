import Mathlib
import Survey.Proofs.Engine.Marks
import Survey.Proofs.Rule.Predicates
import Survey.Catalog

/-!
# A complete session passes the checks of its blocks

A session is complete once every block on the route of its answers is submitted. What the
engine checks of a submitted block (`Block.validationErrors`: the mandatory questions and the
answers of the questions it shows, then its calculations, judged on the view of the route) is
checked once, at the submission, and the mark stays as long as the block's own answers do. So a
complete session passes every check of every block on its route when those checks read the
block's own answers only (`Block.ChecksOwn`): each calculation sums slots of its block, and no
variant's condition reads a slot.

* `Engine.questionErrors_congr`, `Engine.calculationErrors_congr` — the checks of a question and
  a list of calculations read only their slots, as a predicate does (`Predicate.evaluate_congr`);
* `Block.validationErrors_congr` — so the checks of a block that checks its own answers read only
  the block's slots; `Engine.run_validate_shown` — and they are what `validate` reports;
* `Questionnaire.Checked.contains_of_sameOutside` — answers changed only in a block's slots keep
  the block on the route;
* `Session.MarksValid` — every block a session has submitted passes its checks on the session's
  answers. A step that keeps a mark keeps the block's answers, and an accepted submission passed
  the checks on the answers it commits (`Engine.accepted_passes`), so every operation keeps it,
  live and stored (`Engine.Operation.apply_validMarks`);
* **`Engine.complete_session_passes_checks`** — on every engine a run reaches from a fresh one, a
  complete session passes the checks of every block on its route, on the view of that route;
* `Engine.completion_needs_own_checks` — without the condition, a calculation summing another
  block's slot, or a variant chosen by the block's own answer, leaves a complete session with a
  block that its next submission rejects.
-/

namespace Survey

/-! ### Calculations and questions read only their slots -/

theorem sumContributions_congr {v v' : Lookup} {slots : List SlotId}
    (agree : ∀ slot ∈ slots, v slot = v' slot) (total : Decimal) :
    sumContributions v total slots = sumContributions v' total slots := by
  induction slots generalizing total with
  | nil => rfl
  | cons slot rest ih =>
    have later := ih fun s read => agree s (List.mem_cons_of_mem _ read)
    simp only [sumContributions, agree slot List.mem_cons_self, later]

/-- A calculation reads only its sources. -/
theorem CalculatedRule.evaluate_congr {rule : CalculatedRule} {v v' : Lookup}
    (agree : ∀ slot ∈ rule.sources, v slot = v' slot) : rule.evaluate v = rule.evaluate v' := by
  have sources : rule.sourceValues v = rule.sourceValues v' := by
    unfold sourceValues
    exact List.map_congr_left fun slot read => by rw [agree slot read]
  unfold evaluate totalOf
  rw [sumContributions_congr agree, sources]

namespace Engine

variable {v v' : Lookup}

theorem slotErrors_congr {slot : AnswerSlot} (same : v slot.id = v' slot.id) :
    slotErrors v slot = slotErrors v' slot := by
  simp only [slotErrors, same]

/-- The checks of a question read only its slots. -/
theorem questionErrors_congr {question : Question} (agree : ∀ s ∈ question.answers, v s.id = v' s.id) :
    questionErrors v question = questionErrors v' question := by
  have answered : (question.answers.any fun s => (v s.id).isSome) =
      question.answers.any fun s => (v' s.id).isSome := by
    rw [Bool.eq_iff_iff, List.any_eq_true, List.any_eq_true]
    exact exists_congr fun s => and_congr_right fun member => by rw [agree s member]
  have checks : question.answers.flatMap (slotErrors v) = question.answers.flatMap (slotErrors v') :=
    List.flatMap_congr fun s member => slotErrors_congr (agree s member)
  simp only [questionErrors, answered, checks]

/-- Calculations read only their sources. -/
theorem calculationErrors_congr {rules : List CalculatedRule}
    (agree : ∀ rule ∈ rules, ∀ slot ∈ rule.sources, v slot = v' slot) :
    calculationErrors v rules = calculationErrors v' rules := by
  unfold calculationErrors
  exact List.filterMap_congr fun rule member => by rw [CalculatedRule.evaluate_congr (agree rule member)]

end Engine

/-! ### The checks of a block -/

namespace Block

/-- What the engine finds wrong with the block on a view: the checks of the questions the block
shows there (mandatory questions answered, numbers in range, texts not too long), then its
calculations judged there. -/
def validationErrors (b : Block) (view : Lookup) : List ValidationError :=
  (b.questionsFor view).flatMap (Engine.questionErrors view) ++
    Engine.calculationErrors view b.calculations

/-- The block's checks read its own answers only: every calculation sums slots of the block, and
no variant's condition reads a slot, so the questions shown are the same on every view. -/
def ChecksOwn (b : Block) : Prop :=
  (∀ rule ∈ b.calculations, ∀ slot ∈ rule.sources, slot ∈ b.slotIds) ∧
    ∀ variant ∈ b.questionVariants, variant.when.slots = []

instance (b : Block) : Decidable b.ChecksOwn :=
  inferInstanceAs (Decidable ((∀ rule ∈ b.calculations, ∀ slot ∈ rule.sources, slot ∈ b.slotIds) ∧
    ∀ variant ∈ b.questionVariants, variant.when.slots = []))

variable {b : Block}

/-- Variants whose conditions read no slot show the same questions on every view. -/
theorem questionsFor_congr (constant : ∀ variant ∈ b.questionVariants, variant.when.slots = [])
    (v v' : Lookup) : b.questionsFor v = b.questionsFor v' :=
  questionsFor_eq_of_agree fun variant member slot read => by simp [constant variant member] at read

/-- **The checks of a block that checks its own answers read only the block's slots.** -/
theorem validationErrors_congr (own : b.ChecksOwn) {v v' : Lookup}
    (agree : ∀ slot ∈ b.slotIds, v slot = v' slot) : b.validationErrors v = b.validationErrors v' := by
  have shown := questionsFor_congr own.2 v v'
  -- Each question shown has its slots among the block's.
  have checks : (b.questionsFor v').flatMap (Engine.questionErrors v) =
      (b.questionsFor v').flatMap (Engine.questionErrors v') :=
    List.flatMap_congr fun question listed => Engine.questionErrors_congr fun s member =>
      agree s.id (questionsFor_slotIds b v'
        (List.mem_flatMap.mpr ⟨question, listed, Question.mem_slotIds member⟩))
  have totals := Engine.calculationErrors_congr fun rule member slot source =>
    agree slot (own.1 rule member slot source)
  unfold validationErrors
  rw [shown, checks, totals]

end Block

/-- Every block of the questionnaire checks its own answers only. -/
def Questionnaire.ChecksOwnBlocks (q : Questionnaire) : Prop := ∀ b ∈ q.blocks, b.ChecksOwn

instance (q : Questionnaire) : Decidable q.ChecksOwnBlocks :=
  inferInstanceAs (Decidable (∀ b ∈ q.blocks, b.ChecksOwn))

/-- Validating a block on the questions it shows reports exactly its `Block.validationErrors`. -/
theorem Engine.run_validate_shown {e e' : Engine} {s : Session} {b : Block} {path : RoutingPath}
    {result : Except EngineError (List ValidationError × Session)}
    (ran : Engine.run e (validate s b (b.questionsFor (e.questionnaire.onPath s.answers path)) path) =
      (result, e')) :
    ∃ s', result = .ok (b.validationErrors (e.questionnaire.onPath s.answers path), s') :=
  ⟨_, (run_validate ran).1⟩

/-! ### Blocks on the route keep their answers -/

namespace Questionnaire

variable {q : Questionnaire} (checked : q.Checked)
include checked

/-- **Answers changed only in a block's slots keep the block on the route**: the route up to the
block reads only the blocks before it. -/
theorem Checked.contains_of_sameOutside {b : Block} (member : b ∈ q.blocks) {A B : AnswerStore}
    (same : AnswerStore.SameOutside b.slotIds A B) (onPath : (q.routingPath A).contains b.id = true) :
    (q.routingPath B).contains b.id = true := by
  obtain ⟨p, l, at_, named, before⟩ := RoutingPath.exists_first_of_contains onPath
  obtain ⟨shared, -⟩ := walk_locality _ [] q.firstLocation p (Nat.zero_le _)
    (checked.agreeOn_of_sameOutside member same before)
  change (q.routingPath A).locations.take (p + 1) <+: (q.routingPath B).locations at shared
  have taken : l ∈ (q.routingPath A).locations.take (p + 1) :=
    List.mem_of_getElem? (by rw [List.getElem?_take_of_lt (Nat.lt_succ_self p)]; exact at_)
  rw [RoutingPath.contains_iff_mem, ← named]
  exact List.mem_map_of_mem (shared.subset taken)

/-- Wiping the blocks a route skips keeps the answers of every block on it. -/
theorem Checked.wipeAll_get?_of_onPath (config : EngineConfig) (path : RoutingPath) (s : Session)
    {b : Block} (member : b ∈ q.blocks) (listed : path.contains b.id = true) {slot : SlotId}
    (declared : slot ∈ b.slotIds) :
    (q.blocks.foldl (fun s w => if Engine.wipes config path w then Engine.wipeBlock s w else s)
      s).answers.get? slot = s.answers.get? slot := by
  exact (Engine.wipeAll_frame q config path s q.blocks fun _ inside => inside).entry.answer slot
    (Engine.not_wiped_of_onlyOnPath (checked.onlyOnPath_of_mem member listed declared))

end Questionnaire

/-! ### Submitted blocks pass their checks -/

namespace Session

/-- Every block of `q` the session has submitted passes its checks on the session's answers. -/
def MarksValid (q : Questionnaire) (s : Session) : Prop :=
  ∀ b ∈ q.blocks, s.progress.isSubmitted b.id = true → b.validationErrors s.answers.get? = []

variable {q : Questionnaire} {s s' : Session}

theorem MarksValid.empty (q : Questionnaire) : Session.empty.MarksValid q :=
  fun _ _ marked => by cases marked

/-- A mark kept with the block's answers keeps the block passing. -/
theorem MarksValid.pass_of_keepsMark (own : q.ChecksOwnBlocks) (valid : s.MarksValid q) {b : Block}
    (member : b ∈ q.blocks) (keeps : KeepsMark b s s') (marked : s'.progress.isSubmitted b.id = true) :
    b.validationErrors s'.answers.get? = [] := by
  obtain ⟨before, same⟩ := keeps marked
  rw [Block.validationErrors_congr (own b member) same]
  exact valid b member before

theorem MarksValid.of_keepsMark (own : q.ChecksOwnBlocks) (valid : s.MarksValid q)
    (keeps : ∀ b ∈ q.blocks, KeepsMark b s s') : s'.MarksValid q :=
  fun b member marked => valid.pass_of_keepsMark own member (keeps b member) marked

/-- Every block on the route of the session's answers passes its checks on the view of the
route. -/
def PassesChecks (q : Questionnaire) (s : Session) : Prop :=
  ∀ b ∈ q.blocks, b.id ∈ (q.routingPath s.answers).blocks →
    b.validationErrors (q.onPath s.answers (q.routingPath s.answers)) = []

end Session

theorem ProgressStore.isSubmitted_of_isComplete {progress : ProgressStore} {path : RoutingPath}
    (complete : progress.isComplete path = true) {block : BlockId} (listed : block ∈ path.blocks) :
    progress.isSubmitted block = true := by
  obtain ⟨l, member, rfl⟩ := List.mem_map.mp listed
  have none : progress.firstIncomplete? path = none := by
    simpa [ProgressStore.isComplete] using complete
  simpa using List.find?_eq_none.mp none l member

namespace Engine

/-- **An accepted submission commits answers on which its block passes its checks.** The edits
change the block's slots only, so the block stays on the route of the edited answers; wiping
spares it, so it keeps the edited answers, which the view of that route shows; and the checks
were passed on that view, with the questions shown before the edits, which are the same. -/
theorem accepted_passes {q : Questionnaire} (checked : q.Checked) {b : Block} (own : b.ChecksOwn)
    (member : b ∈ q.blocks) (config : EngineConfig) {live edited : Session} {edits : Entries Edit}
    {e1 e2 : Engine} (onPath : (q.routingPath live.answers).contains b.id = true)
    (applied : Engine.run e1 (applyEdits live b (shownQuestions q b live) edits) = (.ok edited, e2))
    (clean : submissionErrors q b (shownQuestions q b live) edited = []) :
    b.validationErrors (acceptedSession q config b.id (validatedSession q b edited)).answers.get? =
      [] := by
  have outside : AnswerStore.SameOutside b.slotIds live.answers edited.answers :=
    (run_applyEdits_ok applied).1.mono (Block.questionsFor_slotIds b _)
  have stays := checked.contains_of_sameOutside member outside onPath
  have agree : ∀ slot ∈ b.slotIds,
      (acceptedSession q config b.id (validatedSession q b edited)).answers.get? slot =
        q.onPath edited.answers (q.routingPath edited.answers) slot := by
    intro slot declared
    rw [checked.onPath_eq_get? member declared edited.answers
      ((RoutingPath.contains_iff_mem _ _).mp stays)]
    exact checked.wipeAll_get?_of_onPath config (q.routingPath edited.answers) _ member stays declared
  have shown : b.validationErrors (q.onPath edited.answers (q.routingPath edited.answers)) =
      submissionErrors q b (shownQuestions q b live) edited := by
    unfold Block.validationErrors submissionErrors shownQuestions
    rw [Block.questionsFor_congr own.2 (q.onPath edited.answers _) (q.onPath live.answers _)]
  rw [Block.validationErrors_congr own agree, shown, clean]

/-- A sorted session whose submitted blocks pass their checks. -/
def ValidMarks (q : Questionnaire) (s : Session) : Prop := s.Sorted ∧ s.MarksValid q

namespace Holds

variable {q : Questionnaire} (checked : q.Checked) (own : q.ChecksOwnBlocks) {e : Engine}
  (holds : Holds (ValidMarks q) e) (served : e.questionnaire = q)
include checked own holds served

theorem edit_validMarks (id : SessionId) (slot : SlotId) (change : Edit) (phase : EditPhase) :
    Holds (ValidMarks q) ((Operation.edit id slot change phase).apply e) := by
  show Holds (ValidMarks q) (Engine.run e (Engine.edit id slot change phase)).2
  rcases ran : Engine.run e (Engine.edit id slot change phase) with ⟨r, e'⟩
  cases r with
  | ok applied =>
    obtain ⟨s, b, question, entry, found, owner, -, shown, edited, e1, only, put⟩ := run_edit_ok ran
    obtain ⟨key, live⟩ := live_mem found
    obtain ⟨sorted, valid⟩ := holds.live _ live
    subst served
    have member := (Questionnaire.mem_of_blockOf? owner)
    exact (holds.of_logOnly only).putSession
      ⟨sorted.editedSession (Question.applyEdit_sorted edited sorted.answers) _ _,
        valid.of_keepsMark own fun c listed => keepsMark_edited checked listed member
          (owningQuestion_slotIds shown) (Question.applyEdit_frame edited)
          (Question.applyEdit_answers_of_kept edited)⟩ put
  | error err => exact holds.of_error (edit_failsQuietly id slot change phase) ran

theorem blur_validMarks (id : SessionId) (slot : SlotId) :
    Holds (ValidMarks q) ((Operation.blur id slot).apply e) := by
  show Holds (ValidMarks q) (Engine.run e (Engine.blur id slot)).2
  rcases ran : Engine.run e (Engine.blur id slot) with ⟨r, e'⟩
  cases r with
  | ok applied =>
    obtain ⟨s, b, question, entry, found, owner, -, shown, committed, e1, only, put⟩ :=
      run_blur_ok ran
    obtain ⟨key, live⟩ := live_mem found
    obtain ⟨sorted, valid⟩ := holds.live _ live
    subst served
    have member := (Questionnaire.mem_of_blockOf? owner)
    exact (holds.of_logOnly only).putSession
      ⟨sorted.editedSession (Question.commitDraft_sorted committed sorted.answers) _ _,
        valid.of_keepsMark own fun c listed => keepsMark_edited checked listed member
          (owningQuestion_slotIds shown) (Question.commitDraft_frame committed)
          (Question.commitDraft_answers_of_none committed)⟩ put
  | error err => exact holds.of_error (blur_failsQuietly id slot) ran

theorem submit_validMarks (id : SessionId) (block : BlockId) (edits : Entries Edit) :
    Holds (ValidMarks q) ((Operation.submit id block edits).apply e) := by
  show Holds (ValidMarks q) (Engine.run e (submitBlock id block edits)).2
  rcases ran : Engine.run e (submitBlock id block edits) with ⟨r, e'⟩
  cases r with
  | ok result =>
    obtain ⟨live, b, edited, found, defined, onPath, ⟨e1, e2, -, applied⟩, outcome⟩ :=
      run_submitBlock_cases ran
    obtain ⟨key, member⟩ := live_mem found
    obtain ⟨sorted, valid⟩ := holds.live _ member
    subst served
    obtain ⟨blockMember, rfl⟩ := checked.block?_spec defined
    have frame := validatedSession_frame applied e.questionnaire
    have within := Block.questionsFor_slotIds b
      (e.questionnaire.onPath live.answers (e.questionnaire.routingPath live.answers))
    have validated : (validatedSession e.questionnaire b edited).Sorted :=
      (run_applyEdits_sorted applied sorted).recordTotals _ _
    rcases outcome with ⟨-, -, e3, only, put⟩ | ⟨clean, -, store, e3, e4, committed, only, put, only'⟩
    · -- Rejected: the block is reopened, and every other mark kept with its answers.
      exact (holds.of_logOnly only).putSession ⟨validated.forget b.id,
        valid.of_keepsMark own fun c listed => keepsMark_rejected checked listed blockMember within frame⟩
        put
    · -- Accepted: the block passed on the answers it commits, and the others keep theirs.
      have final : ValidMarks e.questionnaire (acceptedSession e.questionnaire e.config b.id
          (validatedSession e.questionnaire b edited)) := by
        refine ⟨(validated.markSubmitted b.id).wipeAll e.config _ e.questionnaire.blocks,
          fun c listed marked => ?_⟩
        by_cases same : c.id = b.id
        · obtain rfl := checked.block_eq_of_id listed blockMember same
          exact accepted_passes checked (own c listed) listed e.config onPath applied clean
        · exact valid.pass_of_keepsMark own listed
            (keepsMark_accepted checked listed blockMember e.config within (Ne.symm same) frame) marked
      have stored : Holds (ValidMarks e.questionnaire) { e3 with store } :=
        (holds.commit final committed).of_unchanged ⟨only.sessions_eq, rfl⟩
      exact (stored.putSession final put).of_logOnly only'
  | error err => exact holds.of_error (submitBlock_failsQuietly id block edits) ran

end Holds

/-- **Every operation keeps the submitted blocks passing**, live and stored. -/
theorem Operation.apply_validMarks {q : Questionnaire} (checked : q.Checked) (own : q.ChecksOwnBlocks)
    {e : Engine} (holds : Holds (ValidMarks q) e) (served : e.questionnaire = q) :
    ∀ op : Operation, Holds (ValidMarks q) (op.apply e)
  | .start => holds.start ⟨Session.sorted_empty, Session.MarksValid.empty q⟩
  | .resume id => holds.resume
      (fun _ good => ⟨good.1.dropDrafts, good.2⟩)
      (fun _ good => good.1) id
  | .close id => holds.close id
  | .edit id slot change phase => holds.edit_validMarks checked own served id slot change phase
  | .blur id slot => holds.blur_validMarks checked own served id slot
  | .submit id block edits => holds.submit_validMarks checked own served id block edits

theorem Reachable.validMarks {q : Questionnaire} (checked : q.Checked) (own : q.ChecksOwnBlocks)
    {start e : Engine} (reached : Reachable start e) (served : start.questionnaire = q)
    (initial : Holds (ValidMarks q) start) : Holds (ValidMarks q) e :=
  reached.of_keeps served initial (Operation.apply_validMarks checked own)

/-- **A complete session passes the checks of every block on its route.** On a questionnaire
that loading accepts and whose blocks check their own answers only, with any settings and a store
holding nothing yet, on every engine a run of operations reaches, a session that `isComplete`
reports complete passes, for every block on the route of its answers, the checks `validate`
makes, on the view of that route. -/
theorem complete_session_passes_checks {d : QuestionnaireDefinition} {q : Questionnaire}
    (accepted : Questionnaire.ofDefinition d = .ok q) (own : q.ChecksOwnBlocks)
    (config : EngineConfig) {store : SnapshotStore} (fresh : store.snapshots = [])
    {e e' : Engine} (reached : Reachable (create q config store) e) {id : SessionId} {s : Session}
    (live : Engine.run e (session id) = (.ok s, e))
    (complete : Engine.run e (isComplete id) = (.ok true, e')) : s.PassesChecks q := by
  have checked := checked_of_ofDefinition accepted
  have holds := reached.validMarks checked own rfl (holds_create fresh)
  have served : e.questionnaire = q := reached.serves.1
  obtain ⟨key, member⟩ := Holds.live_mem live
  have valid := (holds.live _ member).2
  obtain ⟨e'', asked⟩ := run_isComplete live
  rw [asked, served, Prod.mk.injEq, Except.ok.injEq] at complete
  intro b listed onRoute
  have marked := ProgressStore.isSubmitted_of_isComplete complete.1 onRoute
  -- On a block of the route, the view of the route shows the session's answers.
  rw [Block.validationErrors_congr (own b listed)
    fun slot declared => checked.onPath_eq_get? listed declared s.answers onRoute]
  exact valid b listed marked

/-- The household budget, served with the default settings from an empty store. -/
def budgetEngine : Engine :=
  create (Catalog.householdBudget.checked ["rent-answer", "food-answer", "travel-answer",
    "other-answer"]) EngineConfig.default SnapshotStore.empty

/-- A session that gives its income, says it has no savings, which skips the savings block, and
gives its rent and food. -/
def budgetCompleted : Engine :=
  (Operation.submit ⟨0⟩ "spending-breakdown"
      [("food-answer", .set (.number ⟨500, 0⟩)), ("rent-answer", .set (.number ⟨1200, 0⟩))]).apply <|
    (Operation.submit ⟨0⟩ "has-savings" [("has-savings-answer", .set (.choice "No"))]).apply <|
    (Operation.submit ⟨0⟩ "monthly-income"
      [("monthly-income-answer", .set (.number ⟨3000, 0⟩))]).apply <|
    Operation.start.apply budgetEngine

/-- The session live after it. -/
def budgetSession : Session := (budgetCompleted.sessions.head?.map (·.2)).getD Session.empty

theorem complete_session_passes_checks_budget :
    Questionnaire.ofDefinition Catalog.householdBudget = .ok budgetEngine.questionnaire ∧
      budgetEngine.questionnaire.ChecksOwnBlocks ∧ SnapshotStore.empty.snapshots = [] ∧
      Reachable budgetEngine budgetCompleted ∧
      Engine.run budgetCompleted (session ⟨0⟩) = (.ok budgetSession, budgetCompleted) ∧
      Engine.run budgetCompleted (isComplete ⟨0⟩) =
        (.ok true, (Engine.run budgetCompleted (isComplete ⟨0⟩)).2) ∧
      budgetSession.PassesChecks budgetEngine.questionnaire :=
  have accepted : Questionnaire.ofDefinition Catalog.householdBudget = .ok budgetEngine.questionnaire := by
    rfl
  have own : budgetEngine.questionnaire.ChecksOwnBlocks := by decide
  have reached : Reachable budgetEngine budgetCompleted := .step _ (.step _ (.step _ (.step _ .refl)))
  have live : Engine.run budgetCompleted (session ⟨0⟩) = (.ok budgetSession, budgetCompleted) := by rfl
  have complete : Engine.run budgetCompleted (isComplete ⟨0⟩) =
      (.ok true, (Engine.run budgetCompleted (isComplete ⟨0⟩)).2) := by
    rfl
  ⟨accepted, own, rfl, reached, live, complete,
    complete_session_passes_checks accepted own EngineConfig.default rfl reached live complete⟩

/-! ### Checks that read other answers -/

/-- A block `b` asking for a number `y`, whose calculation requires the slot `x` to be 10. -/
def crossCheck : Block :=
  { Catalog.page "b" [Catalog.question "qb" "Note" [AnswerSlot.number "y" "Y"]] with
    calculations := [⟨"t", ["x"], Decimal.ofInt 10, .equal, none⟩] }

/-- A block `a` asking for the number `x`, then `crossCheck`. -/
def crossTotal : QuestionnaireDefinition :=
  ⟨"cross", none,
    [⟨"s", none, [Catalog.page "a" [Catalog.question "qa" "Amount" [AnswerSlot.number "x" "X"]],
      crossCheck]⟩]⟩

/-- The questionnaire served with the default settings from an empty store. -/
def crossEngine : Engine := create (crossTotal.checked ["x"]) EngineConfig.default SnapshotStore.empty

/-- A session that submitted `a` with 10, then `b`, then `a` again with 5. -/
def crossResubmitted : Engine :=
  (Operation.submit ⟨0⟩ "a" [("x", .set (.number ⟨5, 0⟩))]).apply <|
    (Operation.submit ⟨0⟩ "b" []).apply <|
    (Operation.submit ⟨0⟩ "a" [("x", .set (.number ⟨10, 0⟩))]).apply <|
    Operation.start.apply crossEngine

/-- The session live after it. -/
def crossSession : Session := (crossResubmitted.sessions.head?.map (·.2)).getD Session.empty

/-- A block asking for a radio `p` and a text `z`, whose question `qz` becomes mandatory once
`p` is Yes. -/
def selfChoice : Block :=
  { Catalog.page "b" [Catalog.question "qp" "P" [Catalog.radio "p" "P" ["Yes", "No"]],
      Catalog.question "qz" "Z" [AnswerSlot.text "z" "Z"]] with
    questionVariants :=
      [⟨.equals "p" (.text "Yes"), Catalog.mandatoryQuestion "qz" "Z now" [AnswerSlot.text "z" "Z"]⟩] }

/-- A questionnaire of that one block. -/
def selfVariant : QuestionnaireDefinition := ⟨"self-variant", none, [⟨"s", none, [selfChoice]⟩]⟩

/-- The questionnaire served with the default settings from an empty store. -/
def selfVariantEngine : Engine :=
  create (selfVariant.checked []) EngineConfig.default SnapshotStore.empty

/-- A session that submitted the block answering `p` Yes. -/
def selfVariantSubmitted : Engine :=
  (Operation.submit ⟨0⟩ "b" [("p", .set (.choice "Yes"))]).apply (Operation.start.apply selfVariantEngine)

/-- The session live after it. -/
def selfVariantSession : Session :=
  (selfVariantSubmitted.sessions.head?.map (·.2)).getD Session.empty

/-- **Without the condition, a complete session can hold a block that its next submission
rejects.** A calculation of `b` that sums the slot `x` of `a` leaves `b` submitted when `a` is
submitted again with another `x`; and a variant chosen by the block's own answer is not the
question its submission checked, since the questions are chosen before the edits. In both,
loading accepts the questionnaire, the session is complete, a block on its route fails its
checks, and submitting that block again without edits is rejected. -/
theorem completion_needs_own_checks :
    (Questionnaire.ofDefinition crossTotal = .ok crossEngine.questionnaire ∧
      ¬ crossEngine.questionnaire.ChecksOwnBlocks ∧ Reachable crossEngine crossResubmitted ∧
      Engine.run crossResubmitted (session ⟨0⟩) = (.ok crossSession, crossResubmitted) ∧
      (Engine.run crossResubmitted (isComplete ⟨0⟩)).1 = .ok true ∧
      ¬ crossSession.PassesChecks crossEngine.questionnaire ∧
      (Engine.run crossResubmitted (submitBlock ⟨0⟩ "b" [])).1.toOption.map
        (·.errors.map ValidationError.message) =
          some ["Calculated total 5 does not meet the target of 10"]) ∧
    (Questionnaire.ofDefinition selfVariant = .ok selfVariantEngine.questionnaire ∧
      ¬ selfVariantEngine.questionnaire.ChecksOwnBlocks ∧
      Reachable selfVariantEngine selfVariantSubmitted ∧
      Engine.run selfVariantSubmitted (session ⟨0⟩) = (.ok selfVariantSession, selfVariantSubmitted) ∧
      (Engine.run selfVariantSubmitted (isComplete ⟨0⟩)).1 = .ok true ∧
      ¬ selfVariantSession.PassesChecks selfVariantEngine.questionnaire ∧
      (Engine.run selfVariantSubmitted (submitBlock ⟨0⟩ "b" [])).1.toOption.map
        (·.errors.map ValidationError.message) = some ["Question 'qz' must be answered"]) := by
  -- The calculation of `b` now finds 5 where it requires 10.
  have crossFails : ¬ crossSession.PassesChecks crossEngine.questionnaire := by
    intro passes
    have found : crossEngine.questionnaire.block? "b" = some (crossCheck.markRawText ["x"]) := by rfl
    have onRoute : "b" ∈ (crossEngine.questionnaire.routingPath crossSession.answers).blocks := by
      decide +kernel
    have failing : (crossCheck.markRawText ["x"]).validationErrors (crossEngine.questionnaire.onPath
        crossSession.answers (crossEngine.questionnaire.routingPath crossSession.answers)) =
        [.totalMismatch "t" ⟨5, 0⟩ ⟨10, 0⟩ .equal] := by
      rfl
    rw [passes _ (Questionnaire.mem_of_block? found) onRoute] at failing
    cases failing
  -- The variant now shown is mandatory and unanswered.
  have selfFails : ¬ selfVariantSession.PassesChecks selfVariantEngine.questionnaire := by
    intro passes
    have found : selfVariantEngine.questionnaire.block? "b" = some (selfChoice.markRawText []) := by
      rfl
    have onRoute :
        "b" ∈ (selfVariantEngine.questionnaire.routingPath selfVariantSession.answers).blocks := by
      decide +kernel
    have failing : (selfChoice.markRawText []).validationErrors (selfVariantEngine.questionnaire.onPath
        selfVariantSession.answers
        (selfVariantEngine.questionnaire.routingPath selfVariantSession.answers)) =
        [.mandatoryUnanswered "qz"] := by
      rfl
    rw [passes _ (Questionnaire.mem_of_block? found) onRoute] at failing
    cases failing
  -- A new submission of the block reports the same errors, evaluated by the kernel.
  exact ⟨⟨by rfl, by decide, .step _ (.step _ (.step _ (.step _ .refl))), rfl, rfl, crossFails,
      by decide +kernel⟩,
    ⟨by rfl, by decide, .step _ (.step _ .refl), rfl, rfl, selfFails, by decide +kernel⟩⟩

end Engine

end Survey
