import Mathlib
import Survey.Proofs.Engine.Run
import Survey.Proofs.Exclusive.Enforcer

/-!
# What each step of a submission changes

A submission applies edits, validates, and wipes skipped blocks. Each of these only reports
events (`Engine.LogOnly`), and each changes a known part of the session:

* `Engine.run_applyEdits_ok` — applying a submission's edits to the questions shown changes
  answers of those questions' slots only, and not the progress;
* `Block.questionsFor_slotIds` — the questions shown for a block hold slots of the block;
* `Engine.run_validate_ok` — validation records totals and changes nothing else of the session;
* `Engine.run_invalidateSkipped` — wiping skipped blocks wipes, in order, the blocks off the path
  that are to be wiped; `Engine.wipeAll_frame` says what that changes, and a slot that belongs
  only to blocks on the path is in none of them (`Engine.not_wiped_of_onlyOnPath`).
-/

namespace Survey

namespace Block

/-- The ids of the slots of a list of questions. -/
theorem mem_slotIds_of_question {b : Block} {question : Question} (member : question ∈ b.allQuestions)
    {slot : SlotId} (declared : slot ∈ question.slotIds) : slot ∈ b.slotIds :=
  List.mem_flatMap.mpr ⟨question, member, declared⟩

/-- **The questions shown for a block hold slots of the block**: each is one of its questions
or one of their variants. -/
theorem questionsFor_slotIds (b : Block) (view : Lookup) :
    (b.questionsFor view).flatMap Question.slotIds ⊆ b.slotIds := by
  intro slot member
  obtain ⟨shown, listed, declared⟩ := List.mem_flatMap.mp member
  obtain ⟨question, own, rfl⟩ := List.mem_map.mp listed
  unfold shownQuestion at declared
  split at declared
  · next variant picked =>
    have variantMember : variant.question ∈ b.allQuestions :=
      List.mem_append_right _ (List.mem_map_of_mem (List.mem_of_find?_eq_some picked))
    exact mem_slotIds_of_question variantMember declared
  · exact mem_slotIds_of_question (List.mem_append_left _ own) declared

end Block

/-! ### What may change of a session -/

namespace ProgressStore

@[simp] theorem isSubmitted_forget_self (p : ProgressStore) (block : BlockId) :
    (p.forget block).2.isSubmitted block = false := by
  simp [forget, isSubmitted]

theorem isSubmitted_forget_of_ne (p : ProgressStore) {block block' : BlockId}
    (other : block' ≠ block) : (p.forget block).2.isSubmitted block' = p.isSubmitted block' := by
  simp [forget, isSubmitted, other]

@[simp] theorem isSubmitted_markSubmitted_self (p : ProgressStore) (block : BlockId) :
    (p.markSubmitted block).2.isSubmitted block = true := by
  simp [markSubmitted, isSubmitted]

theorem isSubmitted_markSubmitted_of_ne (p : ProgressStore) {block block' : BlockId}
    (other : block' ≠ block) :
    (p.markSubmitted block).2.isSubmitted block' = p.isSubmitted block' := by
  simp [markSubmitted, isSubmitted, other]

end ProgressStore

namespace CalculatedTotals

theorem get?_record_of_ne (t : CalculatedTotals) {rule rule' : RuleId} (total : CalculatedTotal)
    (other : rule' ≠ rule) : (t.record rule total).get? rule' = t.get? rule' := by
  simp [record, get?, other]

theorem get?_forget_of_ne (t : CalculatedTotals) {rule rule' : RuleId} (other : rule' ≠ rule) :
    (t.forget rule).2.get? rule' = t.get? rule' := by
  simp [forget, get?, other]

end CalculatedTotals

namespace Session

/-- What may differ between two sessions: answers, touched marks and drafts at the slots
`slots`, whether the blocks `blocks` are submitted, and the totals of the rules `rules`. -/
structure Frame (slots : SlotId → Prop) (blocks : BlockId → Prop) (rules : RuleId → Prop)
    (s s' : Session) : Prop where
  entry : Entry.Frame slots ⟨s.answers, s.drafts⟩ ⟨s'.answers, s'.drafts⟩
  progress : ∀ block, ¬ blocks block → s'.progress.isSubmitted block = s.progress.isSubmitted block
  totals : ∀ rule, ¬ rules rule → s'.totals.get? rule = s.totals.get? rule

namespace Frame

variable {slots slots' : SlotId → Prop} {blocks blocks' : BlockId → Prop}
  {rules rules' : RuleId → Prop} {s s' s'' : Session}

theorem refl (slots : SlotId → Prop) (blocks : BlockId → Prop) (rules : RuleId → Prop)
    (s : Session) : Frame slots blocks rules s s :=
  ⟨Entry.Frame.refl _ _, fun _ _ => rfl, fun _ _ => rfl⟩

theorem trans (first : Frame slots blocks rules s s') (second : Frame slots blocks rules s' s'') :
    Frame slots blocks rules s s'' :=
  ⟨first.entry.trans second.entry,
    fun block outside => (second.progress block outside).trans (first.progress block outside),
    fun rule outside => (second.totals rule outside).trans (first.totals rule outside)⟩

theorem mono (frame : Frame slots blocks rules s s') (subSlots : ∀ x, slots x → slots' x)
    (subBlocks : ∀ x, blocks x → blocks' x) (subRules : ∀ x, rules x → rules' x) :
    Frame slots' blocks' rules' s s' :=
  ⟨frame.entry.mono subSlots,
    fun block outside => frame.progress block fun inside => outside (subBlocks block inside),
    fun rule outside => frame.totals rule fun inside => outside (subRules rule inside)⟩

/-- New answers and drafts, changed at `slots` only. -/
theorem of_entry {entry : Entry} (framed : Entry.Frame slots ⟨s.answers, s.drafts⟩ entry) :
    Frame slots blocks rules s (Engine.Session.withEntry s entry) :=
  ⟨framed, fun _ _ => rfl, fun _ _ => rfl⟩

/-- A new progress, changed for `blocks` only. -/
theorem of_progress {progress : ProgressStore}
    (kept : ∀ block, ¬ blocks block → progress.isSubmitted block = s.progress.isSubmitted block) :
    Frame slots blocks rules s { s with progress } :=
  ⟨Entry.Frame.refl _ _, kept, fun _ _ => rfl⟩

/-- New totals, changed for `rules` only. -/
theorem of_totals {totals : CalculatedTotals}
    (kept : ∀ rule, ¬ rules rule → totals.get? rule = s.totals.get? rule) :
    Frame slots blocks rules s { s with totals } :=
  ⟨Entry.Frame.refl _ _, fun _ _ => rfl, kept⟩

end Frame

end Session

namespace Engine

/-! ### Applying edits -/

theorem run_enforce_ok {e e' : Engine} {question : Question} {slot : SlotId} {edit : Edit}
    {phase : EditPhase} {entry entry' : Entry} {applied : Applied}
    (ran : Engine.run e (enforce question slot edit phase entry) = (.ok (applied, entry'), e')) :
    question.applyEdit slot edit phase entry = .ok (applied, entry') ∧ LogOnly e e' := by
  unfold enforce at ran
  cases edited : question.applyEdit slot edit phase entry with
  | error err =>
    simp only [edited, run_throw] at ran
    simp at ran
  | ok result =>
    obtain ⟨applied', entry''⟩ := result
    simp only [edited] at ran
    -- The clearing is reported or not; either way only the log changes.
    split at ran
    · rw [run_bind_eq_ok] at ran
      obtain ⟨_, e1, reported, ran⟩ := ran
      simp only [run_emit, Prod.mk.injEq] at reported
      obtain ⟨-, rfl⟩ := reported
      simp only [run_pure, Prod.mk.injEq, Except.ok.injEq] at ran
      obtain ⟨⟨rfl, rfl⟩, rfl⟩ := ran
      exact ⟨rfl, LogOnly.of_emit e _⟩
    · simp only [run_pure, Prod.mk.injEq, Except.ok.injEq] at ran
      obtain ⟨⟨rfl, rfl⟩, rfl⟩ := ran
      exact ⟨rfl, LogOnly.refl e⟩

/-- The engine's commit of a draft is the enforcer's, reporting events. -/
theorem run_commitDraft_eq {e e' : Engine} {question : Question} {slot : SlotId}
    {entry entry' : Entry} {applied : Option Applied}
    (ran : Engine.run e (commitDraft question slot entry) = (.ok (applied, entry'), e')) :
    question.commitDraft slot entry = .ok (applied, entry') ∧ LogOnly e e' := by
  unfold commitDraft at ran
  unfold Question.commitDraft
  -- Both sides read the slot's draft; the case split is on it, not on either match.
  cases found : entry.drafts.lookup slot with
  | none =>
    simp only [found, run_pure, Prod.mk.injEq, Except.ok.injEq] at ran
    obtain ⟨⟨rfl, rfl⟩, rfl⟩ := ran
    exact ⟨rfl, LogOnly.refl e⟩
  | some draft =>
    simp only [found] at ran
    rw [run_bind_eq_ok] at ran
    obtain ⟨⟨applied', entry''⟩, e1, enforced, ran⟩ := ran
    obtain ⟨edited, only⟩ := run_enforce_ok enforced
    simp only [run_pure, Prod.mk.injEq, Except.ok.injEq] at ran
    obtain ⟨⟨rfl, rfl⟩, rfl⟩ := ran
    refine ⟨?_, only⟩
    simp only [edited, bind, Except.bind, pure, Except.pure]

/-- **What committing a draft of any of the questions keeps, committing their pending drafts
keeps**, and only events are reported. -/
theorem run_commitPending_keeps {Q : Entry → Prop} {e e' : Engine} {edits : Entries Edit}
    {entry entry' : Entry} {questions : List Question}
    (ran : Engine.run e (commitPending edits entry questions) = (.ok entry', e'))
    (committing : ∀ question ∈ questions, ∀ slot entry result,
      question.commitDraft slot entry = .ok result → Q entry → Q result.2)
    (holds : Q entry) : Q entry' ∧ LogOnly e e' := by
  induction questions generalizing entry e with
  | nil =>
    simp only [commitPending, run_pure, Prod.mk.injEq, Except.ok.injEq] at ran
    obtain ⟨rfl, rfl⟩ := ran
    exact ⟨holds, LogOnly.refl e⟩
  | cons question rest ih =>
    simp only [commitPending] at ran
    rw [run_bind_eq_ok] at ran
    obtain ⟨committed, e1, folded, ran⟩ := ran
    -- The drafts of this question are committed one slot at a time.
    have first : Q committed ∧ LogOnly e e1 := by
      refine run_foldlM_ok (fun e2 acc => Q acc ∧ LogOnly e e2) _ _ ?_ entry e
        ⟨holds, LogOnly.refl e⟩ folded
      intro slot _ acc e2 acc' e3 ⟨kept, only⟩ stepped
      rw [run_bind_eq_ok] at stepped
      obtain ⟨⟨applied, entry''⟩, e4, drafted, stepped⟩ := stepped
      simp only [run_pure, Prod.mk.injEq, Except.ok.injEq] at stepped
      obtain ⟨rfl, rfl⟩ := stepped
      obtain ⟨committedOk, only'⟩ := run_commitDraft_eq drafted
      exact ⟨committing question List.mem_cons_self slot acc _ committedOk kept, only.trans only'⟩
    obtain ⟨kept, only⟩ := ih ran (fun other listed => committing other (List.mem_cons_of_mem _ listed))
      first.1
    exact ⟨kept, first.2.trans only⟩

theorem owningQuestion_mem {questions : List Question} {slot : SlotId} {question : Question}
    (found : owningQuestion questions slot = some question) : question ∈ questions :=
  List.mem_of_find?_eq_some found

/-- **What every step of a submission's edits keeps, its edits keep**: a property of the answers
and drafts kept by committing a draft of any of the questions, and by committing an edit of any
of them. Only events are reported. -/
theorem run_applyEdits_keeps {Q : Entry → Prop} {e e' : Engine} {s s' : Session} {block : Block}
    {questions : List Question} {edits : Entries Edit}
    (ran : Engine.run e (applyEdits s block questions edits) = (.ok s', e'))
    (committing : ∀ question ∈ questions, ∀ slot entry result,
      question.commitDraft slot entry = .ok result → Q entry → Q result.2)
    (editing : ∀ question ∈ questions, ∀ slot change entry result,
      question.applyEdit slot change .commit entry = .ok result → Q entry → Q result.2)
    (holds : Q ⟨s.answers, s.drafts⟩) :
    ∃ entry, s' = Session.withEntry s entry ∧ Q entry ∧ LogOnly e e' := by
  unfold applyEdits at ran
  rw [run_bind_eq_ok] at ran
  obtain ⟨pending, e1, committed, ran⟩ := ran
  rw [run_bind_eq_ok] at ran
  obtain ⟨placed, e2, mapped, ran⟩ := ran
  rw [run_bind_eq_ok] at ran
  obtain ⟨final, e3, folded, ran⟩ := ran
  simp only [run_pure, Prod.mk.injEq, Except.ok.injEq] at ran
  obtain ⟨rfl, rfl⟩ := ran
  obtain ⟨pendingKept, only⟩ := run_commitPending_keeps committed committing holds
  -- Every edit was placed in one of the questions.
  obtain ⟨unchanged, owned⟩ := run_mapM_ok (fun p : Question × SlotId × Edit => p.1 ∈ questions) _ _
    (fun pair _ e y e' placedOk => by
      obtain ⟨slot, change⟩ := pair
      dsimp only at placedOk
      cases found : owningQuestion questions slot with
      | none =>
        simp only [found, run_throw] at placedOk
        simp at placedOk
      | some question =>
        simp only [found, run_pure, Prod.mk.injEq, Except.ok.injEq] at placedOk
        obtain ⟨rfl, rfl⟩ := placedOk
        exact ⟨rfl, owningQuestion_mem found⟩) mapped
  rw [unchanged] at folded
  have within : ∀ p ∈ placed.filter (fun p => !(p.1.answer? p.2.1).any (·.kind.isExclusive)) ++
      placed.filter (fun p => (p.1.answer? p.2.1).any (·.kind.isExclusive)), p.1 ∈ questions := by
    intro p member
    rcases List.mem_append.mp member with first | second
    · exact owned p (List.mem_of_mem_filter first)
    · exact owned p (List.mem_of_mem_filter second)
  -- Then each edit is committed through the enforcer.
  have edited : Q final ∧ LogOnly e1 e3 := by
    refine run_foldlM_ok (fun e4 acc => Q acc ∧ LogOnly e1 e4) _ _ ?_ pending e1
      ⟨pendingKept, LogOnly.refl e1⟩ folded
    intro p member acc e4 acc' e5 ⟨kept, only'⟩ stepped
    obtain ⟨question, slot, change⟩ := p
    dsimp only at stepped
    rw [run_bind_eq_ok] at stepped
    obtain ⟨⟨applied, entry''⟩, e6, enforced, stepped⟩ := stepped
    simp only [run_pure, Prod.mk.injEq, Except.ok.injEq] at stepped
    obtain ⟨rfl, rfl⟩ := stepped
    obtain ⟨editedOk, only''⟩ := run_enforce_ok enforced
    exact ⟨editing question (within _ member) slot change acc _ editedOk kept, only'.trans only''⟩
  exact ⟨final, rfl, edited.1, only.trans edited.2⟩

/-- **Applying a submission's edits** puts new answers and drafts in the session, changed at
the shown questions' slots only, and only reports events. -/
theorem run_applyEdits_frame {e e' : Engine} {s s' : Session} {block : Block}
    {questions : List Question} {edits : Entries Edit}
    (ran : Engine.run e (applyEdits s block questions edits) = (.ok s', e')) :
    ∃ entry, s' = Session.withEntry s entry ∧
      Entry.Frame (· ∈ questions.flatMap Question.slotIds) ⟨s.answers, s.drafts⟩ entry ∧
      LogOnly e e' := by
  -- Each step changes slots of its own question, one of the shown ones.
  have sub : ∀ question ∈ questions, ∀ slot ∈ question.slotIds,
      slot ∈ questions.flatMap Question.slotIds :=
    fun question listed _ declared => List.mem_flatMap.mpr ⟨question, listed, declared⟩
  exact run_applyEdits_keeps ran
    (fun question listed _ _ _ committed kept =>
      kept.trans ((Question.commitDraft_frame committed).mono (sub question listed)))
    (fun question listed _ _ _ _ edited kept =>
      kept.trans ((Question.applyEdit_frame edited).mono (sub question listed)))
    (Entry.Frame.refl _ _)

/-- **Applying a submission's edits** changes answers of the shown questions' slots only, keeps
the progress, and only reports events. -/
theorem run_applyEdits_ok {e e' : Engine} {s s' : Session} {block : Block}
    {questions : List Question} {edits : Entries Edit}
    (ran : Engine.run e (applyEdits s block questions edits) = (.ok s', e')) :
    AnswerStore.SameOutside (questions.flatMap Question.slotIds) s.answers s'.answers ∧
      s'.progress = s.progress ∧ LogOnly e e' := by
  obtain ⟨entry, rfl, framed, only⟩ := run_applyEdits_frame ran
  exact ⟨framed.sameOutside, rfl, only⟩

/-! ### Validating -/

theorem run_totalReported_ok {e e' : Engine} {rule : CalculatedRule} {view : Lookup} {judged : Bool}
    {total : CalculatedTotal} (ran : Engine.run e (totalReported rule view judged) = (.ok total, e')) :
    LogOnly e e' := by
  unfold totalReported at ran
  rw [run_bind_eq_ok] at ran
  obtain ⟨_, e1, looped, ran⟩ := ran
  simp only [run_pure, Prod.mk.injEq] at ran
  obtain ⟨-, rfl⟩ := ran
  -- Each overflowing source is reported.
  refine run_forIn_ok (fun e1 _ => LogOnly e e1) _ _ ?_ _ e (LogOnly.refl e) looped
  intro slot _ _ e2 r e3 only stepped
  rw [run_bind_eq_ok] at stepped
  obtain ⟨_, e4, reported, stepped⟩ := stepped
  simp only [run_emit, Prod.mk.injEq] at reported
  obtain ⟨-, rfl⟩ := reported
  simp only [run_pure, Prod.mk.injEq] at stepped
  obtain ⟨-, rfl⟩ := stepped
  exact only.trans (LogOnly.of_emit e2 _)

/-- **Validation records totals** and changes nothing else of the session; it only reports
events. -/
theorem run_validate_ok {e e' : Engine} {s s' : Session} {block : Block} {questions : List Question}
    {path : RoutingPath} {errors : List ValidationError}
    (ran : Engine.run e (validate s block questions path) = (.ok (errors, s'), e')) :
    (∃ totals, s' = { s with totals }) ∧ LogOnly e e' := by
  unfold validate at ran
  rw [run_bind_eq_ok] at ran
  obtain ⟨q, e1, served, ran⟩ := ran
  simp only [run_served, Prod.mk.injEq, Except.ok.injEq] at served
  obtain ⟨rfl, rfl⟩ := served
  rw [run_bind_eq_ok] at ran
  obtain ⟨checked, e2, looped, ran⟩ := ran
  simp only [run_pure, Prod.mk.injEq, Except.ok.injEq] at ran
  obtain ⟨⟨-, rfl⟩, rfl⟩ := ran
  refine ⟨⟨_, rfl⟩, ?_⟩
  -- Each calculation is evaluated and a mismatch reported.
  refine run_forIn_ok (fun e1 _ => LogOnly e e1) _ _ ?_ _ e (LogOnly.refl e) looped
  intro rule _ _ e3 r e4 only stepped
  rw [run_bind_eq_ok] at stepped
  obtain ⟨total, e5, reported, stepped⟩ := stepped
  have only' := only.trans (run_totalReported_ok reported)
  dsimp only at stepped
  split at stepped
  · rw [run_bind_eq_ok] at stepped
    obtain ⟨_, e6, emitted, stepped⟩ := stepped
    simp only [run_emit, Prod.mk.injEq] at emitted
    obtain ⟨-, rfl⟩ := emitted
    simp only [run_pure, Prod.mk.injEq] at stepped
    obtain ⟨-, rfl⟩ := stepped
    exact only'.trans (LogOnly.of_emit e5 _)
  · simp only [run_pure, Prod.mk.injEq] at stepped
    obtain ⟨-, rfl⟩ := stepped
    exact only'

/-- The errors of calculations judged on a view: one for each total that misses its target. -/
def calculationErrors (view : Lookup) (rules : List CalculatedRule) : List ValidationError :=
  rules.filterMap fun rule =>
    if (rule.evaluate view).outcome == .mismatch then
      some (.totalMismatch rule.id (rule.evaluate view).total rule.target rule.comparison)
    else none

/-- The step of validation's loop over calculations: the calculation judged on the view, its
mismatch added to the errors found so far, if it misses, and its total to the totals. -/
def tallyRule (view : Lookup) (acc : List ValidationError × List (RuleId × CalculatedTotal))
    (rule : CalculatedRule) : List ValidationError × List (RuleId × CalculatedTotal) :=
  ((if (rule.evaluate view).outcome == .mismatch then
      acc.1 ++ [.totalMismatch rule.id (rule.evaluate view).total rule.target rule.comparison]
    else acc.1), acc.2 ++ [(rule.id, rule.evaluate view)])

/-- Tallying calculations adds their errors and their totals. -/
theorem foldl_tallyRule (view : Lookup) (rules : List CalculatedRule)
    (m : List ValidationError) (t : List (RuleId × CalculatedTotal)) :
    rules.foldl (tallyRule view) (m, t) =
      (m ++ calculationErrors view rules, t ++ rules.map fun r => (r.id, r.evaluate view)) := by
  induction rules generalizing m t with
  | nil => simp [calculationErrors]
  | cons rule rest ih =>
    rw [List.foldl_cons]
    by_cases missed : (rule.evaluate view).outcome = .mismatch
    · have step : tallyRule view (m, t) rule = (m ++ [.totalMismatch rule.id (rule.evaluate view).total
          rule.target rule.comparison], t ++ [(rule.id, rule.evaluate view)]) := by
        simp [tallyRule, missed]
      rw [step, ih]
      simp [calculationErrors, missed]
    · have step : tallyRule view (m, t) rule = (m, t ++ [(rule.id, rule.evaluate view)]) := by
        simp [tallyRule, missed]
      rw [step, ih]
      simp [calculationErrors, missed]

/-- The totals of calculations judged on a view, each recorded in place of the one before. -/
def recordTotals (view : Lookup) (rules : List CalculatedRule) (totals : CalculatedTotals) :
    CalculatedTotals :=
  rules.foldl (fun t rule => t.record rule.id (rule.evaluate view)) totals

/-- Recording the totals of some calculations keeps the totals of every other rule. -/
theorem get?_recordTotals_of_not_mem (view : Lookup) (rules : List CalculatedRule)
    (totals : CalculatedTotals) {rule : RuleId} (other : rule ∉ rules.map (·.id)) :
    (recordTotals view rules totals).get? rule = totals.get? rule := by
  induction rules generalizing totals with
  | nil => rfl
  | cons r rest ih =>
    simp only [List.map_cons, List.mem_cons, not_or] at other
    simp only [recordTotals, List.foldl_cons] at ih ⊢
    rw [ih _ other.2, CalculatedTotals.get?_record_of_ne _ _ other.1]

/-- A total is the rule's total on the view, judged or not; overflowing sources are reported. -/
theorem run_totalReported (e : Engine) (rule : CalculatedRule) (view : Lookup) (judged : Bool) :
    ∃ e', Engine.run e (totalReported rule view judged) =
      (.ok (if judged then rule.evaluate view else rule.pending view), e') ∧ LogOnly e e' := by
  unfold totalReported
  rw [run_bind]
  obtain ⟨r, e1, looped, only, -⟩ := run_forIn (fun _ => True) (rule.totalOf view).2
    (fun slot _ => do emit (.overflowed rule.id slot); pure (ForInStep.yield PUnit.unit))
    (fun slot _ _ e _ => ⟨_, _, rfl, LogOnly.of_emit e _, trivial⟩) PUnit.unit e trivial
  rw [looped]
  exact ⟨e1, rfl, only⟩

/-- **Validation, exactly**: the errors of the shown questions, then those of the block's
calculations, all judged on the answers of the blocks on the path; and the session with the
calculations' totals recorded. -/
theorem run_validate {e e' : Engine} {s : Session} {block : Block} {questions : List Question}
    {path : RoutingPath} {result : Except EngineError (List ValidationError × Session)}
    (ran : Engine.run e (validate s block questions path) = (result, e')) :
    result = .ok (questions.flatMap (questionErrors (e.questionnaire.onPath s.answers path)) ++
        calculationErrors (e.questionnaire.onPath s.answers path) block.calculations,
      { s with totals :=
        recordTotals (e.questionnaire.onPath s.answers path) block.calculations s.totals }) ∧
      LogOnly e e' := by
  unfold validate at ran
  rw [run_bind, run_served] at ran
  dsimp only at ran
  rw [run_bind] at ran
  set view := e.questionnaire.onPath s.answers path
  -- The loop over the calculations cannot fail: it ends with the tally of all of them.
  split at ran
  all_goals
    rename_i looped
    obtain ⟨folded, only⟩ := run_forIn_yield_of_run (tallyRule view) (fun rule _ acc e => by
      obtain ⟨e2, reported, only⟩ := run_totalReported e rule view true
      rw [run_bind, reported]
      simp only [if_true]
      split
      · next missed =>
        refine ⟨{ e2 with log := e2.log ++
          [.totalMismatch rule.id (rule.evaluate view).total rule.target] }, ?_,
          only.trans (LogOnly.of_emit e2 _)⟩
        rw [run_bind, run_emit]
        simp only [beq_iff_eq] at missed
        simp [tallyRule, missed]
      · next kept =>
        refine ⟨e2, ?_, only⟩
        simp only [beq_iff_eq] at kept
        simp [tallyRule, kept]) looped
  · rw [Except.ok.injEq, foldl_tallyRule] at folded
    subst folded
    simp only [run_pure, Prod.mk.injEq] at ran
    obtain ⟨rfl, rfl⟩ := ran
    refine ⟨?_, only⟩
    simp [recordTotals, List.foldl_map]
  · simp at folded

/-! ### Wiping skipped blocks -/

/-- Whether wiping along `path` clears a block: it is to be wiped when skipped (itself, or
every block by the engine's settings), and it is off the path. -/
def wipes (config : EngineConfig) (path : RoutingPath) (b : Block) : Bool :=
  (b.invalidateWhenSkipped || config.invalidateSkippedAnswers) && !path.contains b.id

/-- The session with the answers and drafts of some slots cleared. -/
def clearSlots (s : Session) (slots : List SlotId) : Session :=
  slots.foldl (fun s slot =>
    { s with answers := (s.answers.clear slot).2, drafts := s.drafts.erase slot }) s

/-- The step of wiping's loop over a block's slots: the slot's answer and draft cleared, and the
count of answers cleared raised when it held one. -/
def clearCounting (acc : Session × Nat) (slot : SlotId) : Session × Nat :=
  ({ acc.1 with answers := (acc.1.answers.clear slot).2, drafts := acc.1.drafts.erase slot },
    if (acc.1.answers.clear slot).1.isSome then acc.2 + 1 else acc.2)

/-- Clearing slots one by one while counting leaves `clearSlots`. -/
theorem foldl_clearCounting_fst (slots : List SlotId) (s : Session) (n : Nat) :
    (slots.foldl clearCounting (s, n)).1 = clearSlots s slots := by
  induction slots generalizing s n with
  | nil => rfl
  | cons slot rest ih => exact ih _ _

/-- The session with a block wiped: the answers and drafts of its slots, its submission, and the
totals of its calculations. -/
def wipeBlock (s : Session) (b : Block) : Session :=
  { clearSlots s b.slotIds with
    progress := ((clearSlots s b.slotIds).progress.forget b.id).2
    totals := b.calculations.foldl (fun t r => (t.forget r.id).2) (clearSlots s b.slotIds).totals }

@[simp] theorem clearSlots_progress (s : Session) (slots : List SlotId) :
    (clearSlots s slots).progress = s.progress := by
  induction slots generalizing s with
  | nil => rfl
  | cons slot rest ih => exact ih _

@[simp] theorem clearSlots_totals (s : Session) (slots : List SlotId) :
    (clearSlots s slots).totals = s.totals := by
  induction slots generalizing s with
  | nil => rfl
  | cons slot rest ih => exact ih _

/-- **Wiping skipped blocks, exactly**: every block that wiping along the path clears is wiped,
in order. -/
theorem run_invalidateSkipped {e e' : Engine} {s : Session} {path : RoutingPath}
    {result : Except EngineError Session}
    (ran : Engine.run e (invalidateSkipped s path) = (result, e')) :
    result = .ok (e.questionnaire.blocks.foldl
        (fun s b => if wipes e.config path b then wipeBlock s b else s) s) ∧ LogOnly e e' := by
  unfold invalidateSkipped at ran
  rw [run_bind, run_get] at ran
  dsimp only at ran
  rw [run_bind] at ran
  split at ran
  all_goals
    rename_i looped
    obtain ⟨folded, only⟩ := run_forIn_yield_of_run
      (fun s b => if wipes e.config path b then wipeBlock s b else s) (fun b _ acc e1 => by
        split
        · next wiped =>
          rw [run_bind]
          split
          all_goals
            rename_i inner
            obtain ⟨innerFolded, innerOnly⟩ := run_forIn_yield_of_run clearCounting
              (fun slot _ pair e2 => by
                refine ⟨e2, ?_, LogOnly.refl e2⟩
                split
                · next held => simp only [run_pure, clearCounting, if_pos held]
                · next empty => simp only [run_pure, clearCounting, if_neg empty]) inner
          · rw [Except.ok.injEq] at innerFolded
            subst innerFolded
            have wipedHere : wipes e.config path b = true := by simpa [wipes] using wiped
            simp only [wipedHere, if_true]
            split
            · rw [run_bind, run_emit]
              exact ⟨_, Prod.ext (by simp [wipeBlock, foldl_clearCounting_fst]) rfl,
                innerOnly.trans (LogOnly.of_emit _ _)⟩
            · refine ⟨_, ?_, innerOnly⟩
              simp [wipeBlock, foldl_clearCounting_fst]
          · simp at innerFolded
        · next kept =>
          have keptHere : wipes e.config path b = false := by simpa [wipes] using kept
          exact ⟨e1, by simp [keptHere], LogOnly.refl e1⟩) looped
  · rw [Except.ok.injEq] at folded
    subst folded
    simp only [run_pure, Prod.mk.injEq] at ran
    obtain ⟨rfl, rfl⟩ := ran
    exact ⟨rfl, only⟩
  · simp at folded

/-- Clearing some slots changes their answers and drafts only. -/
theorem clearSlots_frame (s : Session) (slots : List SlotId) :
    Entry.Frame (· ∈ slots) ⟨s.answers, s.drafts⟩
      ⟨(clearSlots s slots).answers, (clearSlots s slots).drafts⟩ := by
  induction slots generalizing s with
  | nil => exact Entry.Frame.refl _ _
  | cons slot rest ih =>
    have own : slot ∈ slot :: rest := List.mem_cons_self
    have first : Entry.Frame (· ∈ slot :: rest) ⟨s.answers, s.drafts⟩
        ⟨(s.answers.clear slot).2, s.drafts.erase slot⟩ :=
      (Entry.Frame.of_clear own).trans (Entry.Frame.of_erase_draft own)
    have later := ih { s with answers := (s.answers.clear slot).2, drafts := s.drafts.erase slot }
    exact first.trans (later.mono fun slot' listed => List.mem_cons_of_mem slot listed)

/-- Forgetting the totals of some calculations keeps the totals of every other rule. -/
theorem get?_foldl_forget (rules : List CalculatedRule) (totals : CalculatedTotals) {rule : RuleId}
    (other : rule ∉ rules.map (·.id)) :
    (rules.foldl (fun t r => (t.forget r.id).2) totals).get? rule = totals.get? rule := by
  induction rules generalizing totals with
  | nil => rfl
  | cons r rest ih =>
    simp only [List.map_cons, List.mem_cons, not_or] at other
    rw [List.foldl_cons, ih _ other.2, CalculatedTotals.get?_forget_of_ne _ other.1]

/-- Wiping a block changes its slots, its submission and its totals only. -/
theorem wipeBlock_frame (s : Session) (b : Block) :
    Session.Frame (· ∈ b.slotIds) (· = b.id) (· ∈ b.calculations.map (·.id)) s (wipeBlock s b) :=
  ⟨clearSlots_frame s b.slotIds,
    fun block other => by simp [wipeBlock, ProgressStore.isSubmitted_forget_of_ne _ other],
    fun rule other => by simp [wipeBlock, get?_foldl_forget _ _ other]⟩

@[simp] theorem wipeBlock_unsubmitted (s : Session) (b : Block) :
    (wipeBlock s b).progress.isSubmitted b.id = false := by
  simp [wipeBlock]

/-- Wiping a block submits nothing. -/
theorem wipeBlock_submitted {s : Session} {b : Block} {block : BlockId}
    (submitted : (wipeBlock s b).progress.isSubmitted block = true) :
    s.progress.isSubmitted block = true := by
  by_cases same : block = b.id
  · subst same
    simp at submitted
  · simpa [wipeBlock, ProgressStore.isSubmitted_forget_of_ne _ same] using submitted

/-- A block of the questionnaire that wiping along `path` clears. -/
def Wiped (q : Questionnaire) (config : EngineConfig) (path : RoutingPath) (b : Block) : Prop :=
  b ∈ q.blocks ∧ wipes config path b = true

section Wiping

variable (q : Questionnaire) (config : EngineConfig) (path : RoutingPath)

/-- The session after wiping the blocks `bs` of the questionnaire that wiping clears. -/
theorem wipeAll_frame (s : Session) (bs : List Block) (within : ∀ b ∈ bs, b ∈ q.blocks) :
    Session.Frame (fun slot => ∃ b, Wiped q config path b ∧ slot ∈ b.slotIds)
      (fun block => ∃ b, Wiped q config path b ∧ block = b.id)
      (fun rule => ∃ b, Wiped q config path b ∧ rule ∈ b.calculations.map (·.id)) s
      (bs.foldl (fun s b => if wipes config path b then wipeBlock s b else s) s) := by
  induction bs generalizing s with
  | nil => exact Session.Frame.refl _ _ _ _
  | cons b rest ih =>
    rw [List.foldl_cons]
    refine Session.Frame.trans ?_ (ih _ fun b' listed => within b' (List.mem_cons_of_mem b listed))
    split
    · next wiped =>
      have cleared : Wiped q config path b := ⟨within b List.mem_cons_self, wiped⟩
      exact (wipeBlock_frame s b).mono (fun slot declared => ⟨b, cleared, declared⟩)
        (fun block same => ⟨b, cleared, same⟩) (fun rule listed => ⟨b, cleared, listed⟩)
    · exact Session.Frame.refl _ _ _ _

/-- Every block wiping clears is left unsubmitted. -/
theorem wipeAll_unsubmitted (s : Session) (bs : List Block) {b : Block} (listed : b ∈ bs)
    (wiped : wipes config path b = true) :
    (bs.foldl (fun s b => if wipes config path b then wipeBlock s b else s) s).progress.isSubmitted
      b.id = false := by
  -- Once wiped, no later block marks it again.
  have noneMarked : ∀ (bs : List Block) (s : Session) block,
      (bs.foldl (fun s b => if wipes config path b then wipeBlock s b else s) s).progress.isSubmitted
        block = true → s.progress.isSubmitted block = true := by
    intro bs
    induction bs with
    | nil => exact fun s block submitted => submitted
    | cons b' rest ih =>
      intro s block submitted
      rw [List.foldl_cons] at submitted
      have before := ih _ block submitted
      split at before
      · exact wipeBlock_submitted before
      · exact before
  induction bs generalizing s with
  | nil => simp at listed
  | cons b' rest ih =>
    rw [List.foldl_cons]
    rcases List.mem_cons.mp listed with rfl | later
    · cases marked : (rest.foldl (fun s b' => if wipes config path b' then wipeBlock s b' else s)
        (if wipes config path b then wipeBlock s b else s)).progress.isSubmitted b.id with
      | false => rfl
      | true =>
        have := noneMarked rest _ b.id marked
        simp [wiped] at this
    · exact ih _ later

end Wiping

/-- A slot every block of which (the blocks declaring it) is on the path. -/
def OnlyOnPath (q : Questionnaire) (path : RoutingPath) (slot : SlotId) : Prop :=
  ∀ b ∈ q.blocks, slot ∈ b.slotIds → path.contains b.id = true

/-- A slot that belongs only to blocks on the path is in no block that wiping along it clears. -/
theorem not_wiped_of_onlyOnPath {q : Questionnaire} {config : EngineConfig} {path : RoutingPath}
    {slot : SlotId} (onlyOnPath : OnlyOnPath q path slot) :
    ¬ ∃ b, Wiped q config path b ∧ slot ∈ b.slotIds := by
  rintro ⟨b, ⟨member, wiped⟩, declared⟩
  simp [wipes, onlyOnPath b member declared] at wiped

end Engine

end Survey
