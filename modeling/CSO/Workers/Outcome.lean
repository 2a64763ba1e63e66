import CSO.Workers.Execution

/-! The final stages of a refund: which reports a run has when it shows one, and which responses
of the gateway never lead to one. -/
namespace CSO.Workers
open Transition (Machine)
open Gateway (ExecutionResult ReconciliationResult)

def ProviderOutcome.stage : ProviderOutcome → Stage
  | .completed => .refundSucceeded
  | .failed => .refundFailed

/-- The refund has succeeded or failed. -/
def Stage.final : Stage → Bool
  | .refundSucceeded | .refundFailed => true
  | _ => false

/-- The stages that follow the execution. -/
def Stage.executed : Stage → Bool
  | .refundProcessing | .pendingReconciliation | .refundSucceeded | .refundFailed => true
  | _ => false

theorem ProviderOutcome.stage_final (outcome : ProviderOutcome) : outcome.stage.final = true := by
  cases outcome <;> rfl

theorem Stage.executed_of_final {stage : Stage} (h : stage.final = true) :
    stage.executed = true := by
  cases stage with
  | refundSucceeded => rfl
  | refundFailed => rfl
  | _ => cases h

def ProviderOutcome.executionStatus : ProviderOutcome → Gateway.ExecutionStatus
  | .completed => .succeeded
  | .failed => .failed

def ProviderOutcome.reconciliationStatus : ProviderOutcome → Gateway.ReconciliationStatus
  | .completed => .succeeded
  | .failed => .failed

/-- The refund that a result of the gateway names. -/
def Occurrence.refundId : Occurrence → Option String
  | .completed (.execution result) => result.providerRefundId
  | .completed (.reconciliation result) => result.providerRefundId
  | _ => none

/-- The first refund that the gateway has named. -/
def toldRefund (h : List HistoryEvent) : Option String :=
  (h.filterMap fun e => e.occurrence.refundId).getLast?

def Occurrence.outcome : Occurrence → Option RefundProviderOutcome
  | .handled (.recordProviderRefundOutcome received) => some received
  | _ => none

/-- The first outcome that was handled after the run had been told of its refund. -/
def takenOutcome : List HistoryEvent → Option RefundProviderOutcome
  | [] => none
  | e :: past => (takenOutcome past).or
      (e.occurrence.outcome.filter fun received =>
        toldRefund past = some received.providerRefundId)

/-- The outcome was handled after the run had been told of its refund. -/
def Delivered (received : RefundProviderOutcome) (h : List HistoryEvent) : Prop :=
  ∃ later t past, h = later ++ ⟨t, .handled (.recordProviderRefundOutcome received)⟩ :: past ∧
    toldRefund past = some received.providerRefundId

/-- The execution, a reconciliation or a delivered event has reported the outcome. -/
def Reported (outcome : ProviderOutcome) (h : List HistoryEvent) : Prop :=
  (∃ t result, ⟨t, .completed (.execution result)⟩ ∈ h ∧
    result.status = outcome.executionStatus) ∨
  (∃ t result, ⟨t, .completed (.reconciliation result)⟩ ∈ h ∧
    result.status = outcome.reconciliationStatus) ∨
  ∃ received, Delivered received h ∧ received.outcome = outcome

section Reports
variable {e : HistoryEvent} {h : List HistoryEvent} {received : RefundProviderOutcome}

theorem toldRefund_cons : toldRefund (e :: h) = (toldRefund h).or e.occurrence.refundId := by
  unfold toldRefund
  cases he : e.occurrence.refundId with
  | none => simp [he]
  | some refundId =>
    rw [List.filterMap_cons, he]
    exact List.getLast?_cons.trans (by cases List.getLast? _ <;> rfl)

theorem toldRefund_quiet (he : e.occurrence.refundId = none) :
    toldRefund (e :: h) = toldRefund h := by
  rw [toldRefund_cons, he, Option.or_none]

theorem Delivered.cons (hd : Delivered received h) : Delivered received (e :: h) := by
  obtain ⟨later, t, past, heq, htold⟩ := hd
  exact ⟨e :: later, t, past, by rw [heq]; rfl, htold⟩

theorem Delivered.reported (hd : Delivered received h) : Reported received.outcome h :=
  .inr (.inr ⟨received, hd, rfl⟩)

theorem takenOutcome_quiet (he : e.occurrence.outcome = none) :
    takenOutcome (e :: h) = takenOutcome h := by
  unfold takenOutcome
  rw [he, Option.filter_none, Option.or_none]
  cases h <;> rfl

/-- An outcome that has been taken stays the one. -/
theorem takenOutcome_append (later : List HistoryEvent) (ht : takenOutcome h = some received) :
    takenOutcome (later ++ h) = some received := by
  induction later with
  | nil => exact ht
  | cons e later ih =>
    change (takenOutcome (later ++ h)).or _ = _
    rw [ih, Option.some_or]

theorem takenOutcome_delivered (ht : takenOutcome h = some received) : Delivered received h := by
  induction h with
  | nil => cases ht
  | cons e past ih =>
    rcases Option.or_eq_some_iff.mp ht with hpast | ⟨-, hnew⟩
    · exact (ih hpast).cons
    · obtain ⟨houtcome, htold⟩ := Option.filter_eq_some_iff.mp hnew
      obtain ⟨t, occurrence⟩ := e
      cases occurrence with
      | handled signal =>
        cases signal with
        | recordProviderRefundOutcome found =>
          cases houtcome
          exact ⟨[], t, past, rfl, of_decide_eq_true htold⟩
        | _ => cases houtcome
      | _ => cases houtcome

/-- A run that has been told of no refund has taken no outcome. -/
theorem takenOutcome_untold (ht : toldRefund h = none) : takenOutcome h = none := by
  induction h with
  | nil => rfl
  | cons e past ih =>
    rw [toldRefund_cons] at ht
    obtain ⟨hpast, -⟩ := Option.or_eq_none_iff.mp ht
    unfold takenOutcome
    rw [ih hpast, hpast]
    simp

end Reports

/-! The variables of the processing loop. -/

/-- The loop knows the refund the run has been told of, and what it has taken for it. -/
structure OutcomeWait.Told (wait : OutcomeWait) (h : List HistoryEvent) : Prop where
  refund : wait.providerRefundId = toldRefund h
  outcome : wait.providerOutcome = takenOutcome h

theorem OutcomeWait.Told.quiet {wait : OutcomeWait} {e : HistoryEvent} {h : List HistoryEvent}
    (ht : wait.Told h) (he : e.occurrence.refundId = none) (ho : e.occurrence.outcome = none) :
    wait.Told (e :: h) := by
  constructor
  · rw [toldRefund_quiet he, ht.refund]
  · rw [takenOutcome_quiet ho, ht.outcome]

theorem OutcomeWait.Told.delivered {wait : OutcomeWait} {h : List HistoryEvent}
    {received : RefundProviderOutcome} (ht : wait.Told h)
    (hr : wait.providerOutcome = some received) : Delivered received h :=
  takenOutcome_delivered (ht.outcome.symm.trans hr)

theorem OutcomeWait.Told.receive {wait : OutcomeWait} {h : List HistoryEvent} {t : ℤ}
    (ht : wait.Told h) (received : RefundProviderOutcome) :
    (wait.receive received).Told
      (⟨t, .handled (.recordProviderRefundOutcome received)⟩ :: h) := by
  have hrefund : wait.providerRefundId =
      toldRefund (⟨t, .handled (.recordProviderRefundOutcome received)⟩ :: h) := by
    rw [toldRefund_quiet rfl, ht.refund]
  have htaken : takenOutcome (⟨t, .handled (.recordProviderRefundOutcome received)⟩ :: h) =
      wait.providerOutcome.or ((some received).filter fun found =>
        wait.providerRefundId = some found.providerRefundId) := by
    rw [ht.outcome, ht.refund]
    rfl
  unfold OutcomeWait.receive
  split_ifs with hmatch
  · refine ⟨hrefund, ?_⟩
    rw [htaken, hmatch.1, Option.none_or, Option.filter_some, if_pos (decide_eq_true hmatch.2)]
  · refine ⟨hrefund, ?_⟩
    rw [htaken]
    cases houtcome : wait.providerOutcome with
    | some found => rfl
    | none =>
      have hother : wait.providerRefundId ≠ some received.providerRefundId :=
        fun heq => hmatch ⟨houtcome, heq⟩
      rw [Option.none_or, Option.filter_some, if_neg (by simpa using hother)]

/-! The phases of a run. -/

inductive Phase
  | journey
  | processing
  | pending
  | ended
  deriving DecidableEq

def Control.phase : Control → Phase
  | .reconcilingProcessing .. | .awaitingOutcome .. => .processing
  | .reconcilingPending .. | .sleepingPending .. => .pending
  | .finished | .failed => .ended
  | _ => .journey

/-- The stage shows no final outcome that has not been reported. -/
def Run.Honest (run : Run) : Prop :=
  ∀ outcome : ProviderOutcome, run.state.stage = outcome.stage → Reported outcome run.history

/-- Before the execution returns, the gateway has named no refund. -/
structure Run.Journey (run : Run) : Prop where
  told : toldRefund run.history = none
  stage : run.state.stage.executed = false

/-- A run in its processing loop. -/
structure Run.Processing (run : Run) : Prop where
  stage : run.state.stage = .refundProcessing
  wait : ∃ wait, run.outcomeWait = some wait ∧ wait.Told run.history

/-- What the phase of a run says of its stage. -/
def Run.Consistent (run : Run) : Prop :=
  match run.control.phase with
  | .journey => run.Journey
  | .processing => run.Processing
  | .pending => run.state.stage = .pendingReconciliation
  | .ended => run.Honest

def Run.Underway (run : Run) : Prop :=
  run.Journey ∧ (run.control.phase = .journey ∨ run.control.phase = .ended)

namespace Run
variable {run : Run}

/-- A stage that is not final claims nothing. -/
theorem honest_of_not_final (h : run.state.stage.final = false) : run.Honest := by
  intro outcome hstage
  rw [hstage, outcome.stage_final] at h
  cases h

theorem Journey.honest (h : run.Journey) : run.Honest := by
  apply honest_of_not_final
  by_contra hfinal
  have hexecuted := Stage.executed_of_final ((Bool.not_eq_false _).mp hfinal)
  rw [h.stage] at hexecuted
  cases hexecuted

theorem Processing.honest (h : run.Processing) : run.Honest := by
  apply honest_of_not_final
  rw [h.stage]
  rfl

theorem Consistent.honest (h : run.Consistent) : run.Honest := by
  unfold Consistent at h
  split at h
  · exact h.honest
  · exact h.honest
  · apply honest_of_not_final
    rw [h]
    rfl
  · exact h

theorem Underway.consistent (h : run.Underway) : run.Consistent := by
  unfold Consistent
  rcases h.2 with hphase | hphase
  · rw [hphase]
    exact h.1
  · rw [hphase]
    exact h.1.honest

/-! The journey up to the execution. -/

section Journey
variable (h : run.Journey)
include h

theorem Journey.log {o : Occurrence} (ho : o.refundId = none) : (run.log o).Journey :=
  ⟨(toldRefund_quiet ho).trans h.told, h.stage⟩

theorem Journey.schedule {activity : Activity} {control : Control}
    (hc : control.phase = .journey) : (run.schedule activity control).Underway :=
  ⟨⟨(toldRefund_quiet rfl).trans h.told, h.stage⟩, .inl hc⟩

theorem Journey.sleep {milliseconds : ℤ} {control : ℤ → Control}
    (hc : (control (run.now + milliseconds)).phase = .journey) :
    (run.sleep milliseconds control).Underway :=
  ⟨⟨(toldRefund_quiet rfl).trans h.told, h.stage⟩, .inl hc⟩

theorem Journey.setState {state : RefundWorkflowState}
    (hs : state.stage.executed = false) :
    (run.setState state).Journey := ⟨h.told, hs⟩

theorem Journey.finish {state : RefundWorkflowState}
    (hs : state.stage.executed = false) :
    (run.finish state).Underway := ⟨⟨h.told, hs⟩, .inr rfl⟩

theorem Journey.dispatchBuffered : run.dispatchBuffered.Journey := by
  refine dispatchBuffered_invariant (I := Journey) ?_ (fun _ _ h => ⟨h.told, h.stage⟩) h
  intro r signal r' hr hs
  rw [handle_frame hs]
  exact ⟨(toldRefund_quiet rfl).trans hr.told, hr.stage⟩

theorem Journey.declineOffer {offer : Offer} (refusal : Refusal) :
    (run.declineOffer offer refusal).Underway := by
  have hs : refusal.stage.executed = false := by cases refusal <;> rfl
  unfold Run.declineOffer
  split
  · split_ifs
    · exact h.schedule rfl
    · exact h.finish hs
  · exact h.finish hs

theorem Journey.openMonetaryCase {evidence : Option EvidenceSnapshot}
    {input : OpenHumanCaseInput} {control : Control} (hc : control.phase = .journey) :
    (run.openMonetaryCase evidence input control).Underway := by
  unfold Run.openMonetaryCase
  split <;> exact h.schedule hc

theorem Journey.executeAuthorizedRefund {offer : Offer} :
    (run.executeAuthorizedRefund offer).Underway := by
  unfold Run.executeAuthorizedRefund
  split_ifs <;> exact h.schedule rfl

theorem Journey.afterExecutionEvidence {offer : Offer} {current : EvidenceSnapshot} :
    (run.afterExecutionEvidence offer current).Underway := by
  unfold Run.afterExecutionEvidence
  split_ifs
  · exact h.schedule rfl
  · exact h.finish rfl

theorem Journey.afterExecutionContext {offer : Offer} {refreshed : RefundContext} :
    (run.afterExecutionContext offer refreshed).Underway := by
  unfold Run.afterExecutionContext
  split_ifs
  · exact h.schedule rfl
  · exact h.finish rfl

theorem Journey.afterObservation {offer : Offer} {confirmation : RefundCustomerConfirmation} :
    (run.afterObservation offer confirmation).Underway := by
  unfold Run.afterObservation
  split_ifs
  · split
    · exact h.openMonetaryCase rfl
    · exact h.executeAuthorizedRefund
    · exact h.executeAuthorizedRefund
  · exact h.declineOffer _

theorem Journey.afterConfirmation {offer : Offer}
    {confirmation : Option RefundCustomerConfirmation} :
    (run.afterConfirmation offer confirmation).Underway := by
  cases confirmation with
  | none => exact h.declineOffer _
  | some c =>
    unfold Run.afterConfirmation Run.observeRefundConfirmation
    split_ifs
    · exact h.schedule rfl
    · exact h.afterObservation

theorem Journey.awaitConfirmation {offer : Offer} {wait : ConfirmationWait} :
    (run.awaitConfirmation offer wait).Underway := by
  unfold Run.awaitConfirmation
  split_ifs
  · split
    · split_ifs
      · exact h.afterConfirmation
      · exact h.sleep rfl
    · exact h.afterConfirmation
  · exact ⟨⟨h.told, h.stage⟩, .inl rfl⟩
  · exact h.afterConfirmation

theorem Journey.offerPreview {branch : Branch} {evidence : Option EvidenceSnapshot}
    {decision : RefundPolicyDecision} {preview : RefundPreview} :
    (run.offerPreview branch evidence decision preview).Underway := by
  unfold Run.offerPreview Run.waitForRefundConfirmation
  apply awaitConfirmation
  apply dispatchBuffered
  exact ⟨h.told, rfl⟩

theorem Journey.requestPreview {branch : Branch} {evidence : Option EvidenceSnapshot}
    {refundContext : RefundContext} {decision : RefundPolicyDecision}
    {authorization : Option RefundPreviewAuthorization} :
    (run.requestPreview branch evidence refundContext decision authorization).Underway :=
  h.schedule rfl

theorem Journey.installReview {review : HumanReview} {control : Control}
    (hc : control.phase = .journey) : (run.installReview review control).Underway := by
  have hr : ({ run with review := some review } : Run).Journey := ⟨h.told, h.stage⟩
  exact ⟨⟨hr.dispatchBuffered.told, hr.dispatchBuffered.stage⟩, .inl hc⟩

theorem Journey.afterApprovalOpened {offer : Offer} {caseId : String} :
    (run.afterApprovalOpened offer caseId).Underway :=
  (h.setState rfl).installReview rfl

theorem Journey.afterApprovalClosed {offer : Offer} {humanDecision : RefundHumanDecision} :
    (run.afterApprovalClosed offer humanDecision).Underway := by
  unfold Run.afterApprovalClosed
  split_ifs
  · exact h.finish rfl
  · exact h.executeAuthorizedRefund

theorem Journey.afterTakeoverOpened {evidence : Option EvidenceSnapshot}
    {decision : RefundPolicyDecision} {caseId : String} :
    (run.afterTakeoverOpened evidence decision caseId).Underway :=
  (h.setState rfl).installReview rfl

theorem Journey.afterTakeoverClosed {evidence : Option EvidenceSnapshot}
    {decision : RefundPolicyDecision} {caseId : String} {humanDecision : RefundHumanDecision} :
    (run.afterTakeoverClosed evidence decision caseId humanDecision).Underway := by
  unfold Run.afterTakeoverClosed
  split
  · exact h.schedule rfl
  · exact h.finish rfl
  · exact h.finish rfl
  · exact h.finish rfl

theorem Journey.afterTakeoverContext {evidence : Option EvidenceSnapshot}
    {decision : RefundPolicyDecision} {caseId : String} {refreshedContext : RefundContext} :
    (run.afterTakeoverContext evidence decision caseId refreshedContext).Underway := by
  unfold Run.afterTakeoverContext
  split_ifs
  · exact h.schedule rfl
  · exact h.requestPreview

theorem Journey.afterTakeoverEvidence {evidence : Option EvidenceSnapshot}
    {decision : RefundPolicyDecision} {caseId : String} {refreshedContext : RefundContext}
    {current : EvidenceSnapshot} :
    (run.afterTakeoverEvidence evidence decision caseId refreshedContext current).Underway := by
  unfold Run.afterTakeoverEvidence
  split_ifs
  · exact h.schedule rfl
  · exact h.finish rfl

theorem Journey.afterTakeoverEvaluated {evidence : Option EvidenceSnapshot} {caseId : String}
    {refreshedContext : RefundContext} {decision : RefundPolicyDecision} :
    (run.afterTakeoverEvaluated evidence caseId refreshedContext decision).Underway := by
  unfold Run.afterTakeoverEvaluated
  split
  · exact h.finish rfl
  · exact h.finish rfl
  · exact h.requestPreview
  · exact h.requestPreview
  · exact h.requestPreview

theorem Journey.selectBranch {evidence : Option EvidenceSnapshot} {refundContext : RefundContext}
    {decision : RefundPolicyDecision} :
    (run.selectBranch evidence refundContext decision).Underway := by
  have hl : (run.log (.selected decision.effect)).Journey := h.log rfl
  unfold Run.selectBranch
  simp only
  split
  · exact hl.finish rfl
  · exact hl.finish rfl
  · exact hl.requestPreview
  · exact hl.openMonetaryCase rfl
  · exact hl.requestPreview

theorem Journey.awaitEvidence {evidence : EvidenceSnapshot} {decision : RefundPolicyDecision}
    {deadline : ℤ} {polls : ℕ} : (run.awaitEvidence evidence decision deadline polls).Underway := by
  unfold Run.awaitEvidence Run.closeExpiredEvidence
  split
  · split_ifs
    · exact h.schedule rfl
    · have hs : (run.setState { stage := evidenceStage evidence, decision := some decision }).Journey := by
        refine h.setState ?_
        unfold evidenceStage
        split_ifs <;> rfl
      exact hs.sleep rfl
  · split_ifs
    · exact h.schedule rfl
    · exact h.schedule rfl

theorem Journey.afterReviewedPolicy {evidence : EvidenceSnapshot} {refundContext : RefundContext}
    {decision : RefundPolicyDecision} :
    (run.afterReviewedPolicy evidence refundContext decision).Underway := by
  unfold Run.afterReviewedPolicy
  split
  · exact h.schedule rfl
  · exact h.schedule rfl
  · exact h.schedule rfl
  · exact h.selectBranch
  · exact h.selectBranch

theorem Journey.afterPolicy {refundContext : RefundContext} {decision : RefundPolicyDecision} :
    (run.afterPolicy refundContext decision).Underway := by
  unfold Run.afterPolicy
  split_ifs
  · exact h.schedule rfl
  · exact h.selectBranch

theorem Journey.afterContext {refundContext : RefundContext} :
    (run.afterContext refundContext).Underway := by
  unfold Run.afterContext
  split
  · exact h.afterPolicy
  · exact h.schedule rfl

end Journey

/-! Reconciliation. -/

theorem Processing.handle {run' : Run} {signal : Signal} (h : run.Processing)
    (hs : run.handle signal = some run') : run'.Processing := by
  obtain ⟨hstage, wait, hwait, htold⟩ := h
  unfold Run.handle at hs
  cases signal with
  | confirmRefund received =>
    obtain ⟨-, -, rfl⟩ := Option.map_eq_some_iff.mp hs
    exact ⟨hstage, wait, hwait, htold.quiet rfl rfl⟩
  | decideRefund received =>
    obtain ⟨-, -, rfl⟩ := Option.map_eq_some_iff.mp hs
    exact ⟨hstage, wait, hwait, htold.quiet rfl rfl⟩
  | recordProviderRefundOutcome received =>
    simp only [hwait, Option.map_some, Option.some.injEq] at hs
    cases hs
    exact ⟨hstage, _, rfl, htold.receive received⟩

theorem Processing.dispatchBuffered (h : run.Processing) : run.dispatchBuffered.Processing :=
  dispatchBuffered_invariant (fun _ _ _ hr hs => hr.handle hs)
    (fun _ _ hr => ⟨hr.stage, hr.wait⟩) h

theorem pending_reconcile {decision : RefundPolicyDecision} {preview : RefundPreview}
    {attemptsInRun : ℕ} (hs : run.state.stage = .pendingReconciliation) :
    (run.reconcilePendingRefund decision preview attemptsInRun).Consistent := hs

theorem start_consistent (h : run.request.recovery = none → run.Journey) :
    run.start.Consistent := by
  unfold Run.start
  split
  · exact pending_reconcile rfl
  · rename_i hnone
    exact (((h hnone).setState rfl).schedule rfl).consistent

theorem continueAsNew_consistent {request : RefundWorkflowRequest}
    (h : request.recovery = none → run.Journey) : (run.continueAsNew request).Consistent := by
  refine start_consistent fun hnone => ?_
  have hl : (run.log (.continuedAsNew request)).Journey := (h hnone).log rfl
  exact ⟨hl.told, hl.stage⟩

theorem Journey.afterEvidenceRead {evidence : EvidenceSnapshot} {decision : RefundPolicyDecision}
    {deadline : ℤ} {polls : ℕ} (h : run.Journey) :
    (run.afterEvidenceRead decision deadline polls evidence).Consistent := by
  unfold Run.afterEvidenceRead
  split_ifs
  · exact continueAsNew_consistent fun _ => h
  · exact h.awaitEvidence.consistent

/-- The processing loop starts with the refund that the execution has named. -/
theorem awaitProviderRefundOutcome_consistent {decision : RefundPolicyDecision}
    {preview : RefundPreview} {providerRefundId : Option String}
    (hs : run.state.stage = .refundProcessing) (ht : providerRefundId = toldRefund run.history)
    (hnone : takenOutcome run.history = none) :
    (run.awaitProviderRefundOutcome decision preview providerRefundId).Consistent := by
  have hp : ({ run with outcomeWait := some ⟨providerRefundId, none⟩ } : Run).Processing :=
    ⟨hs, _, rfl, ht, hnone.symm⟩
  obtain ⟨hstage, wait, hwait, htold⟩ := hp.dispatchBuffered
  exact ⟨hstage, wait, hwait, htold.quiet rfl rfl⟩

theorem afterExecution_consistent {offer : Offer} {result : ExecutionResult}
    (h : run.Journey) :
    ((run.log (.completed (.execution result))).afterExecution offer result).Consistent := by
  have ht : toldRefund (run.log (.completed (.execution result))).history =
      result.providerRefundId := by
    refine toldRefund_cons.trans ?_
    rw [h.told]
    rfl
  have hreported : ∀ outcome : ProviderOutcome, result.status = outcome.executionStatus →
      Reported outcome (run.log (.completed (.execution result))).history :=
    fun outcome hstatus => .inl ⟨run.now, result, List.mem_cons_self, hstatus⟩
  unfold Run.afterExecution
  cases hstatus : result.status with
  | succeeded =>
    intro outcome hstage
    cases outcome
    · exact hreported .completed hstatus
    · cases hstage
  | submitted =>
    refine awaitProviderRefundOutcome_consistent rfl ht.symm ?_
    exact (takenOutcome_quiet rfl).trans (takenOutcome_untold h.told)
  | pendingReconciliation => exact pending_reconcile rfl
  | failed =>
    intro outcome hstage
    cases outcome
    · cases hstage
    · exact hreported .failed hstatus

theorem afterProcessingReconciliation_consistent {decision : RefundPolicyDecision}
    {preview : RefundPreview} {wait : OutcomeWait} {result : ReconciliationResult}
    (hw : wait.Told run.history) :
    ((run.log (.completed (.reconciliation result))).afterProcessingReconciliation decision
      preview wait result).Consistent := by
  let logged := run.log (.completed (.reconciliation result))
  have hreconciled : ∀ outcome : ProviderOutcome,
      result.status = outcome.reconciliationStatus → Reported outcome logged.history :=
    fun outcome hstatus => .inr (.inl ⟨run.now, result, List.mem_cons_self, hstatus⟩)
  have htold : toldRefund logged.history = wait.providerRefundId.or result.providerRefundId := by
    refine toldRefund_cons.trans ?_
    rw [hw.refund]
    rfl
  have hdelivered : ∀ outcome : ProviderOutcome,
      wait.providerOutcome.map RefundProviderOutcome.outcome = some outcome →
        Reported outcome logged.history := by
    intro outcome houtcome
    obtain ⟨received, hreceived, rfl⟩ := Option.map_eq_some_iff.mp houtcome
    exact (hw.delivered hreceived).cons.reported
  unfold Run.afterProcessingReconciliation
  simp only
  split_ifs with hsucceeded hfailed
  · intro outcome hstage
    cases outcome
    · exact hsucceeded.elim (hreconciled .completed) (hdelivered .completed)
    · cases hstage
  · intro outcome hstage
    cases outcome
    · cases hstage
    · exact hfailed.elim (hreconciled .failed) (hdelivered .failed)
  · refine ⟨rfl, _, rfl, ((toldRefund_quiet rfl).trans htold).symm, ?_⟩
    rw [hw.outcome]
    exact ((takenOutcome_quiet rfl).trans (takenOutcome_quiet rfl)).symm

theorem afterPendingReconciliation_consistent {decision : RefundPolicyDecision}
    {preview : RefundPreview} {attemptsInRun : ℕ} {result : ReconciliationResult}
    (hs : run.state.stage = .pendingReconciliation) :
    ((run.log (.completed (.reconciliation result))).afterPendingReconciliation decision preview
      attemptsInRun result).Consistent := by
  have hreported : ∀ outcome : ProviderOutcome,
      result.status = outcome.reconciliationStatus →
        Reported outcome (run.log (.completed (.reconciliation result))).history :=
    fun outcome hstatus => .inr (.inl ⟨run.now, result, List.mem_cons_self, hstatus⟩)
  unfold Run.afterPendingReconciliation
  cases hstatus : result.status with
  | succeeded =>
    intro outcome hstage
    cases outcome
    · exact hreported .completed hstatus
    · cases hstage
  | failed =>
    intro outcome hstage
    cases outcome
    · cases hstage
    · exact hreported .failed hstatus
  | processing => exact hs
  | notFound => exact hs

theorem afterPendingSleep_consistent {decision : RefundPolicyDecision} {preview : RefundPreview}
    {attemptsInRun : ℕ} (hs : run.state.stage = .pendingReconciliation) :
    (run.afterPendingSleep decision preview attemptsInRun).Consistent := by
  unfold Run.afterPendingSleep
  split_ifs
  · exact continueAsNew_consistent (by simp)
  · exact pending_reconcile hs

/-! The steps. -/

theorem Consistent.journey (h : run.Consistent) (hc : run.control.phase = .journey) :
    run.Journey := by
  unfold Consistent at h
  rwa [hc] at h

theorem Consistent.returns {run' : Run} {result : ActivityResult} (h : run.Consistent)
    (hr : (run.log (.completed result)).Returns run.control result run') : run'.Consistent := by
  have hjourney := h.journey
  unfold Consistent at h
  generalize run.control = control at hr h hjourney
  cases hr with
  | refreshingContext => exact ((hjourney rfl).log rfl).afterContext.consistent
  | evaluatingPolicy => exact ((hjourney rfl).log rfl).afterPolicy.consistent
  | openingEvidence => exact ((hjourney rfl).log rfl).awaitEvidence.consistent
  | readingEvidence => exact ((hjourney rfl).log rfl).afterEvidenceRead
  | closingExpiredEvidence => exact (((hjourney rfl).log rfl).finish rfl).consistent
  | refreshingReviewedContext => exact (((hjourney rfl).log rfl).schedule rfl).consistent
  | evaluatingReviewedPolicy => exact ((hjourney rfl).log rfl).afterReviewedPolicy.consistent
  | closingReviewedEvidence => exact ((hjourney rfl).log rfl).selectBranch.consistent
  | creatingPreview => exact ((hjourney rfl).log rfl).offerPreview.consistent
  | closingUnacceptedEvidence offer refusal =>
    refine (((hjourney rfl).log rfl).finish ?_).consistent
    cases refusal <;> rfl
  | observingConfirmation => exact ((hjourney rfl).log rfl).afterObservation.consistent
  | openingApproval => exact ((hjourney rfl).log rfl).afterApprovalOpened.consistent
  | closingApproval => exact ((hjourney rfl).log rfl).afterApprovalClosed.consistent
  | openingTakeover => exact ((hjourney rfl).log rfl).afterTakeoverOpened.consistent
  | closingTakeover => exact ((hjourney rfl).log rfl).afterTakeoverClosed.consistent
  | refreshingTakeoverContext => exact ((hjourney rfl).log rfl).afterTakeoverContext.consistent
  | readingTakeoverEvidence => exact ((hjourney rfl).log rfl).afterTakeoverEvidence.consistent
  | evaluatingTakeover => exact ((hjourney rfl).log rfl).afterTakeoverEvaluated.consistent
  | readingExecutionEvidence => exact ((hjourney rfl).log rfl).afterExecutionEvidence.consistent
  | refreshingExecutionContext => exact ((hjourney rfl).log rfl).afterExecutionContext.consistent
  | executing => exact afterExecution_consistent (hjourney rfl)
  | reconcilingProcessing decision preview wait hwait =>
    obtain ⟨-, found, hfound, htold⟩ := h
    have hsame : found = wait := Option.some.inj (hfound.symm.trans hwait)
    rw [hsame] at htold
    exact afterProcessingReconciliation_consistent htold
  | reconcilingPending => exact afterPendingReconciliation_consistent h

theorem Consistent.wakes {run' : Run} (h : run.Consistent)
    (hw : run.Wakes run.control run') : run'.Consistent := by
  have hjourney := h.journey
  unfold Consistent at h
  generalize run.control = control at hw h hjourney
  cases hw with
  | sleptBeforePoll => exact ((hjourney rfl).schedule rfl).consistent
  | confirmation => exact (hjourney rfl).afterConfirmation.consistent
  | approvalDecided => exact ((hjourney rfl).schedule rfl).consistent
  | takeoverDecided => exact ((hjourney rfl).schedule rfl).consistent
  | outcome =>
    obtain ⟨hstage, wait, hwait, htold⟩ := h
    exact ⟨hstage, wait, hwait, htold.quiet rfl rfl⟩
  | sleptPending => exact afterPendingSleep_consistent h

theorem Journey.handle {run' : Run} {signal : Signal} (h : run.Journey)
    (hs : run.handle signal = some run') : run'.Journey := by
  rw [handle_frame hs]
  exact ⟨(toldRefund_quiet rfl).trans h.told, h.stage⟩

theorem Honest.cons {e : HistoryEvent} {h : List HistoryEvent} {outcome : ProviderOutcome}
    (hr : Reported outcome h) : Reported outcome (e :: h) := by
  rcases hr with ⟨t, result, hmem, hstatus⟩ | ⟨t, result, hmem, hstatus⟩ | ⟨received, hd, ho⟩
  · exact .inl ⟨t, result, List.mem_cons_of_mem e hmem, hstatus⟩
  · exact .inr (.inl ⟨t, result, List.mem_cons_of_mem e hmem, hstatus⟩)
  · exact .inr (.inr ⟨received, hd.cons, ho⟩)

theorem Consistent.handle {run' : Run} {signal : Signal} (h : run.Consistent)
    (hs : run.handle signal = some run') : run'.Consistent := by
  have hcontrol : run'.control = run.control := by rw [handle_frame hs]
  have hstate : run'.state = run.state := by rw [handle_frame hs]
  have hhistory : run'.history = ⟨run.now, .handled signal⟩ :: run.history := by
    rw [handle_frame hs]
  unfold Consistent at h ⊢
  rw [hcontrol]
  cases hphase : run.control.phase with
  | journey =>
    rw [hphase] at h
    exact h.handle hs
  | processing =>
    rw [hphase] at h
    exact h.handle hs
  | pending =>
    rw [hphase] at h
    rwa [hstate]
  | ended =>
    rw [hphase] at h
    intro outcome hstage
    rw [hstate] at hstage
    rw [hhistory]
    exact Honest.cons (h outcome hstage)

/-- Neither the clock nor the buffer matters. -/
theorem Consistent.of_eq {run' : Run} (h : run.Consistent) (hcontrol : run'.control = run.control)
    (hstate : run'.state = run.state) (hwait : run'.outcomeWait = run.outcomeWait)
    (hhistory : run'.history = run.history) : run'.Consistent := by
  unfold Consistent at h ⊢
  rw [hcontrol]
  split at h
  · exact ⟨by rw [hhistory, h.told], by rw [hstate, h.stage]⟩
  · obtain ⟨hstage, wait, hfound, htold⟩ := h
    exact ⟨by rw [hstate, hstage], wait, by rw [hwait, hfound], by rwa [hhistory]⟩
  · rw [hstate, h]
  · intro outcome hstage
    rw [hstate] at hstage
    rw [hhistory]
    exact h outcome hstage

theorem consistent_step (run : Run) (e : RunEvent) (run' : Run) (h : run.Consistent)
    (hs : workflow.step run e = some run') : run'.Consistent :=
  workflow_step_cases (fun _ => h.of_eq rfl rfl rfl rfl) (fun _ _ => h.handle)
    (fun _ => h.of_eq rfl rfl rfl rfl) h.honest (fun _ _ _ => h.returns) (fun _ => h.wakes) hs

theorem consistent_starting (h : run.Starting) : run.Consistent := by
  obtain ⟨request, workflowId, patches, now, rfl⟩ := h
  exact start_consistent fun _ => ⟨rfl, rfl⟩

theorem consistent_reachable (h : workflow.Reachable Starting run) : run.Consistent :=
  h.invariant (fun _ => consistent_starting) consistent_step

end Run

/-! Uncertain responses. -/

/-- The gateway has not said what became of the execution. -/
def executionUncertain : FetchOutcome ExecutionResult → Bool
  | .rejected => true
  | .response status _ => decide (500 ≤ status)

/-- The gateway has not said that the refund has succeeded or failed. -/
def reconciliationUncertain : FetchOutcome ReconciliationResult → Bool
  | .rejected => true
  | .response status body =>
    !responseOk status ||
      body.any fun result => result.status = .notFound ∨ result.status = .processing

theorem executeRefund_uncertain {response : FetchOutcome ExecutionResult} {result : ExecutionResult}
    (hu : executionUncertain response = true) (h : executeRefund response = some result) :
    result.status = .pendingReconciliation := by
  cases response with
  | rejected =>
    cases h
    rfl
  | response status body =>
    have hstatus : 500 ≤ status := of_decide_eq_true hu
    simp only [executeRefund, hstatus, if_true, Option.some.injEq] at h
    rw [← h]
    rfl

theorem reconcileRefund_uncertain {response : FetchOutcome ReconciliationResult}
    {result : ReconciliationResult} (hu : reconciliationUncertain response = true)
    (h : reconcileRefund response = some result) :
    result.status = .notFound ∨ result.status = .processing := by
  cases response with
  | rejected =>
    cases h
    exact .inl rfl
  | response status body =>
    unfold reconcileRefund at h
    simp only at h
    split_ifs at h with hok
    · rw [h] at hu
      simpa [reconciliationUncertain, hok] using hu
    · cases h
      exact .inl rfl

/-- The run goes on waiting, or shows an outcome that an event had delivered. -/
def StaysOpen (run run' : Run) : Prop :=
  run'.state.stage = .refundProcessing ∨ run'.state.stage = .pendingReconciliation ∨
    ∃ received, Delivered received run.history ∧ run'.state.stage = received.outcome.stage

theorem Run.Consistent.execution_uncertain {run run' : Run} {result : ExecutionResult}
    (hstatus : result.status = .pendingReconciliation)
    (hs : workflow.step run (.complete (.execution result)) = some run') : StaysOpen run run' := by
  have hr := Run.complete_returns hs
  generalize (run.log (.completed (.execution result))).control = control at hr
  cases hr with
  | executing =>
    unfold Run.afterExecution
    rw [hstatus]
    exact .inr (.inl rfl)

theorem Run.Consistent.reconciliation_uncertain {run run' : Run} {result : ReconciliationResult}
    (h : run.Consistent) (hstatus : result.status = .notFound ∨ result.status = .processing)
    (hs : workflow.step run (.complete (.reconciliation result)) = some run') :
    StaysOpen run run' := by
  have hr : (run.log (.completed (.reconciliation result))).Returns run.control _ run' :=
    Run.complete_returns hs
  unfold Run.Consistent at h
  generalize run.control = control at hr h
  cases hr with
  | reconcilingProcessing decision preview wait hwait =>
    obtain ⟨-, found, hfound, htold⟩ := h
    have hsame : found = wait := Option.some.inj (hfound.symm.trans hwait)
    rw [hsame] at htold
    have hne : result.status ≠ .succeeded ∧ result.status ≠ .failed := by
      rcases hstatus with hstatus | hstatus <;> rw [hstatus] <;> decide
    unfold Run.afterProcessingReconciliation
    simp only [hne.1, hne.2, false_or]
    split_ifs with hcompleted hfailed
    · obtain ⟨received, hreceived, houtcome⟩ := Option.map_eq_some_iff.mp hcompleted
      refine .inr (.inr ⟨received, htold.delivered hreceived, ?_⟩)
      rw [houtcome]
      rfl
    · obtain ⟨received, hreceived, houtcome⟩ := Option.map_eq_some_iff.mp hfailed
      refine .inr (.inr ⟨received, htold.delivered hreceived, ?_⟩)
      rw [houtcome]
      rfl
    · exact .inl rfl
  | reconcilingPending =>
    unfold Run.afterPendingReconciliation
    rcases hstatus with hstatus | hstatus
    · rw [hstatus]
      exact .inr (.inl h)
    · rw [hstatus]
      exact .inr (.inl h)

/-- A final stage has been reported, and no response that leaves the outcome open leads to one. -/
theorem uncertain_never_final {run : Run} (h : workflow.Reachable Run.Starting run) :
    (run.state.stage = .refundSucceeded → Reported .completed run.history) ∧
    (run.state.stage = .refundFailed → Reported .failed run.history) ∧
    (∀ response result run', executionUncertain response = true →
      executeRefund response = some result →
      workflow.step run (.complete (.execution result)) = some run' → StaysOpen run run') ∧
    (∀ response result run', reconciliationUncertain response = true →
      reconcileRefund response = some result →
      workflow.step run (.complete (.reconciliation result)) = some run' →
      StaysOpen run run') := by
  have hc := Run.consistent_reachable h
  refine ⟨hc.honest .completed, hc.honest .failed, ?_, ?_⟩
  · intro response result run' hu hresult hs
    exact Run.Consistent.execution_uncertain (executeRefund_uncertain hu hresult) hs
  · intro response result run' hu hresult hs
    exact hc.reconciliation_uncertain (reconcileRefund_uncertain hu hresult) hs

namespace Sample

def outcome (outcome : ProviderOutcome) : RefundProviderOutcome :=
  ⟨"event-1", "refund-1", outcome, "2026-08-08T12:02:00.000Z"⟩

/-- Submitted, not yet listed by the provider, and reported by an event. -/
def completesByEvent : List RunEvent := executes ++
  [.complete (.execution ⟨.submitted, some "refund-1"⟩),
    .complete (.reconciliation ⟨.notFound, none⟩),
    .signal (.recordProviderRefundOutcome (outcome .completed)), .resume,
    .complete (.reconciliation ⟨.notFound, none⟩)]

end Sample

/-- The outcome that the event delivered is the one that is shown. -/
theorem delivered_outcome_shown : ∃ run, workflow.Reachable Run.Starting run ∧
    run.state.stage = .refundSucceeded ∧ Reported .completed run.history := by
  obtain ⟨run, hrun, hstage⟩ : ∃ run, workflow.run Sample.noon Sample.completesByEvent = some run ∧
      run.state.stage = .refundSucceeded := Machine.exists_run (by decide +kernel)
  have hreachable : workflow.Reachable Run.Starting run :=
    ⟨Sample.noon, _, Sample.noon_starting.1, hrun⟩
  exact ⟨run, hreachable, hstage, (uncertain_never_final hreachable).1 hstage⟩

end CSO.Workers
