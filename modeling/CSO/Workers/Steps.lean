import CSO.Workers.Signals

/-! What a step of the refund workflow can do. -/
namespace CSO.Workers
open Transition (Machine)

namespace Run
variable {run run' : Run} {result : ActivityResult}

/-- Where a run goes when an activity returns to one of its awaits. -/
inductive Returns (run : Run) : Control → ActivityResult → Run → Prop
  | refreshingContext (refundContext : RefundContext) :
      Returns run .refreshingContext (.refundContext refundContext)
        (run.afterContext refundContext)
  | evaluatingPolicy (refundContext : RefundContext) (decision : RefundPolicyDecision) :
      Returns run (.evaluatingPolicy refundContext) (.decision decision)
        (run.afterPolicy refundContext decision)
  | openingEvidence (decision : RefundPolicyDecision) (evidence : EvidenceSnapshot) :
      Returns run (.openingEvidence decision) (.evidence evidence)
        (run.afterEvidenceOpened decision evidence)
  | readingEvidence (decision : RefundPolicyDecision) (deadline : ℤ) (polls : ℕ)
      (evidence : EvidenceSnapshot) :
      Returns run (.readingEvidence decision deadline polls) (.evidence evidence)
        (run.afterEvidenceRead decision deadline polls evidence)
  | closingExpiredEvidence (decision : RefundPolicyDecision) :
      Returns run (.closingExpiredEvidence decision) .done
        (run.finish { stage := .evidenceCollectionExpired, decision := some decision })
  | refreshingReviewedContext (evidence : EvidenceSnapshot) (refundContext : RefundContext) :
      Returns run (.refreshingReviewedContext evidence) (.refundContext refundContext)
        (run.schedule (.evaluateRefundPolicy (run.evaluateInput refundContext evidence.accepted))
          (.evaluatingReviewedPolicy evidence refundContext))
  | evaluatingReviewedPolicy (evidence : EvidenceSnapshot) (refundContext : RefundContext)
      (decision : RefundPolicyDecision) :
      Returns run (.evaluatingReviewedPolicy evidence refundContext) (.decision decision)
        (run.afterReviewedPolicy evidence refundContext decision)
  | closingReviewedEvidence (evidence : EvidenceSnapshot) (refundContext : RefundContext)
      (decision : RefundPolicyDecision) :
      Returns run (.closingReviewedEvidence evidence refundContext decision) .done
        (run.selectBranch (some evidence) refundContext decision)
  | creatingPreview (branch : Branch) (evidence : Option EvidenceSnapshot)
      (decision : RefundPolicyDecision) (preview : RefundPreview) :
      Returns run (.creatingPreview branch evidence decision) (.preview preview)
        (run.offerPreview branch evidence decision preview)
  | closingUnacceptedEvidence (offer : Offer) (refusal : Refusal) :
      Returns run (.closingUnacceptedEvidence offer refusal) .done
        (run.finishOffer offer refusal.stage)
  | observingConfirmation (offer : Offer) (confirmation : RefundCustomerConfirmation) :
      Returns run (.observingConfirmation offer confirmation) .done
        (run.afterObservation offer confirmation)
  | openingApproval (offer : Offer) (caseId : String) :
      Returns run (.openingApproval offer) (.humanCase caseId)
        (run.afterApprovalOpened offer caseId)
  | closingApproval (offer : Offer) (humanDecision : RefundHumanDecision) :
      Returns run (.closingApproval offer humanDecision) .done
        (run.afterApprovalClosed offer humanDecision)
  | openingTakeover (evidence : Option EvidenceSnapshot) (decision : RefundPolicyDecision)
      (caseId : String) :
      Returns run (.openingTakeover evidence decision) (.humanCase caseId)
        (run.afterTakeoverOpened evidence decision caseId)
  | closingTakeover (evidence : Option EvidenceSnapshot) (decision : RefundPolicyDecision)
      (caseId : String) (humanDecision : RefundHumanDecision) :
      Returns run (.closingTakeover evidence decision caseId humanDecision) .done
        (run.afterTakeoverClosed evidence decision caseId humanDecision)
  | refreshingTakeoverContext (evidence : Option EvidenceSnapshot)
      (decision : RefundPolicyDecision) (caseId : String) (refreshedContext : RefundContext) :
      Returns run (.refreshingTakeoverContext evidence decision caseId)
        (.refundContext refreshedContext)
        (run.afterTakeoverContext evidence decision caseId refreshedContext)
  | readingTakeoverEvidence (evidence : Option EvidenceSnapshot)
      (decision : RefundPolicyDecision) (caseId : String) (refreshedContext : RefundContext)
      (current : EvidenceSnapshot) :
      Returns run (.readingTakeoverEvidence evidence decision caseId refreshedContext)
        (.evidence current)
        (run.afterTakeoverEvidence evidence decision caseId refreshedContext current)
  | evaluatingTakeover (evidence : Option EvidenceSnapshot) (caseId : String)
      (refreshedContext : RefundContext) (decision : RefundPolicyDecision) :
      Returns run (.evaluatingTakeover evidence caseId refreshedContext) (.decision decision)
        (run.afterTakeoverEvaluated evidence caseId refreshedContext decision)
  | readingExecutionEvidence (offer : Offer) (current : EvidenceSnapshot) :
      Returns run (.readingExecutionEvidence offer) (.evidence current)
        (run.afterExecutionEvidence offer current)
  | refreshingExecutionContext (offer : Offer) (refreshed : RefundContext) :
      Returns run (.refreshingExecutionContext offer) (.refundContext refreshed)
        (run.afterExecutionContext offer refreshed)
  | executing (offer : Offer) (result : Gateway.ExecutionResult) :
      Returns run (.executing offer) (.execution result) (run.afterExecution offer result)
  | reconcilingProcessing (decision : RefundPolicyDecision) (preview : RefundPreview)
      (wait : OutcomeWait) (hw : run.outcomeWait = some wait)
      (reconciliation : Gateway.ReconciliationResult) :
      Returns run (.reconcilingProcessing decision preview) (.reconciliation reconciliation)
        (run.afterProcessingReconciliation decision preview wait reconciliation)
  | reconcilingPending (decision : RefundPolicyDecision) (preview : RefundPreview)
      (attemptsInRun : ℕ) (reconciliation : Gateway.ReconciliationResult) :
      Returns run (.reconcilingPending decision preview attemptsInRun)
        (.reconciliation reconciliation)
        (run.afterPendingReconciliation decision preview attemptsInRun reconciliation)

theorem complete_returns (h : run.complete result = some run') :
    Returns run run.control result run' := by
  unfold complete at h
  cases hcontrol : run.control <;> rw [hcontrol] at h <;> cases result <;>
    first
      | (cases h; constructor)
      | cases h
      | (obtain ⟨wait, hwait, rfl⟩ := Option.map_eq_some_iff.mp h
         exact .reconcilingProcessing _ _ wait hwait _)

theorem Returns.complete {control : Control} (h : run.Returns control result run')
    (hc : run.control = control) : run.complete result = some run' := by
  unfold Run.complete
  cases h with
  | reconcilingProcessing decision preview wait hw =>
    rw [hc]
    simp only [hw, Option.map_some]
  | _ => rw [hc]

/-- Where a run goes when a condition holds or a timer fires. -/
inductive Wakes (run : Run) : Control → Run → Prop
  | sleptBeforePoll (decision : RefundPolicyDecision) (deadline : ℤ) (polls : ℕ) (due : ℤ) :
      due ≤ run.now → Wakes run (.sleepingBeforePoll decision deadline polls due)
        (run.schedule (.readRefundEvidence run.evidenceAccess)
          (.readingEvidence decision deadline polls))
  | confirmation (offer : Offer) (due : Option ℤ) :
      (∃ wait, run.confirmationWait = some wait ∧ (wait.confirmation.isSome ∨ wait.expired)) ∨
        (∃ t, due = some t ∧ t ≤ run.now) →
      Wakes run (.awaitingConfirmation offer due) (run.afterConfirmation offer
        (run.confirmationWait.bind ConfirmationWait.confirmation))
  | approvalDecided (offer : Offer) (caseId : String) (humanDecision : RefundHumanDecision) :
      run.humanDecision = some humanDecision → Wakes run (.awaitingApproval offer caseId)
        (run.afterApprovalDecided offer caseId humanDecision)
  | takeoverDecided (evidence : Option EvidenceSnapshot) (decision : RefundPolicyDecision)
      (caseId : String) (humanDecision : RefundHumanDecision) :
      run.humanDecision = some humanDecision →
      Wakes run (.awaitingTakeover evidence decision caseId)
        (run.afterTakeoverDecided evidence decision caseId humanDecision)
  | outcome (decision : RefundPolicyDecision) (preview : RefundPreview) (due : ℤ) :
      (∃ wait, run.outcomeWait = some wait ∧ wait.providerOutcome.isSome) ∨ due ≤ run.now →
      Wakes run (.awaitingOutcome decision preview due)
        (run.reconcile preview (.reconcilingProcessing decision preview))
  | sleptPending (decision : RefundPolicyDecision) (preview : RefundPreview)
      (attemptsInRun : ℕ) (due : ℤ) :
      due ≤ run.now → Wakes run (.sleepingPending decision preview attemptsInRun due)
        (run.afterPendingSleep decision preview attemptsInRun)

theorem resume_wakes (h : run.resume = some run') : Wakes run run.control run' := by
  unfold resume at h
  cases hcontrol : run.control <;> rw [hcontrol] at h <;> try cases h
  case awaitingConfirmation offer due =>
    cases hwait : run.confirmationWait with
    | none =>
      rw [hwait] at h
      cases h
    | some wait =>
      rw [hwait] at h
      simp only at h
      split_ifs at h with hset
      cases h
      have hw : Wakes run (.awaitingConfirmation offer due) (run.afterConfirmation offer
          (run.confirmationWait.bind ConfirmationWait.confirmation)) :=
        .confirmation offer due (.inl ⟨wait, hwait, hset⟩)
      rwa [hwait] at hw
  case awaitingApproval offer caseId =>
    obtain ⟨d, hd, rfl⟩ := Option.map_eq_some_iff.mp h
    exact .approvalDecided offer caseId d hd
  case awaitingTakeover evidence decision caseId =>
    obtain ⟨d, hd, rfl⟩ := Option.map_eq_some_iff.mp h
    exact .takeoverDecided evidence decision caseId d hd
  case awaitingOutcome decision preview due =>
    cases hwait : run.outcomeWait with
    | none =>
      rw [hwait] at h
      cases h
    | some wait =>
      rw [hwait] at h
      simp only at h
      split_ifs at h with hset
      cases h
      exact .outcome decision preview due (.inl ⟨wait, hwait, hset⟩)

theorem wake_wakes (h : run.wake = some run') : Wakes run run.control run' := by
  unfold wake at h
  split at h
  · rename_i decision deadline polls due hcontrol
    split_ifs at h with hdue
    cases h
    rw [hcontrol]
    exact .sleptBeforePoll decision deadline polls due hdue
  · rename_i offer due hcontrol
    split_ifs at h with hdue
    cases h
    rw [hcontrol]
    exact .confirmation offer _ (.inr ⟨due, rfl, hdue⟩)
  · rename_i decision preview due hcontrol
    split_ifs at h with hdue
    cases h
    rw [hcontrol]
    exact .outcome decision preview due (.inr hdue)
  · rename_i decision preview attemptsInRun due hcontrol
    split_ifs at h with hdue
    cases h
    rw [hcontrol]
    exact .sleptPending decision preview attemptsInRun due hdue
  · cases h

end Run

/-- A step advances the clock, hands over a signal or keeps it, fails an activity, returns from
one, or ends a wait. -/
theorem workflow_step_cases {P : Run → Prop} {run run' : Run} {e : RunEvent}
    (advance : ∀ milliseconds : ℕ, P { run with now := run.now + milliseconds })
    (handle : ∀ signal r, run.handle signal = some r → P r)
    (buffer : ∀ buffered, P { run with buffered })
    (fail : P { run with control := .failed })
    (returns : ∀ result r, e = .complete result →
      (run.log (.completed result)).Returns run.control result r → P r)
    (wakes : ∀ r, run.Wakes run.control r → P r)
    (hs : workflow.step run e = some run') : P run' := by
  change run.step e = some run' at hs
  cases e with
  | advance milliseconds =>
    cases hs
    exact advance milliseconds
  | signal signal =>
    simp only [Run.step] at hs
    split_ifs at hs
    cases hs
    rcases run.receive_cases signal with hr | ⟨-, hr⟩
    · exact handle signal _ hr
    · rw [hr]
      exact buffer _
  | complete result => exact returns result run' rfl (Run.complete_returns hs)
  | fail =>
    simp only [Run.step] at hs
    split_ifs at hs
    cases hs
    exact fail
  | resume => exact wakes run' (Run.resume_wakes hs)
  | wake => exact wakes run' (Run.wake_wakes hs)

/-! Once an offer has been made, a run never goes back to the facts or to a policy decision. -/

/-- An offer has been made, or the run has ended. -/
def Control.offered : Control → Bool
  | .awaitingConfirmation .. | .closingUnacceptedEvidence .. | .observingConfirmation .. |
    .openingApproval .. | .awaitingApproval .. | .closingApproval .. |
    .readingExecutionEvidence .. | .refreshingExecutionContext .. | .executing .. |
    .reconcilingProcessing .. | .awaitingOutcome .. | .reconcilingPending .. |
    .sleepingPending .. | .finished | .failed => true
  | _ => false

namespace Run
variable {run run' : Run} {offer : Offer}

theorem openMonetaryCase_control {evidence : Option EvidenceSnapshot}
    {input : OpenHumanCaseInput} {control : Control} :
    (run.openMonetaryCase evidence input control).control = control := by
  unfold openMonetaryCase
  split <;> rfl

theorem declineOffer_offered (refusal : Refusal) :
    (run.declineOffer offer refusal).control.offered = true := by
  unfold declineOffer
  split
  · split_ifs <;> rfl
  · rfl

theorem executeAuthorizedRefund_offered :
    (run.executeAuthorizedRefund offer).control.offered = true := by
  unfold executeAuthorizedRefund
  split_ifs <;> rfl

theorem afterObservation_offered {confirmation : RefundCustomerConfirmation} :
    (run.afterObservation offer confirmation).control.offered = true := by
  unfold afterObservation
  split_ifs
  · split
    · rw [openMonetaryCase_control]
      rfl
    · exact executeAuthorizedRefund_offered
    · exact executeAuthorizedRefund_offered
  · exact declineOffer_offered _

theorem afterConfirmation_offered {confirmation : Option RefundCustomerConfirmation} :
    (run.afterConfirmation offer confirmation).control.offered = true := by
  cases confirmation with
  | none => exact declineOffer_offered _
  | some c =>
    unfold afterConfirmation observeRefundConfirmation
    split_ifs
    · rfl
    · exact afterObservation_offered

theorem awaitConfirmation_offered {wait : ConfirmationWait} :
    (run.awaitConfirmation offer wait).control.offered = true := by
  unfold awaitConfirmation
  split_ifs
  · split
    · split_ifs
      · exact afterConfirmation_offered
      · rfl
    · exact afterConfirmation_offered
  · rfl
  · exact afterConfirmation_offered

theorem afterPendingReconciliation_offered {decision : RefundPolicyDecision}
    {preview : RefundPreview} {attemptsInRun : ℕ} {result : Gateway.ReconciliationResult} :
    (run.afterPendingReconciliation decision preview attemptsInRun result).control.offered =
      true := by
  unfold afterPendingReconciliation
  split <;> rfl

theorem afterProcessingReconciliation_offered {decision : RefundPolicyDecision}
    {preview : RefundPreview} {wait : OutcomeWait} {result : Gateway.ReconciliationResult} :
    (run.afterProcessingReconciliation decision preview wait result).control.offered = true := by
  unfold afterProcessingReconciliation
  simp only
  split_ifs <;> rfl

theorem afterExecution_offered {result : Gateway.ExecutionResult} :
    (run.afterExecution offer result).control.offered = true := by
  unfold afterExecution
  split <;> rfl

theorem afterPendingSleep_offered {decision : RefundPolicyDecision} {preview : RefundPreview}
    {attemptsInRun : ℕ} :
    (run.afterPendingSleep decision preview attemptsInRun).control.offered = true := by
  unfold afterPendingSleep
  split_ifs <;> rfl

theorem Returns.offered {control : Control} {result : ActivityResult}
    (hr : run.Returns control result run') (hc : control.offered = true) :
    run'.control.offered = true := by
  cases hr with
  | closingUnacceptedEvidence => rfl
  | observingConfirmation => exact afterObservation_offered
  | openingApproval => rfl
  | closingApproval =>
    unfold afterApprovalClosed
    split_ifs
    · rfl
    · exact executeAuthorizedRefund_offered
  | readingExecutionEvidence =>
    unfold afterExecutionEvidence
    split_ifs <;> rfl
  | refreshingExecutionContext =>
    unfold afterExecutionContext
    split_ifs <;> rfl
  | executing => exact afterExecution_offered
  | reconcilingProcessing => exact afterProcessingReconciliation_offered
  | reconcilingPending => exact afterPendingReconciliation_offered
  | _ => cases hc

theorem Wakes.offered {control : Control} (hw : run.Wakes control run')
    (hc : control.offered = true) : run'.control.offered = true := by
  cases hw with
  | confirmation => exact afterConfirmation_offered
  | approvalDecided => rfl
  | outcome => rfl
  | sleptPending => exact afterPendingSleep_offered
  | sleptBeforePoll => cases hc
  | takeoverDecided => cases hc

end Run
end CSO.Workers
