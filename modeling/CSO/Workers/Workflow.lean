import CSO.Transition.History
import CSO.Transition.Machine
import CSO.Workers.Activities

/-! The refund workflow. A run goes from one await to the next; in between the clock advances
and signals are handled. A chain of continued runs is one run of the machine. -/
namespace CSO.Workers
open Transition (Machine dispatch)
open Gateway (ExecutionResult ReconciliationResult)

structure EvidenceRecovery where
  deadline : ℤ
  decision : RefundPolicyDecision
  deriving DecidableEq, Repr

structure Recovery where
  decision : RefundPolicyDecision
  preview : RefundPreview
  attemptsInRun : ℕ
  deriving DecidableEq, Repr

structure RefundWorkflowRequest where
  orderReference : Option String
  proposal : RefundProposal
  policyVersion : String
  access : WorkflowJourneyAccess
  evidenceRecovery : Option EvidenceRecovery
  recovery : Option Recovery
  deriving DecidableEq, Repr

def reconciliationInterval : ℤ := 300000

def maxReconciliationAttemptsPerRun : ℕ := 288

def evidenceCollectionPeriod : ℤ := 24 * 60 * 60000

def evidencePollInterval : ℤ := 30000

def maxEvidencePollsPerRun : ℕ := 120

structure RefundCustomerConfirmation where
  previewId : String
  accepted : Bool
  confirmedAt : String
  deriving DecidableEq, Repr

inductive ProviderOutcome
  | completed
  | failed
  deriving DecidableEq, Repr

structure RefundProviderOutcome where
  eventId : String
  providerRefundId : String
  outcome : ProviderOutcome
  occurredAt : String
  deriving DecidableEq, Repr

inductive Signal
  | confirmRefund (received : RefundCustomerConfirmation)
  | decideRefund (received : RefundHumanDecision)
  | recordProviderRefundOutcome (received : RefundProviderOutcome)
  deriving DecidableEq, Repr

inductive Stage
  | evaluating
  | awaitingCustomerEvidence
  | awaitingEvidenceReview
  | evidenceCollectionExpired
  | awaitingCustomerConfirmation
  | confirmed
  | cancelled
  | needsFacts
  | denied
  | awaitingApproval
  | humanTakeoverRequired
  | approved
  | rejected
  | takeoverResolved
  | previewInvalidated
  | refundProcessing
  | refundSucceeded
  | refundFailed
  | pendingReconciliation
  deriving DecidableEq, Repr

structure RefundWorkflowState where
  stage : Stage
  decision : Option RefundPolicyDecision := none
  preview : Option RefundPreview := none
  providerRefundId : Option String := none
  deriving DecidableEq, Repr

/-- The branches that put a preview before the customer; an exceptional one was a takeover. -/
inductive Branch
  | allow
  | approval
  | exceptional
  deriving DecidableEq, Repr

/-- How an offer ends that the customer does not accept in time. -/
inductive Refusal
  | previewInvalidated
  | cancelled
  deriving DecidableEq, Repr

def Refusal.stage : Refusal → Stage
  | .previewInvalidated => .previewInvalidated
  | .cancelled => .cancelled

/-- A preview before the customer, with what its branch still needs. -/
structure Offer where
  branch : Branch
  evidence : Option EvidenceSnapshot
  decision : RefundPolicyDecision
  preview : RefundPreview
  deriving DecidableEq, Repr

/-- The await a run is suspended at, with the local values it still needs. -/
inductive Control
  | refreshingContext
  | evaluatingPolicy (refundContext : RefundContext)
  | openingEvidence (decision : RefundPolicyDecision)
  | sleepingBeforePoll (decision : RefundPolicyDecision) (deadline : ℤ) (polls : ℕ) (due : ℤ)
  | readingEvidence (decision : RefundPolicyDecision) (deadline : ℤ) (polls : ℕ)
  | closingExpiredEvidence (decision : RefundPolicyDecision)
  | refreshingReviewedContext (evidence : EvidenceSnapshot)
  | evaluatingReviewedPolicy (evidence : EvidenceSnapshot) (refundContext : RefundContext)
  | closingReviewedEvidence (evidence : EvidenceSnapshot) (refundContext : RefundContext)
      (decision : RefundPolicyDecision)
  | creatingPreview (branch : Branch) (evidence : Option EvidenceSnapshot)
      (decision : RefundPolicyDecision)
  | awaitingConfirmation (offer : Offer) (due : Option ℤ)
  | closingUnacceptedEvidence (offer : Offer) (refusal : Refusal)
  | observingConfirmation (offer : Offer) (confirmation : RefundCustomerConfirmation)
  | openingApproval (offer : Offer)
  | awaitingApproval (offer : Offer) (caseId : String)
  | closingApproval (offer : Offer) (humanDecision : RefundHumanDecision)
  | openingTakeover (evidence : Option EvidenceSnapshot) (decision : RefundPolicyDecision)
  | awaitingTakeover (evidence : Option EvidenceSnapshot) (decision : RefundPolicyDecision)
      (caseId : String)
  | closingTakeover (evidence : Option EvidenceSnapshot) (decision : RefundPolicyDecision)
      (caseId : String) (humanDecision : RefundHumanDecision)
  | refreshingTakeoverContext (evidence : Option EvidenceSnapshot)
      (decision : RefundPolicyDecision) (caseId : String)
  | readingTakeoverEvidence (evidence : Option EvidenceSnapshot)
      (decision : RefundPolicyDecision) (caseId : String) (refundContext : RefundContext)
  | evaluatingTakeover (evidence : Option EvidenceSnapshot) (caseId : String)
      (refundContext : RefundContext)
  | readingExecutionEvidence (offer : Offer)
  | refreshingExecutionContext (offer : Offer)
  | executing (offer : Offer)
  | reconcilingProcessing (decision : RefundPolicyDecision) (preview : RefundPreview)
  | awaitingOutcome (decision : RefundPolicyDecision) (preview : RefundPreview) (due : ℤ)
  | reconcilingPending (decision : RefundPolicyDecision) (preview : RefundPreview)
      (attemptsInRun : ℕ)
  | sleepingPending (decision : RefundPolicyDecision) (preview : RefundPreview)
      (attemptsInRun : ℕ) (due : ℤ)
  | finished
  | failed
  deriving DecidableEq, Repr

def Control.closed : Control → Bool
  | .finished | .failed => true
  | _ => false

/-- The control waits for a timer, for a condition, or for nothing. -/
def Control.awaitsActivity : Control → Bool
  | .sleepingBeforePoll .. | .awaitingConfirmation .. | .awaitingApproval .. |
    .awaitingTakeover .. | .awaitingOutcome .. | .sleepingPending .. | .finished |
    .failed => false
  | _ => true

/-- What the history of a run records; `selected` is the effect its switch branched on. -/
inductive Occurrence
  | scheduled (activity : Activity)
  | completed (result : ActivityResult)
  | timerStarted (milliseconds : ℤ)
  | handled (signal : Signal)
  | selected (effect : PolicyEffect)
  | continuedAsNew (request : RefundWorkflowRequest)
  deriving DecidableEq, Repr

structure HistoryEvent where
  time : ℤ
  occurrence : Occurrence
  deriving DecidableEq, Repr

/-- Which of the `patched` changes the run has. -/
structure Patches where
  expiryTimer : Bool
  expiryConfirmation : Bool
  confirmationObservation : Bool
  deriving DecidableEq, Repr

/-- The variables that the handler of `refund.confirmation` shares with its wait. -/
structure ConfirmationWait where
  preview : RefundPreview
  confirmation : Option RefundCustomerConfirmation
  expired : Bool
  deriving DecidableEq, Repr

/-- The variables that the handler of `refund.provider-outcome` shares with its loop. -/
structure OutcomeWait where
  providerRefundId : Option String
  providerOutcome : Option RefundProviderOutcome
  deriving DecidableEq, Repr

inductive HumanReview
  | approval
  | takeover
  deriving DecidableEq, Repr

def HumanReview.allowedActions : HumanReview → List HumanCaseAction
  | .approval => [.approve, .reject]
  | .takeover => [.approveExceptionalRefund, .resolveTakeover, .reject]

/-- The decisions that the handler of a review takes. -/
def HumanReview.admits (review : HumanReview) (received : RefundHumanDecision) : Bool :=
  review.allowedActions.contains received.decision

structure Run where
  request : RefundWorkflowRequest
  workflowId : String
  patches : Patches
  now : ℤ
  control : Control
  state : RefundWorkflowState
  confirmationWait : Option ConfirmationWait
  review : Option HumanReview
  humanDecision : Option RefundHumanDecision
  outcomeWait : Option OutcomeWait
  buffered : List Signal
  history : List HistoryEvent
  deriving DecidableEq

def sameAcceptedEvidence (expected current : Option AcceptedDamageEvidence) : Bool :=
  match expected, current with
  | some expected, some current =>
    expected.evidenceVersion == current.evidenceVersion &&
      expected.assessmentId == current.assessmentId &&
      expected.manifestHash == current.manifestHash
  | _, _ => false

/-- What is still refundable covers the preview. -/
def amountStillAvailable (refreshed : RefundContext) (preview : RefundPreview) : Bool :=
  refreshed.facts.transactionRefundable && refreshed.facts.itemSelectionValid &&
    refreshed.facts.refundableAmount.currency == preview.requestedAmount.currency &&
    decide (preview.requestedAmount.amountMinor ≤ refreshed.facts.refundableAmount.amountMinor)

def acceptedEvidence (evidence : Option EvidenceSnapshot) : Option AcceptedDamageEvidence :=
  evidence.bind EvidenceSnapshot.accepted

def buildOpenHumanCaseInput (request : RefundWorkflowRequest) (workflowId : String)
    (decision : RefundPolicyDecision) (preview : Option RefundPreview)
    (caseType : HumanCaseType) (allowedActions : List HumanCaseAction) : OpenHumanCaseInput where
  caseId := "case:" ++ workflowId
  workflowId
  idempotencyKey := "workflow:" ++ workflowId ++ ":human-case"
  access := request.access
  caseType
  allowedActions
  reviewPacket := {
    orderReference := request.orderReference
    proposal := ⟨request.proposal.proposalId, request.proposal.intent⟩
    policy := {
      decisionId := decision.decisionId
      effect := decision.effect
      policyVersion := decision.policyVersion
      inputFactsHash := decision.inputFactsHash
      reasonCodes := decision.reasonCodes
      factRefs := decision.factRefs }
    preview }

def buildCloseHumanCaseInput (request : RefundWorkflowRequest) (workflowId caseId : String)
    (decision : RefundHumanDecision) (outcome : CloseOutcome) : CloseHumanCaseInput where
  caseId
  workflowId
  idempotencyKey := "workflow:" ++ workflowId ++ ":human-case:close:" ++ decision.decision.text
  access := request.access
  outcome
  decision

/-- The handler of `refund.confirmation`. -/
def ConfirmationWait.receive (wait : ConfirmationWait) (checksExpiry : Bool) (now : ℤ)
    (received : RefundCustomerConfirmation) : ConfirmationWait :=
  if wait.confirmation.isSome ∨ wait.expired ∨ received.previewId ≠ wait.preview.previewId then
    wait
  else if checksExpiry ∧ ¬isRefundPreviewCurrent wait.preview.validUntil now then
    { wait with expired := true }
  else { wait with confirmation := some received }

/-- The handler of `refund.provider-outcome`. -/
def OutcomeWait.receive (wait : OutcomeWait) (received : RefundProviderOutcome) : OutcomeWait :=
  if wait.providerOutcome = none ∧ wait.providerRefundId = some received.providerRefundId then
    { wait with providerOutcome := some received }
  else wait

namespace Run

def log (run : Run) (occurrence : Occurrence) : Run :=
  { run with history := ⟨run.now, occurrence⟩ :: run.history }

/-- Hand a signal to its handler, if one is installed. -/
def handle (run : Run) (signal : Signal) : Option Run :=
  match signal with
  | .confirmRefund received =>
    run.confirmationWait.map fun wait =>
      { run.log (.handled signal) with
        confirmationWait :=
          some (wait.receive run.patches.expiryConfirmation run.now received) }
  | .decideRefund received =>
    run.review.map fun review =>
      { run.log (.handled signal) with
        humanDecision := run.humanDecision.or (if review.admits received then some received else none) }
  | .recordProviderRefundOutcome received =>
    run.outcomeWait.map fun wait =>
      { run.log (.handled signal) with outcomeWait := some (wait.receive received) }

/-- Installing a handler hands it the signals that have been waiting for it. -/
def dispatchBuffered (run : Run) : Run :=
  { (dispatch handle run run.buffered).1 with
    buffered := (dispatch handle run run.buffered).2 }

def receive (run : Run) (signal : Signal) : Run :=
  (run.handle signal).getD { run with buffered := run.buffered ++ [signal] }

def schedule (run : Run) (activity : Activity) (control : Control) : Run :=
  { run.log (.scheduled activity) with control }

def sleep (run : Run) (milliseconds : ℤ) (control : ℤ → Control) : Run :=
  { run.log (.timerStarted milliseconds) with control := control (run.now + milliseconds) }

def setState (run : Run) (state : RefundWorkflowState) : Run := { run with state }

def finish (run : Run) (state : RefundWorkflowState) : Run :=
  { run with state, control := .finished }

def refreshInput (run : Run) : RefreshRefundContextInput :=
  ⟨run.request.proposal, run.workflowId, run.request.access⟩

def evidenceAccess (run : Run) : EvidenceAccess :=
  { run.refreshInput with policyVersion := run.request.policyVersion }

def refundInput (run : Run) (preview : RefundPreview) : ExecuteRefundInput :=
  ⟨run.request.proposal, preview, run.workflowId, run.request.access⟩

def evaluateInput (run : Run) (refundContext : RefundContext)
    (damageEvidence : Option AcceptedDamageEvidence) : EvaluateRefundPolicyInput :=
  ⟨run.request.proposal, refundContext, run.request.policyVersion, damageEvidence⟩

/-! Reconciliation. -/

def reconcile (run : Run) (preview : RefundPreview) (control : Control) : Run :=
  run.schedule (.reconcileRefund (run.refundInput preview)) control

def reconcilePendingRefund (run : Run) (decision : RefundPolicyDecision) (preview : RefundPreview)
    (attemptsInRun : ℕ) : Run :=
  run.reconcile preview (.reconcilingPending decision preview attemptsInRun)

def processingState (decision : RefundPolicyDecision) (preview : RefundPreview)
    (providerRefundId : Option String) (stage : Stage) : RefundWorkflowState :=
  ⟨stage, some decision, some preview, providerRefundId⟩

/-- The first run of a chain, and every run that continues one. -/
def start (run : Run) : Run :=
  match run.request.recovery with
  | some recovery =>
    (run.setState (processingState recovery.decision recovery.preview none
      .pendingReconciliation)).reconcilePendingRefund recovery.decision recovery.preview
        recovery.attemptsInRun
  | none =>
    (run.setState { stage := .evaluating }).schedule (.refreshRefundContext run.refreshInput)
      .refreshingContext

/-- Local state, handlers and waiting signals do not survive into the next run. -/
def continueAsNew (run : Run) (request : RefundWorkflowRequest) : Run :=
  start { run.log (.continuedAsNew request) with
    request
    confirmationWait := none
    review := none
    humanDecision := none
    outcomeWait := none
    buffered := [] }

/-- The body of the recursion in `reconcilePendingRefund`, after its activity. -/
def afterPendingReconciliation (run : Run) (decision : RefundPolicyDecision)
    (preview : RefundPreview) (attemptsInRun : ℕ) (reconciliation : ReconciliationResult) : Run :=
  match reconciliation.status with
  | .succeeded => run.finish (processingState decision preview reconciliation.providerRefundId
      .refundSucceeded)
  | .failed => run.finish (processingState decision preview reconciliation.providerRefundId
      .refundFailed)
  | .processing | .notFound =>
    run.sleep reconciliationInterval (.sleepingPending decision preview attemptsInRun)

def afterPendingSleep (run : Run) (decision : RefundPolicyDecision) (preview : RefundPreview)
    (attemptsInRun : ℕ) : Run :=
  if maxReconciliationAttemptsPerRun ≤ attemptsInRun + 1 then
    run.continueAsNew { run.request with recovery := some ⟨decision, preview, 0⟩ }
  else run.reconcilePendingRefund decision preview (attemptsInRun + 1)

def awaitProviderRefundOutcome (run : Run) (decision : RefundPolicyDecision)
    (preview : RefundPreview) (initialProviderRefundId : Option String) : Run :=
  ({ run with outcomeWait := some ⟨initialProviderRefundId, none⟩ } : Run).dispatchBuffered.reconcile
    preview (.reconcilingProcessing decision preview)

/-- The body of the loop in `awaitProviderRefundOutcome`, after its activity. -/
def afterProcessingReconciliation (run : Run) (decision : RefundPolicyDecision)
    (preview : RefundPreview) (wait : OutcomeWait) (reconciliation : ReconciliationResult) : Run :=
  let providerRefundId := wait.providerRefundId.or reconciliation.providerRefundId
  let outcome := wait.providerOutcome.map RefundProviderOutcome.outcome
  let run : Run := { run with outcomeWait := some { wait with providerRefundId } }
  if reconciliation.status = .succeeded ∨ outcome = some .completed then
    run.finish (processingState decision preview providerRefundId .refundSucceeded)
  else if reconciliation.status = .failed ∨ outcome = some .failed then
    run.finish (processingState decision preview providerRefundId .refundFailed)
  else
    (run.setState (processingState decision preview providerRefundId .refundProcessing)).sleep
      reconciliationInterval (.awaitingOutcome decision preview)

/-! The authorised refund. -/

def refreshForExecution (run : Run) (offer : Offer) : Run :=
  run.schedule (.refreshRefundContext run.refreshInput) (.refreshingExecutionContext offer)

def executeAuthorizedRefund (run : Run) (offer : Offer) : Run :=
  if run.request.policyVersion = "refund-policy-v2" ∧
      run.request.proposal.intent.reasonCode = "DAMAGED" then
    run.schedule (.readRefundEvidence run.evidenceAccess) (.readingExecutionEvidence offer)
  else run.refreshForExecution offer

/-- The end of an offer that leads to no refund. -/
def finishOffer (run : Run) (offer : Offer) (stage : Stage) : Run :=
  run.finish { stage, decision := some offer.decision, preview := some offer.preview }

def afterExecutionEvidence (run : Run) (offer : Offer) (current : EvidenceSnapshot) : Run :=
  if sameAcceptedEvidence (acceptedEvidence offer.evidence) current.accepted then
    run.refreshForExecution offer
  else run.finishOffer offer .previewInvalidated

def afterExecutionContext (run : Run) (offer : Offer) (refreshed : RefundContext) : Run :=
  if amountStillAvailable refreshed offer.preview then
    run.schedule (.executeRefund (run.refundInput offer.preview)) (.executing offer)
  else run.finishOffer offer .previewInvalidated

def afterExecution (run : Run) (offer : Offer) (result : ExecutionResult) : Run :=
  let state := processingState offer.decision offer.preview
  match result.status with
  | .succeeded => run.finish (state result.providerRefundId .refundSucceeded)
  | .submitted =>
    (run.setState (state result.providerRefundId .refundProcessing)).awaitProviderRefundOutcome
      offer.decision offer.preview result.providerRefundId
  | .pendingReconciliation =>
    (run.setState (state none .pendingReconciliation)).reconcilePendingRefund offer.decision
      offer.preview 0
  | .failed => run.finish (state none .refundFailed)

/-! The confirmation of the customer. -/

def openMonetaryCase (run : Run) (evidence : Option EvidenceSnapshot) (input : OpenHumanCaseInput)
    (control : Control) : Run :=
  match acceptedEvidence evidence with
  | none => run.schedule (.openHumanCase input) control
  | some accepted =>
    run.schedule (.transitionRefundEvidence input accepted.evidenceVersion) control

/-- The approval branch closes its evidence when the customer does not accept. -/
def declineOffer (run : Run) (offer : Offer) (refusal : Refusal) : Run :=
  match offer.branch, offer.evidence with
  | .approval, some evidence =>
    if evidence.accepted.isSome then
      run.schedule (.closeRefundEvidence run.evidenceAccess evidence.caseId .reviewCompleted)
        (.closingUnacceptedEvidence offer refusal)
    else run.finishOffer offer refusal.stage
  | _, _ => run.finishOffer offer refusal.stage

def afterObservation (run : Run) (offer : Offer) (confirmation : RefundCustomerConfirmation) :
    Run :=
  if confirmation.accepted then
    match offer.branch with
    | .approval =>
      run.openMonetaryCase offer.evidence
        (buildOpenHumanCaseInput run.request run.workflowId offer.decision (some offer.preview)
          .refundApproval HumanReview.approval.allowedActions)
        (.openingApproval offer)
    | .allow | .exceptional => run.executeAuthorizedRefund offer
  else run.declineOffer offer .cancelled

def observeRefundConfirmation (run : Run) (offer : Offer)
    (confirmation : RefundCustomerConfirmation) : Run :=
  if run.patches.confirmationObservation then
    run.schedule .recordRefundConfirmation (.observingConfirmation offer confirmation)
  else run.afterObservation offer confirmation

def afterConfirmation (run : Run) (offer : Offer) :
    Option RefundCustomerConfirmation → Run
  | none => run.declineOffer offer .previewInvalidated
  | some confirmation => run.observeRefundConfirmation offer confirmation

/-- What is left to do once the handler is installed and has the signals that waited. -/
def awaitConfirmation (run : Run) (offer : Offer) (wait : ConfirmationWait) : Run :=
  if wait.confirmation = none ∧ wait.expired = false then
    if run.patches.expiryTimer then
      match JS.Date.parse offer.preview.validUntil with
      | some deadline =>
        if deadline - run.now ≤ 0 then run.afterConfirmation offer none
        else run.sleep (deadline - run.now) fun due => .awaitingConfirmation offer (some due)
      | none => run.afterConfirmation offer none
    else { run with control := .awaitingConfirmation offer none }
  else run.afterConfirmation offer wait.confirmation

def waitForRefundConfirmation (run : Run) (offer : Offer) : Run :=
  let wait : ConfirmationWait := ⟨offer.preview, none, false⟩
  let run := ({ run with confirmationWait := some wait } : Run).dispatchBuffered
  run.awaitConfirmation offer (run.confirmationWait.getD wait)

def offerPreview (run : Run) (branch : Branch) (evidence : Option EvidenceSnapshot)
    (decision : RefundPolicyDecision) (preview : RefundPreview) : Run :=
  (run.setState { stage := .awaitingCustomerConfirmation, decision := some decision,
                  preview := some preview }).waitForRefundConfirmation
    ⟨branch, evidence, decision, preview⟩

def requestPreview (run : Run) (branch : Branch) (evidence : Option EvidenceSnapshot)
    (refundContext : RefundContext) (decision : RefundPolicyDecision)
    (authorization : Option RefundPreviewAuthorization) : Run :=
  run.schedule
    (.createRefundPreview ⟨run.request.proposal, refundContext, decision, authorization⟩)
    (.creatingPreview branch evidence decision)

/-! The human review. -/

def installReview (run : Run) (review : HumanReview) (control : Control) : Run :=
  { ({ run with review := some review } : Run).dispatchBuffered with control }

def afterApprovalOpened (run : Run) (offer : Offer) (caseId : String) : Run :=
  (run.setState { stage := .awaitingApproval, decision := some offer.decision,
                  preview := some offer.preview }).installReview .approval
    (.awaitingApproval offer caseId)

def closeCase (run : Run) (caseId : String) (humanDecision : RefundHumanDecision)
    (outcome : CloseOutcome) (control : Control) : Run :=
  run.schedule (.closeHumanCase
    (buildCloseHumanCaseInput run.request run.workflowId caseId humanDecision outcome)) control

def afterApprovalDecided (run : Run) (offer : Offer) (caseId : String)
    (humanDecision : RefundHumanDecision) : Run :=
  run.closeCase caseId humanDecision
    (if humanDecision.decision = .reject then .rejected else .approved)
    (.closingApproval offer humanDecision)

def afterApprovalClosed (run : Run) (offer : Offer) (humanDecision : RefundHumanDecision) : Run :=
  if humanDecision.decision = .reject then run.finishOffer offer .rejected
  else run.executeAuthorizedRefund offer

def openTakeover (run : Run) (evidence : Option EvidenceSnapshot)
    (decision : RefundPolicyDecision) : Run :=
  run.openMonetaryCase evidence
    (buildOpenHumanCaseInput run.request run.workflowId decision none .refundTakeover
      HumanReview.takeover.allowedActions)
    (.openingTakeover evidence decision)

def afterTakeoverOpened (run : Run) (evidence : Option EvidenceSnapshot)
    (decision : RefundPolicyDecision) (caseId : String) : Run :=
  (run.setState { stage := .humanTakeoverRequired, decision := some decision }).installReview
    .takeover (.awaitingTakeover evidence decision caseId)

def takeoverOutcome (humanDecision : RefundHumanDecision) : CloseOutcome :=
  match humanDecision.decision with
  | .approveExceptionalRefund => .approved
  | .reject => .rejected
  | .approve | .resolveTakeover => .takeoverResolved

def afterTakeoverDecided (run : Run) (evidence : Option EvidenceSnapshot)
    (decision : RefundPolicyDecision) (caseId : String) (humanDecision : RefundHumanDecision) :
    Run :=
  run.closeCase caseId humanDecision (takeoverOutcome humanDecision)
    (.closingTakeover evidence decision caseId humanDecision)

def afterTakeoverClosed (run : Run) (evidence : Option EvidenceSnapshot)
    (decision : RefundPolicyDecision) (caseId : String) (humanDecision : RefundHumanDecision) :
    Run :=
  match humanDecision.decision with
  | .approveExceptionalRefund =>
    run.schedule (.refreshRefundContext run.refreshInput)
      (.refreshingTakeoverContext evidence decision caseId)
  | .reject => run.finish { stage := .rejected, decision := some decision }
  | .approve | .resolveTakeover =>
    run.finish { stage := .takeoverResolved, decision := some decision }

def afterTakeoverContext (run : Run) (evidence : Option EvidenceSnapshot)
    (decision : RefundPolicyDecision) (caseId : String) (refreshedContext : RefundContext) :
    Run :=
  if (acceptedEvidence evidence).isSome then
    run.schedule (.readRefundEvidence run.evidenceAccess)
      (.readingTakeoverEvidence evidence decision caseId refreshedContext)
  else run.requestPreview .exceptional evidence refreshedContext decision (some ⟨caseId⟩)

def afterTakeoverEvidence (run : Run) (evidence : Option EvidenceSnapshot)
    (decision : RefundPolicyDecision) (caseId : String) (refreshedContext : RefundContext)
    (current : EvidenceSnapshot) : Run :=
  if sameAcceptedEvidence (acceptedEvidence evidence) current.accepted then
    run.schedule (.evaluateRefundPolicy (run.evaluateInput refreshedContext current.accepted))
      (.evaluatingTakeover evidence caseId refreshedContext)
  else run.finish { stage := .previewInvalidated, decision := some decision }

def afterTakeoverEvaluated (run : Run) (evidence : Option EvidenceSnapshot) (caseId : String)
    (refreshedContext : RefundContext) (decision : RefundPolicyDecision) : Run :=
  match decision.effect with
  | .deny => run.finish { stage := .denied, decision := some decision }
  | .needsFacts => run.finish { stage := .needsFacts, decision := some decision }
  | .allow | .approvalRequired | .takeoverRequired =>
    run.requestPreview .exceptional evidence refreshedContext decision (some ⟨caseId⟩)

/-! The policy decision, and the collection of evidence before it. -/

/-- The `switch` on the effect of the decision. -/
def selectBranch (run : Run) (evidence : Option EvidenceSnapshot) (refundContext : RefundContext)
    (decision : RefundPolicyDecision) : Run :=
  let run := run.log (.selected decision.effect)
  match decision.effect with
  | .needsFacts => run.finish { stage := .needsFacts, decision := some decision }
  | .deny => run.finish { stage := .denied, decision := some decision }
  | .approvalRequired => run.requestPreview .approval evidence refundContext decision none
  | .takeoverRequired => run.openTakeover evidence decision
  | .allow => run.requestPreview .allow evidence refundContext decision none

def closeExpiredEvidence (run : Run) (caseId : String) (decision : RefundPolicyDecision) : Run :=
  run.schedule (.closeRefundEvidence run.evidenceAccess caseId .collectionExpired)
    (.closingExpiredEvidence decision)

def evidenceStage (evidence : EvidenceSnapshot) : Stage :=
  if evidence.assessment ≠ .moreRequired ∧
      (0 < evidence.readyCount ∨ 0 < evidence.processingCount) then
    .awaitingEvidenceReview
  else .awaitingCustomerEvidence

/-- The head of the loop that waits for accepted evidence, and what follows the loop. -/
def awaitEvidence (run : Run) (evidence : EvidenceSnapshot) (decision : RefundPolicyDecision)
    (deadline : ℤ) (polls : ℕ) : Run :=
  match evidence.accepted with
  | none =>
    if deadline ≤ run.now then run.closeExpiredEvidence evidence.caseId decision
    else
      (run.setState { stage := evidenceStage evidence, decision := some decision }).sleep
        (min evidencePollInterval (deadline - run.now))
        (.sleepingBeforePoll decision deadline polls)
  | some _ =>
    if deadline ≤ run.now then run.closeExpiredEvidence evidence.caseId decision
    else
      run.schedule (.refreshRefundContext run.refreshInput) (.refreshingReviewedContext evidence)

def afterEvidenceOpened (run : Run) (decision : RefundPolicyDecision)
    (evidence : EvidenceSnapshot) : Run :=
  let deadline := match run.request.evidenceRecovery with
    | some recovery => recovery.deadline
    | none => run.now + evidenceCollectionPeriod
  run.awaitEvidence evidence decision deadline 0

def afterEvidenceRead (run : Run) (decision : RefundPolicyDecision) (deadline : ℤ) (polls : ℕ)
    (evidence : EvidenceSnapshot) : Run :=
  if maxEvidencePollsPerRun ≤ polls + 1 ∧ evidence.accepted = none ∧ run.now < deadline then
    run.continueAsNew { run.request with evidenceRecovery := some ⟨deadline, decision⟩ }
  else run.awaitEvidence evidence decision deadline (polls + 1)

def afterReviewedPolicy (run : Run) (evidence : EvidenceSnapshot) (refundContext : RefundContext)
    (decision : RefundPolicyDecision) : Run :=
  match decision.effect with
  | .allow | .deny | .needsFacts =>
    run.schedule (.closeRefundEvidence run.evidenceAccess evidence.caseId .reviewCompleted)
      (.closingReviewedEvidence evidence refundContext decision)
  | .approvalRequired | .takeoverRequired => run.selectBranch (some evidence) refundContext decision

def needsDamagePhoto (run : Run) (decision : RefundPolicyDecision) : Prop :=
  run.request.policyVersion = "refund-policy-v2" ∧ decision.effect = .needsFacts ∧
    decision.missingFacts = [.damagePhoto]

instance (run : Run) (decision : RefundPolicyDecision) : Decidable (run.needsDamagePhoto decision) :=
  inferInstanceAs (Decidable (_ ∧ _ ∧ _))

def afterPolicy (run : Run) (refundContext : RefundContext) (decision : RefundPolicyDecision) :
    Run :=
  if run.needsDamagePhoto decision then
    run.schedule (.openRefundEvidence (buildOpenHumanCaseInput run.request run.workflowId decision
      none .refundEvidenceReview [])) (.openingEvidence decision)
  else run.selectBranch none refundContext decision

/-- A run that continues the collection of evidence keeps the decision it was started for. -/
def afterContext (run : Run) (refundContext : RefundContext) : Run :=
  match run.request.evidenceRecovery with
  | some recovery => run.afterPolicy refundContext recovery.decision
  | none =>
    run.schedule (.evaluateRefundPolicy (run.evaluateInput refundContext none))
      (.evaluatingPolicy refundContext)

/-! The steps. -/

/-- An activity returns to the await that scheduled it. -/
def complete (run : Run) (result : ActivityResult) : Option Run :=
  match run.control, result with
  | .refreshingContext, .refundContext refundContext => some (run.afterContext refundContext)
  | .evaluatingPolicy refundContext, .decision decision =>
    some (run.afterPolicy refundContext decision)
  | .openingEvidence decision, .evidence evidence =>
    some (run.afterEvidenceOpened decision evidence)
  | .readingEvidence decision deadline polls, .evidence evidence =>
    some (run.afterEvidenceRead decision deadline polls evidence)
  | .closingExpiredEvidence decision, .done =>
    some (run.finish { stage := .evidenceCollectionExpired, decision := some decision })
  | .refreshingReviewedContext evidence, .refundContext refundContext =>
    some (run.schedule (.evaluateRefundPolicy (run.evaluateInput refundContext evidence.accepted))
      (.evaluatingReviewedPolicy evidence refundContext))
  | .evaluatingReviewedPolicy evidence refundContext, .decision decision =>
    some (run.afterReviewedPolicy evidence refundContext decision)
  | .closingReviewedEvidence evidence refundContext decision, .done =>
    some (run.selectBranch (some evidence) refundContext decision)
  | .creatingPreview branch evidence decision, .preview preview =>
    some (run.offerPreview branch evidence decision preview)
  | .closingUnacceptedEvidence offer refusal, .done =>
    some (run.finishOffer offer refusal.stage)
  | .observingConfirmation offer confirmation, .done =>
    some (run.afterObservation offer confirmation)
  | .openingApproval offer, .humanCase caseId => some (run.afterApprovalOpened offer caseId)
  | .closingApproval offer humanDecision, .done =>
    some (run.afterApprovalClosed offer humanDecision)
  | .openingTakeover evidence decision, .humanCase caseId =>
    some (run.afterTakeoverOpened evidence decision caseId)
  | .closingTakeover evidence decision caseId humanDecision, .done =>
    some (run.afterTakeoverClosed evidence decision caseId humanDecision)
  | .refreshingTakeoverContext evidence decision caseId, .refundContext refreshedContext =>
    some (run.afterTakeoverContext evidence decision caseId refreshedContext)
  | .readingTakeoverEvidence evidence decision caseId refreshedContext, .evidence current =>
    some (run.afterTakeoverEvidence evidence decision caseId refreshedContext current)
  | .evaluatingTakeover evidence caseId refreshedContext, .decision decision =>
    some (run.afterTakeoverEvaluated evidence caseId refreshedContext decision)
  | .readingExecutionEvidence offer, .evidence current =>
    some (run.afterExecutionEvidence offer current)
  | .refreshingExecutionContext offer, .refundContext refreshed =>
    some (run.afterExecutionContext offer refreshed)
  | .executing offer, .execution result => some (run.afterExecution offer result)
  | .reconcilingProcessing decision preview, .reconciliation reconciliation =>
    run.outcomeWait.map fun wait =>
      run.afterProcessingReconciliation decision preview wait reconciliation
  | .reconcilingPending decision preview attemptsInRun, .reconciliation reconciliation =>
    some (run.afterPendingReconciliation decision preview attemptsInRun reconciliation)
  | _, _ => none

/-- The condition that the control waits for holds. -/
def resume (run : Run) : Option Run :=
  match run.control with
  | .awaitingConfirmation offer _ =>
    match run.confirmationWait with
    | some wait =>
      if wait.confirmation.isSome ∨ wait.expired then
        some (run.afterConfirmation offer wait.confirmation)
      else none
    | none => none
  | .awaitingApproval offer caseId =>
    run.humanDecision.map (run.afterApprovalDecided offer caseId)
  | .awaitingTakeover evidence decision caseId =>
    run.humanDecision.map (run.afterTakeoverDecided evidence decision caseId)
  | .awaitingOutcome decision preview _ =>
    match run.outcomeWait with
    | some wait =>
      if wait.providerOutcome.isSome then
        some (run.reconcile preview (.reconcilingProcessing decision preview))
      else none
    | none => none
  | _ => none

/-- The timer that the control waits for fires. -/
def wake (run : Run) : Option Run :=
  match run.control with
  | .sleepingBeforePoll decision deadline polls due =>
    if due ≤ run.now then
      some (run.schedule (.readRefundEvidence run.evidenceAccess)
        (.readingEvidence decision deadline polls))
    else none
  | .awaitingConfirmation offer (some due) =>
    if due ≤ run.now then
      some (run.afterConfirmation offer (run.confirmationWait.bind ConfirmationWait.confirmation))
    else none
  | .awaitingOutcome decision preview due =>
    if due ≤ run.now then
      some (run.reconcile preview (.reconcilingProcessing decision preview))
    else none
  | .sleepingPending decision preview attemptsInRun due =>
    if due ≤ run.now then some (run.afterPendingSleep decision preview attemptsInRun) else none
  | _ => none

end Run

/-- `fail` is an activity whose last attempt has failed, which fails the workflow. -/
inductive RunEvent
  | advance (milliseconds : ℕ)
  | signal (signal : Signal)
  | complete (result : ActivityResult)
  | fail
  | resume
  | wake
  deriving DecidableEq, Repr

namespace Run

def step (run : Run) : RunEvent → Option Run
  | .advance milliseconds => some { run with now := run.now + milliseconds }
  | .signal signal => if run.control.closed then none else some (run.receive signal)
  | .complete result => (run.log (.completed result)).complete result
  | .fail => if run.control.awaitsActivity then some { run with control := .failed } else none
  | .resume => run.resume
  | .wake => run.wake

/-- A run at its beginning, before its first activity is scheduled. -/
def blank (request : RefundWorkflowRequest) (workflowId : String) (patches : Patches) (now : ℤ) :
    Run where
  request
  workflowId
  patches
  now
  control := .refreshingContext
  state := { stage := .evaluating }
  confirmationWait := none
  review := none
  humanDecision := none
  outcomeWait := none
  buffered := []
  history := []

end Run

/-- Signals that arrive with the first task of a run wait for their handlers as all others do. -/
def workflow : Machine Run RunEvent := ⟨Run.step⟩

def Run.Starting (run : Run) : Prop :=
  ∃ request workflowId patches now, run = (Run.blank request workflowId patches now).start

end CSO.Workers
