import CSO.Workers.GatewayClient
import CSO.Workers.Preview

/-! The activities of a refund workflow: what each is called with and what it returns. -/
namespace CSO.Workers
open Gateway (ExecutionResult ReconciliationResult)

structure WorkflowJourneyAccess where
  tenantId : String
  environmentId : String
  subjectCustomerId : String
  requestId : String
  traceId : String
  deriving DecidableEq, Repr

inductive EvidenceAssessment
  | unreviewed
  | accepted
  | moreRequired
  deriving DecidableEq, Repr

structure EvidenceSnapshot where
  caseId : String
  assessment : EvidenceAssessment
  evidenceVersion : ℕ
  readyCount : ℕ
  processingCount : ℕ
  accepted : Option AcceptedDamageEvidence
  deriving DecidableEq, Repr

inductive HumanCaseType
  | refundApproval
  | refundTakeover
  | refundEvidenceReview
  deriving DecidableEq, Repr

inductive HumanCaseAction
  | approve
  | approveExceptionalRefund
  | reject
  | resolveTakeover
  deriving DecidableEq, Repr

def HumanCaseAction.text : HumanCaseAction → String
  | .approve => "APPROVE"
  | .approveExceptionalRefund => "APPROVE_EXCEPTIONAL_REFUND"
  | .reject => "REJECT"
  | .resolveTakeover => "RESOLVE_TAKEOVER"

structure ReviewProposal where
  proposalId : String
  intent : RefundIntent
  deriving DecidableEq, Repr

structure ReviewPolicy where
  decisionId : String
  effect : PolicyEffect
  policyVersion : String
  inputFactsHash : String
  reasonCodes : List String
  factRefs : List FactRef
  deriving DecidableEq, Repr

structure HumanCaseReviewPacket where
  orderReference : Option String
  proposal : ReviewProposal
  policy : ReviewPolicy
  preview : Option RefundPreview
  deriving DecidableEq, Repr

structure OpenHumanCaseInput where
  caseId : String
  workflowId : String
  idempotencyKey : String
  access : WorkflowJourneyAccess
  caseType : HumanCaseType
  allowedActions : List HumanCaseAction
  reviewPacket : HumanCaseReviewPacket
  deriving DecidableEq, Repr

inductive CloseOutcome
  | approved
  | rejected
  | takeoverResolved
  deriving DecidableEq, Repr

structure RefundHumanDecision where
  decision : HumanCaseAction
  decidedBy : String
  decidedAt : String
  reasonCode : Option String
  deriving DecidableEq, Repr

structure CloseHumanCaseInput where
  caseId : String
  workflowId : String
  idempotencyKey : String
  access : WorkflowJourneyAccess
  outcome : CloseOutcome
  decision : RefundHumanDecision
  deriving DecidableEq, Repr

structure RefreshRefundContextInput where
  proposal : RefundProposal
  workflowId : String
  access : WorkflowJourneyAccess
  deriving DecidableEq, Repr

structure EvidenceAccess extends RefreshRefundContextInput where
  policyVersion : String
  deriving DecidableEq, Repr

structure EvaluateRefundPolicyInput where
  proposal : RefundProposal
  refundContext : RefundContext
  policyVersion : String
  damageEvidence : Option AcceptedDamageEvidence
  deriving DecidableEq, Repr

structure CreateRefundPreviewInput where
  proposal : RefundProposal
  refundContext : RefundContext
  decision : RefundPolicyDecision
  authorization : Option RefundPreviewAuthorization
  deriving DecidableEq, Repr

/-- The input of `executeRefund` and of `reconcileRefund`. -/
structure ExecuteRefundInput where
  proposal : RefundProposal
  preview : RefundPreview
  workflowId : String
  access : WorkflowJourneyAccess
  deriving DecidableEq, Repr

inductive EvidenceOutcome
  | reviewCompleted
  | collectionExpired
  deriving DecidableEq, Repr

/-- A scheduled activity with its input. -/
inductive Activity
  | refreshRefundContext (input : RefreshRefundContextInput)
  | evaluateRefundPolicy (input : EvaluateRefundPolicyInput)
  | createRefundPreview (input : CreateRefundPreviewInput)
  | recordRefundConfirmation
  | executeRefund (input : ExecuteRefundInput)
  | reconcileRefund (input : ExecuteRefundInput)
  | openHumanCase (input : OpenHumanCaseInput)
  | closeHumanCase (input : CloseHumanCaseInput)
  | openRefundEvidence (input : OpenHumanCaseInput)
  | readRefundEvidence (input : EvidenceAccess)
  | transitionRefundEvidence (input : OpenHumanCaseInput) (evidenceVersion : ℕ)
  | closeRefundEvidence (input : EvidenceAccess) (caseId : String) (outcome : EvidenceOutcome)
  deriving DecidableEq, Repr

inductive ActivityResult
  | refundContext (refundContext : RefundContext)
  | decision (decision : RefundPolicyDecision)
  | preview (preview : RefundPreview)
  | execution (result : ExecutionResult)
  | reconciliation (result : ReconciliationResult)
  | humanCase (caseId : String)
  | evidence (snapshot : EvidenceSnapshot)
  | done
  deriving DecidableEq, Repr

/-- The activity `evaluateRefundPolicy`, with the context its host creates. -/
def evaluateRefundPolicyActivity (input : EvaluateRefundPolicyInput)
    (context : PolicyDecisionContext) : Except String RefundPolicyDecision := do
  let policyInput ← createRefundPolicyInput input.proposal input.refundContext
    input.policyVersion input.damageEvidence
  let release ← getRefundPolicyRelease input.policyVersion
  evaluateRefundPolicy policyInput release context

def createRefundPreviewActivity (input : CreateRefundPreviewInput)
    (previewId createdAt : String) : Except String RefundPreview :=
  createRefundPreview input.proposal input.refundContext input.decision input.authorization
    previewId createdAt

/-- The body that `executeRefund` posts to the gateway. -/
def ExecuteRefundInput.executionRequest (input : ExecuteRefundInput) :
    Gateway.RefundExecutionRequest where
  orderId := input.proposal.intent.orderId
  reasonCode := input.proposal.intent.reasonCode
  amount := input.preview.requestedAmount
  selection := input.preview.selection
  idempotencyKey := "refund:" ++ input.workflowId ++ ":" ++ input.preview.previewId
  previewId := input.preview.previewId

/-- The body that `reconcileRefund` posts to the gateway. -/
def ExecuteRefundInput.reconciliationRequest (input : ExecuteRefundInput) :
    Gateway.RefundReconciliationRequest where
  orderId := input.proposal.intent.orderId
  previewId := input.preview.previewId
  amount := input.preview.requestedAmount

/-- The claims that the worker signs into the assertion of a request. -/
def ExecuteRefundInput.assertion (input : ExecuteRefundInput) : Gateway.OrderAccessContext where
  contextId := input.workflowId
  tenantId := input.access.tenantId
  environmentId := input.access.environmentId
  subjectCustomerId := input.access.subjectCustomerId

end CSO.Workers
