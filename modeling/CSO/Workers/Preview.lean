import CSO.Workers.Policy

/-! Proposals, the policy input made of them, and the previews that a customer confirms. -/
namespace CSO.Workers

structure RefundIntent where
  orderId : String
  reasonCode : String
  scope : RequestedScope
  itemIds : List String
  requestedAmount : Option Money
  deriving DecidableEq, Repr

structure RefundProposal where
  proposalId : String
  intent : RefundIntent
  deriving DecidableEq, Repr

structure AcceptedDamageEvidence where
  evidenceVersion : ℕ
  assessmentId : String
  manifestHash : String
  observedAt : String
  deriving DecidableEq, Repr

structure RefundPreview where
  previewId : String
  createdAt : String
  proposalId : String
  orderId : String
  selection : RefundSelection
  requestedAmount : Money
  refundDestination : String
  policyVersion : String
  decisionId : String
  inputFactsHash : String
  validUntil : String
  deriving DecidableEq, Repr

/-- A supervisor's exceptional approval of the human case. -/
structure RefundPreviewAuthorization where
  caseId : String
  deriving DecidableEq, Repr

def sameItemIds (left right : List String) : Bool :=
  left.length == right.length &&
    left.insertionSort (fun a b => JS.notAfter a b) ==
      right.insertionSort (fun a b => JS.notAfter a b)

def createRefundPolicyInput (proposal : RefundProposal) (refundContext : RefundContext)
    (policyVersion : String) (damageEvidence : Option AcceptedDamageEvidence) :
    Except String RefundPolicyInput :=
  if proposal.intent.orderId ≠ refundContext.source.orderId then
    .error "REFUND_CONTEXT_ORDER_MISMATCH"
  else if proposal.intent.scope.text ≠ refundContext.selection.scope.text ∨
      ¬sameItemIds proposal.intent.itemIds refundContext.selection.itemIds then
    .error "REFUND_CONTEXT_SELECTION_MISMATCH"
  else .ok {
    policyVersion
    request := {
      proposalId := proposal.proposalId
      orderId := proposal.intent.orderId
      reasonCode := proposal.intent.reasonCode
      scope := proposal.intent.scope
      itemIds := proposal.intent.itemIds
      requestedAmount := proposal.intent.requestedAmount }
    facts := {
      customerVerified := some refundContext.facts.customerVerified
      transactionRefundable := some refundContext.facts.transactionRefundable
      itemSelectionValid := some refundContext.facts.itemSelectionValid
      priorRefundCount := some refundContext.facts.priorRefundCount
      refundableAmount := some refundContext.facts.refundableAmount
      refundDestination := some refundContext.facts.refundDestination }
    factRefs :=
      { factId := refundContext.observationId
        factType := "REFUND_CONTEXT"
        sourceVersion := refundContext.source.factsVersion
        observedAt := refundContext.observedAt } ::
      (damageEvidence.toList.map fun evidence =>
        { factId := evidence.assessmentId
          factType := "ACCEPTED_DAMAGE_EVIDENCE"
          sourceVersion := evidence.manifestHash
          observedAt := evidence.observedAt }) }

/-- An exceptional approval allows a preview of a takeover decision only. -/
def allowsPreview (effect : PolicyEffect) (authorization : Option RefundPreviewAuthorization) :
    Bool :=
  match effect, authorization with
  | .allow, _ | .approvalRequired, _ => true
  | .takeoverRequired, some authorization => authorization.caseId ≠ ""
  | _, _ => false

def createRefundPreview (proposal : RefundProposal) (refundContext : RefundContext)
    (decision : RefundPolicyDecision) (authorization : Option RefundPreviewAuthorization)
    (previewId createdAt : String) : Except String RefundPreview :=
  match allowsPreview decision.effect authorization, proposal.intent.requestedAmount with
  | true, some requestedAmount =>
    if proposal.intent.orderId ≠ refundContext.source.orderId then
      .error "REFUND_PREVIEW_ORDER_MISMATCH"
    else .ok {
      previewId
      createdAt
      proposalId := proposal.proposalId
      orderId := proposal.intent.orderId
      selection := refundContext.selection
      requestedAmount
      refundDestination := refundContext.facts.refundDestination
      policyVersion := decision.policyVersion
      decisionId := decision.decisionId
      inputFactsHash := decision.inputFactsHash
      validUntil := decision.validUntil }
  | _, _ => .error "REFUND_PREVIEW_REQUIRES_ALLOWED_DECISION"

/-- The deadline is exclusive: a decision received exactly at expiry is too late. -/
def isRefundPreviewCurrent (validUntil : String) (nowMilliseconds : ℤ) : Bool :=
  match JS.Date.parse validUntil with
  | some deadline => nowMilliseconds < deadline
  | none => false

/-- A preview inherits the deadline of the decision it is made of. -/
theorem createRefundPreview_eq_ok {proposal : RefundProposal} {refundContext : RefundContext}
    {decision : RefundPolicyDecision} {authorization : Option RefundPreviewAuthorization}
    {previewId createdAt : String} {preview : RefundPreview}
    (h : createRefundPreview proposal refundContext decision authorization previewId createdAt =
      .ok preview) :
    preview.validUntil = decision.validUntil ∧ preview.decisionId = decision.decisionId ∧
      allowsPreview decision.effect authorization = true ∧
      proposal.intent.requestedAmount = some preview.requestedAmount := by
  unfold createRefundPreview at h
  split at h
  · rename_i requestedAmount hallows hamount
    split_ifs at h
    cases h
    exact ⟨rfl, rfl, hallows, hamount⟩
  · cases h

end CSO.Workers
