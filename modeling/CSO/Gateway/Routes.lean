import CSO.Gateway.ExecutionStore
import CSO.Gateway.RefundContext

/-! The execution, reconciliation and provider event routes: what they read from a request,
what they decide between two awaits, and what they answer. -/
namespace CSO.Gateway

/-- The claims of a verified workflow access assertion. -/
structure OrderAccessContext where
  contextId : String
  tenantId : String
  environmentId : String
  subjectCustomerId : String
  deriving DecidableEq, Repr

/-- An answer with a body, a refusal with a code, or an error no route catches. -/
inductive Reply (α : Type)
  | sent (status : ℕ) (body : α)
  | refused (status : ℕ) (code : String)
  | thrown
  deriving DecidableEq, Repr

def Reply.status {α : Type} : Reply α → ℕ
  | .sent status _ => status
  | .refused status _ => status
  | .thrown => 500

/-- `z.string().trim().min(1).max(maximum)`. -/
def parseText (maximum : ℕ) (text : String) : Option String :=
  let trimmed := JS.trim text
  if 1 ≤ JS.length trimmed ∧ JS.length trimmed ≤ maximum then some trimmed else none

def maxSafeInteger : ℤ := 9007199254740991

/-- A positive amount in US dollars. -/
def parseAmount (amount : Money) : Option Money :=
  if 0 < amount.amountMinor ∧ amount.amountMinor ≤ maxSafeInteger ∧ amount.currency = "USD" then
    some amount
  else none

/-- The body of `POST /internal/v1/refunds`, before and after it is parsed. -/
structure RefundExecutionRequest where
  orderId : String
  reasonCode : String
  amount : Money
  selection : RefundSelection
  idempotencyKey : String
  previewId : String
  deriving DecidableEq, Repr

def parseRefundExecution (body : RefundExecutionRequest) : Option RefundExecutionRequest := do
  let orderId ← parseText 160 body.orderId
  let reasonCode ← parseText 100 body.reasonCode
  let amount ← parseAmount body.amount
  guard (body.selection.itemIds.length ≤ 100)
  guard (1 ≤ JS.length body.idempotencyKey ∧ JS.length body.idempotencyKey ≤ 240)
  let previewId ← parseText 160 body.previewId
  return { body with orderId, reasonCode, amount, previewId }

inductive ExecutionStatus
  | submitted
  | succeeded
  | failed
  | pendingReconciliation
  deriving DecidableEq, Repr

structure ExecutionResult where
  status : ExecutionStatus
  providerRefundId : Option String
  deriving DecidableEq, Repr

/-- The status under which a result is recorded. -/
def ExecutionStatus.recorded : ExecutionStatus → RefundExecutionStatus
  | .submitted => .submitted
  | .succeeded => .succeeded
  | .failed => .failed
  | .pendingReconciliation => .pendingReconciliation

def ExecutionResult.pending : ExecutionResult := ⟨.pendingReconciliation, none⟩

/-- What is settled before the first await: a refusal, or the access and the request. A body
of another shape and an assertion that is not verified are `none`. -/
def admitRefundExecution (configured : Bool) (access : Option OrderAccessContext)
    (body : Option RefundExecutionRequest) :
    Except (Reply ExecutionResult) (OrderAccessContext × RefundExecutionRequest) :=
  match body.bind parseRefundExecution, access with
  | none, _ => .error (.refused 400 "invalid_refund_execution_request")
  | some _, none => .error (.refused 401 "workflow_unauthorized")
  | some request, some access =>
    if configured then .ok (access, request)
    else .error (.refused 501 "refund_execution_not_configured")

/-- The payment to refund when the request is still eligible. -/
def eligiblePayment (request : RefundExecutionRequest) (order : CommerceOrder)
    (observedAt : String) : Option CommercePayment :=
  let facts := (toRefundContext order request.selection
    { observationId := "refund-execution-check", observedAt := observedAt }).facts
  match order.payments.find? CommercePayment.settled with
  | none => none
  | some payment =>
    if facts.transactionRefundable ∧ facts.itemSelectionValid ∧
        facts.refundableAmount.currency = request.amount.currency ∧
        request.amount.amountMinor ≤ facts.refundableAmount.amountMinor then
      some payment
    else none

/-- An eligible request is covered by what is left of the only settled payment. -/
theorem eligiblePayment_eq_some {request : RefundExecutionRequest} {order : CommerceOrder}
    {observedAt : String} {payment : CommercePayment}
    (h : eligiblePayment request order observedAt = some payment) :
    settledPayment order = some payment ∧ itemSelectionValid order request.selection = true ∧
      request.amount.amountMinor ≤ payment.amount.amountMinor - consumedAmountMinor payment := by
  unfold eligiblePayment at h
  rw [toRefundContext_facts] at h
  cases hfind : order.payments.find? CommercePayment.settled with
  | none =>
    rw [hfind] at h
    cases h
  | some found =>
    rw [hfind] at h
    simp only at h
    split_ifs at h with hok
    cases h
    obtain ⟨hrefundable, hvalid, -, hamount⟩ := hok
    have hpos : 0 < remainingPaymentAmountMinor order := by
      simp only [refundFacts, Bool.and_eq_true, decide_eq_true_eq] at hrefundable
      exact hrefundable.2
    obtain ⟨settled, hsettled, hremaining⟩ := remaining_pos hpos
    have hsame : settled = payment := by
      have hfound := find_settled hsettled
      rw [hfind] at hfound
      exact (Option.some.inj hfound).symm
    subst hsame
    refine ⟨hsettled, hvalid, ?_⟩
    rw [← hremaining]
    exact hamount.trans (refundable_le_remaining order request.selection hvalid)

def checkRefundOrder (access : OrderAccessContext) (request : RefundExecutionRequest)
    (order : Option CommerceOrder) (observedAt : String) :
    Except (Reply ExecutionResult) CommercePayment :=
  match order with
  | none => .error (.refused 404 "order_not_found")
  | some order =>
    if order.customer = some access.subjectCustomerId then
      match eligiblePayment request order observedAt with
      | some payment => .ok payment
      | none => .error (.refused 409 "refund_no_longer_eligible")
    else .error (.refused 404 "order_not_found")

theorem checkRefundOrder_eq_ok {access : OrderAccessContext} {request : RefundExecutionRequest}
    {order : Option CommerceOrder} {observedAt : String} {payment : CommercePayment} :
    checkRefundOrder access request order observedAt = .ok payment ↔
      ∃ o, order = some o ∧ o.customer = some access.subjectCustomerId ∧
        eligiblePayment request o observedAt = some payment := by
  cases order with
  | none => simp [checkRefundOrder]
  | some o =>
    unfold checkRefundOrder
    by_cases hc : o.customer = some access.subjectCustomerId
    · cases hp : eligiblePayment request o observedAt with
      | none => simp [hc, hp]
      | some p => simp [hc, hp]
    · simp [hc]

def reserveInput (access : OrderAccessContext) (request : RefundExecutionRequest)
    (occurredAt : ℤ) : ReserveRefundExecutionInput where
  tenantId := access.tenantId
  environmentId := access.environmentId
  idempotencyKey := request.idempotencyKey
  workflowId := access.contextId
  previewId := request.previewId
  orderId := request.orderId
  amountMinor := request.amount.amountMinor
  currency := request.amount.currency
  occurredAt := occurredAt

/-- The answer to a request whose key has been reserved before. -/
def existingResponse (execution : RefundExecution) : ExecutionResult :=
  match execution.status with
  | .succeeded => ⟨.succeeded, execution.providerRefundId⟩
  | .failed => ⟨.failed, none⟩
  | .submitted => ⟨.submitted, execution.providerRefundId⟩
  | .inProgress | .pendingReconciliation => .pending

def providerInput (request : RefundExecutionRequest) (payment : CommercePayment) :
    ProviderRefundInput where
  paymentId := payment.id
  amount := request.amount
  reason := request.reasonCode

def providerResponse (result : ProviderRefundResult) : ExecutionResult :=
  match result.status with
  | .submitted => ⟨.submitted, result.providerRefundId⟩
  | .succeeded => ⟨.succeeded, result.providerRefundId⟩
  | .failed => ⟨.failed, none⟩

/-- The body of `POST /internal/v1/refund-reconciliations`. -/
structure RefundReconciliationRequest where
  orderId : String
  previewId : String
  amount : Money
  deriving DecidableEq, Repr

def parseRefundReconciliation (body : RefundReconciliationRequest) :
    Option RefundReconciliationRequest := do
  let orderId ← parseText 160 body.orderId
  let previewId ← parseText 160 body.previewId
  let amount ← parseAmount body.amount
  return { orderId, previewId, amount }

inductive ReconciliationStatus
  | succeeded
  | failed
  | processing
  | notFound
  deriving DecidableEq, Repr

structure ReconciliationResult where
  status : ReconciliationStatus
  providerRefundId : Option String
  deriving DecidableEq, Repr

def admitRefundReconciliation (access : Option OrderAccessContext)
    (body : Option RefundReconciliationRequest) :
    Except (Reply ReconciliationResult) (OrderAccessContext × RefundReconciliationRequest) :=
  match body.bind parseRefundReconciliation, access with
  | none, _ => .error (.refused 400 "invalid_refund_reconciliation_request")
  | some _, none => .error (.refused 401 "workflow_unauthorized")
  | some request, some access => .ok (access, request)

/-- The first refund listed for the order whose amount is the requested one. -/
def matchingRefund (order : CommerceOrder) (amount : Money) : Option CommerceRefund :=
  order.refunds.find? fun candidate =>
    candidate.amount.amountMinor = amount.amountMinor ∧ candidate.amount.currency = amount.currency

def checkReconciliationOrder (access : OrderAccessContext) (request : RefundReconciliationRequest)
    (order : Option CommerceOrder) : Except (Reply ReconciliationResult) CommerceRefund :=
  match order with
  | none => .error (.refused 404 "order_not_found")
  | some order =>
    if order.customer = some access.subjectCustomerId then
      match matchingRefund order request.amount with
      | some refund => .ok refund
      | none => .error (.sent 200 ⟨.notFound, none⟩)
    else .error (.refused 404 "order_not_found")

def reconciliationStatus (refund : CommerceRefund) : ReconciliationStatus :=
  let status := JS.toUpperCase refund.status
  if status = "SETTLED" ∨ status = "COMPLETED" then .succeeded
  else if status = "FAILED" ∨ status = "CANCELLED" then .failed
  else .processing

/-- The outcome that a reconciliation writes to the execution it found. -/
def reconciliationOutcome (refund : CommerceRefund) (execution : RefundExecution) :
    Option RefundExecutionStatus :=
  match reconciliationStatus refund with
  | .succeeded => if execution.status = .succeeded then none else some .succeeded
  | .failed => if execution.status = .failed then none else some .failed
  | .processing | .notFound => none

def reconciliationResponse (refund : CommerceRefund) : ReconciliationResult :=
  ⟨reconciliationStatus refund, some refund.id⟩

/-- The answer of `POST /internal/v1/provider-refund-events` to a signed event. -/
def providerEventReply : RecordEventResult → Reply String
  | .accepted => .sent 202 "accepted"
  | .duplicate => .sent 202 "duplicate"
  | .unknownRefund => .refused 404 "provider_refund_not_found"

end CSO.Gateway
