import CSO.Commerce

/-! Human cases: the rows that the service keeps about a case and what a case type allows. -/
namespace CSO.HumanOperations

inductive HumanCaseType
  | refundApproval
  | refundTakeover
  | refundEvidenceReview
  deriving DecidableEq, Repr

def HumanCaseType.text : HumanCaseType → String
  | .refundApproval => "REFUND_APPROVAL"
  | .refundTakeover => "REFUND_TAKEOVER"
  | .refundEvidenceReview => "REFUND_EVIDENCE_REVIEW"

inductive HumanCaseStatus
  | opened
  | claimed
  | decisionPending
  | closed
  deriving DecidableEq, Repr

inductive HumanDecision
  | approve
  | reject
  | resolveTakeover
  | approveExceptionalRefund
  deriving DecidableEq, Repr

def HumanDecision.text : HumanDecision → String
  | .approve => "APPROVE"
  | .reject => "REJECT"
  | .resolveTakeover => "RESOLVE_TAKEOVER"
  | .approveExceptionalRefund => "APPROVE_EXCEPTIONAL_REFUND"

structure RefundReviewPacket where
  orderReference : Option String
  selectedItemIds : Option (List String)
  requestedAmount : Option Money
  refundReason : Option String
  policyReasonCodes : List String
  evidenceIds : List String
  knowledgeReleaseId : Option String
  policyVersion : String
  deriving DecidableEq, Repr

/-- Optional fields of an object that are left out when they are absent. -/
def optionalField (key : String) : Option JS.Json → List (String × JS.Json)
  | some value => [(key, value)]
  | none => []

def strings (items : List String) : JS.Json := .arr (items.map JS.Json.str)

def moneyJson (amount : Money) : JS.Json :=
  .obj [("amount_minor", .num amount.amountMinor), ("currency", .str amount.currency)]

def RefundReviewPacket.json (packet : RefundReviewPacket) : JS.Json :=
  .obj (optionalField "order_reference" (packet.orderReference.map JS.Json.str) ++
    optionalField "selected_item_ids" (packet.selectedItemIds.map strings) ++
    optionalField "requested_amount" (packet.requestedAmount.map moneyJson) ++
    optionalField "refund_reason" (packet.refundReason.map JS.Json.str) ++
    [("policy_reason_codes", strings packet.policyReasonCodes),
      ("evidence_ids", strings packet.evidenceIds)] ++
    optionalField "knowledge_release_id" (packet.knowledgeReleaseId.map JS.Json.str) ++
    [("policy_version", .str packet.policyVersion)])

/-- A row of `refund_cases`. Instants are time values in milliseconds. -/
structure CaseRow where
  caseId : String
  tenantId : String
  environmentId : String
  workflowId : String
  caseType : HumanCaseType
  status : HumanCaseStatus
  assignedStaffId : Option String
  caseVersion : ℕ
  reviewPacket : RefundReviewPacket
  policyVersion : String
  createdAt : ℤ
  updatedAt : ℤ
  decidedAt : Option ℤ
  deriving DecidableEq, Repr

inductive CaseEventType
  | caseOpened
  | caseClaimed
  | decisionRecorded
  | caseClosed
  | evidenceUploadReserved
  | evidenceValidated
  | evidenceReviewed
  | evidencePurged
  | casePhaseChanged
  deriving DecidableEq, Repr

inductive ActorType
  | workflow
  | human
  | customer
  deriving DecidableEq, Repr

/-- A row of `case_audit_events`. -/
structure AuditRow where
  caseId : String
  eventType : CaseEventType
  occurredAt : ℤ
  actorType : ActorType
  actorId : String
  caseVersion : ℕ
  details : List (String × String)
  deriving DecidableEq, Repr

inductive OutboxStatus
  | pending
  | delivered
  deriving DecidableEq, Repr

/-- A row of `decision_outbox`. -/
structure OutboxRow where
  eventId : String
  caseId : String
  workflowId : String
  tenantId : String
  environmentId : String
  decision : HumanDecision
  decidedBy : String
  decidedAt : ℤ
  reasonCode : Option String
  note : Option String
  status : OutboxStatus
  createdAt : ℤ
  deriving DecidableEq, Repr

inductive IdempotentAction
  | claim
  | reassign
  | decision
  deriving DecidableEq, Repr

structure IdempotencyKey where
  action : IdempotentAction
  caseId : String
  idempotencyKey : String
  deriving DecidableEq, Repr

/-- A row of `action_idempotency`. -/
structure IdempotencyRow where
  key : IdempotencyKey
  requestFingerprint : String
  outboxEventId : Option String
  deriving DecidableEq, Repr

inductive StaffRole
  | refundApprover
  | refundSupervisor
  deriving DecidableEq, Repr

structure HumanAccess where
  staffId : String
  tenantId : String
  environmentId : String
  role : StaffRole
  deriving DecidableEq, Repr

def allowedActionsForCaseType : HumanCaseType → List HumanDecision
  | .refundEvidenceReview => []
  | .refundApproval => [.approve, .reject]
  | .refundTakeover => [.approveExceptionalRefund, .resolveTakeover, .reject]

@[simp] theorem allowedActions_evidenceReview :
    allowedActionsForCaseType .refundEvidenceReview = [] := rfl

inductive CaseErrorCode
  | caseNotFound
  | caseConflict
  | staleCaseVersion
  | idempotencyConflict
  deriving DecidableEq, Repr

inductive EvidenceErrorCode
  | evidenceNotFound
  | idempotencyConflict
  | evidenceCaseConflict
  | evidenceFrozen
  | staleEvidenceVersion
  | staleCaseVersion
  | evidenceLimitExceeded
  | evidenceReviewForbidden
  | evidenceNotAccepted
  | evidenceBindingConflict
  deriving DecidableEq, Repr

def EvidenceErrorCode.status : EvidenceErrorCode → ℕ
  | .evidenceNotFound => 404
  | .evidenceReviewForbidden => 403
  | _ => 409

/-- What an operation throws: an error of one of the two repositories, a plain error, a violated
constraint of the database, or what a callback throws. -/
inductive Failure
  | repository (code : CaseErrorCode)
  | evidence (code : EvidenceErrorCode)
  | error (message : String)
  | constraint
  | callback
  deriving DecidableEq, Repr

end CSO.HumanOperations
