import CSO.HumanOperations.Tables
import CSO.JS.Uuid

/-! The repository of human cases. Every operation is one transaction and reads the clock once;
identifiers come from `randomUUID`. -/
namespace CSO.HumanOperations
open Transition (transaction throwIf required)
open Work

structure Scope where
  tenantId : String
  environmentId : String
  deriving DecidableEq, Repr

structure OpenHumanCaseInput where
  scope : Scope
  workflowId : String
  caseType : HumanCaseType
  reviewPacket : RefundReviewPacket
  policyVersion : String
  deriving DecidableEq, Repr

inductive CollectionOutcome
  | evidenceReviewCompleted
  | evidenceCollectionExpired
  deriving DecidableEq, Repr

def CollectionOutcome.text : CollectionOutcome → String
  | .evidenceReviewCompleted => "EVIDENCE_REVIEW_COMPLETED"
  | .evidenceCollectionExpired => "EVIDENCE_COLLECTION_EXPIRED"

structure CloseHumanCaseInput where
  scope : Scope
  caseId : String
  workflowId : String
  outcome : Option CollectionOutcome
  deriving DecidableEq, Repr

structure ClaimHumanCaseInput where
  scope : Scope
  caseId : String
  staffId : String
  expectedCaseVersion : ℕ
  idempotencyKey : String
  deriving DecidableEq, Repr

structure ReassignHumanCaseInput where
  scope : Scope
  caseId : String
  assignedStaffId : String
  expectedCaseVersion : ℕ
  idempotencyKey : String
  deriving DecidableEq, Repr

structure DecideHumanCaseInput where
  scope : Scope
  caseId : String
  staffId : String
  decision : HumanDecision
  reasonCode : Option String
  note : Option String
  expectedCaseVersion : ℕ
  idempotencyKey : String
  deriving DecidableEq, Repr

def requireCase (caseId : String) : Work CaseRow := do
  required (← selectCase caseId) (.repository .caseNotFound)

def assertExpectedVersion (row : CaseRow) (expected : ℕ) : Work Unit :=
  throwIf (row.caseVersion ≠ expected) (.repository .staleCaseVersion)

def appendAudit (humanCase : CaseRow) (eventType : CaseEventType) (actorType : ActorType)
    (actorId : String) (details : List (String × String)) (occurredAt : ℤ) : Work Unit :=
  insertAudit {
    caseId := humanCase.caseId
    eventType
    occurredAt
    actorType
    actorId
    caseVersion := humanCase.caseVersion
    details }

/-- `none` for a request that is new under its key, else what is recorded of the first one. -/
def reserveIdempotency (key : IdempotencyKey) (fingerprint : String) :
    Work (Option IdempotencyRow) := do
  if ← insertIdempotency ⟨key, fingerprint, none⟩ then
    return none
  else
    let existing ← required (← selectIdempotency key) (.error "Idempotency record disappeared")
    throwIf (existing.requestFingerprint ≠ fingerprint) (.repository .idempotencyConflict)
    return some existing

def OpenHumanCaseInput.conflicts (input : OpenHumanCaseInput) (row : CaseRow) : Prop :=
  row.caseType ≠ input.caseType ∨ row.policyVersion ≠ input.policyVersion

instance (input : OpenHumanCaseInput) (row : CaseRow) : Decidable (input.conflicts row) :=
  inferInstanceAs (Decidable (_ ∨ _))

/-- The row that `open` inserts. -/
def OpenHumanCaseInput.row (input : OpenHumanCaseInput) (uuid : JS.Uuid) (now : ℤ) : CaseRow where
  caseId := "case-" ++ uuid.text
  tenantId := input.scope.tenantId
  environmentId := input.scope.environmentId
  workflowId := input.workflowId
  caseType := input.caseType
  status := .opened
  assignedStaffId := none
  caseVersion := 1
  reviewPacket := input.reviewPacket
  policyVersion := input.policyVersion
  createdAt := now
  updatedAt := now
  decidedAt := none

def openCase (input : OpenHumanCaseInput) (uuid : JS.Uuid) (now : ℤ) : Work CaseRow :=
  transaction do
    match ← selectCaseOf input.workflowId with
    | some current =>
      throwIf (input.conflicts current) (.repository .caseConflict)
      return current
    | none =>
      let created := input.row uuid now
      if ← insertCase created then
        appendAudit created .caseOpened .workflow input.workflowId
          [("case_type", input.caseType.text)] now
        return created
      else
        let currentCase ← required (← selectCaseOf input.workflowId)
          (.error "Opened human case disappeared")
        throwIf (input.conflicts currentCase) (.repository .caseConflict)
        return currentCase

/-- `UPDATE … RETURNING *`, a new version of the case. -/
def reviseCase (caseId : String) (now : ℤ) (change : CaseRow → CaseRow)
    (hid : ∀ row, (change row).caseId = row.caseId := by intro; rfl)
    (hw : ∀ row, (change row).workflowId = row.workflowId := by intro; rfl) : Work CaseRow := do
  updateCase caseId (fun row =>
    { change row with caseVersion := row.caseVersion + 1, updatedAt := now }) hid hw
  required (← selectCase caseId) (.error "Human case disappeared")

def closeCase (input : CloseHumanCaseInput) (now : ℤ) : Work CaseRow :=
  transaction do
    let current ← requireCase input.caseId
    throwIf (current.workflowId ≠ input.workflowId) (.repository .caseNotFound)
    if current.status = .closed then
      return current
    else
      let closed ← reviseCase input.caseId now fun row => { row with status := .closed }
      appendAudit closed .caseClosed .workflow input.workflowId
        (input.outcome.toList.map fun outcome => ("outcome", outcome.text)) now
      return closed

def getCase (caseId : String) : Work CaseRow := transaction (requireCase caseId)

def HumanCaseStatus.undecided (status : HumanCaseStatus) : Bool :=
  status ≠ .closed && status ≠ .decisionPending

def ClaimHumanCaseInput.fingerprint (input : ClaimHumanCaseInput) : String :=
  JS.Sha256.hex ("claim:" ++ toString input.expectedCaseVersion ++ ":" ++ input.staffId)

/-- Who works on a case. -/
def CaseRow.assign (row : CaseRow) (staffId : String) : CaseRow :=
  { row with status := .claimed, assignedStaffId := some staffId }

def claimCase (input : ClaimHumanCaseInput) (now : ℤ) : Work CaseRow :=
  transaction do
    match ← reserveIdempotency ⟨.claim, input.caseId, input.idempotencyKey⟩ input.fingerprint with
    | some _ => requireCase input.caseId
    | none =>
      let current ← requireCase input.caseId
      assertExpectedVersion current input.expectedCaseVersion
      throwIf (¬current.status.undecided ∨ current.assignedStaffId ≠ none ∧
        current.assignedStaffId ≠ some input.staffId) (.repository .caseConflict)
      if current.assignedStaffId = some input.staffId then
        return current
      else
        let claimed ← reviseCase input.caseId now (CaseRow.assign · input.staffId)
        appendAudit claimed .caseClaimed .human input.staffId [] now
        return claimed

def ReassignHumanCaseInput.fingerprint (input : ReassignHumanCaseInput) : String :=
  JS.Sha256.hex ("reassign:" ++ toString input.expectedCaseVersion ++ ":" ++ input.assignedStaffId)

def reassignCase (input : ReassignHumanCaseInput) (now : ℤ) : Work CaseRow :=
  transaction do
    match ← reserveIdempotency ⟨.reassign, input.caseId, input.idempotencyKey⟩
        input.fingerprint with
    | some _ => requireCase input.caseId
    | none =>
      let current ← requireCase input.caseId
      assertExpectedVersion current input.expectedCaseVersion
      throwIf (¬current.status.undecided) (.repository .caseConflict)
      let reassigned ← reviseCase input.caseId now (CaseRow.assign · input.assignedStaffId)
      appendAudit reassigned .caseClaimed .human input.assignedStaffId [("reassigned", "true")] now
      return reassigned

def DecideHumanCaseInput.fingerprint (input : DecideHumanCaseInput) : String :=
  JS.Sha256.hex ("decision:" ++ toString input.expectedCaseVersion ++ ":" ++ input.staffId ++ ":" ++
    input.decision.text ++ ":" ++ input.reasonCode.getD "" ++ ":" ++ input.note.getD "")

def DecideHumanCaseInput.key (input : DecideHumanCaseInput) : IdempotencyKey :=
  ⟨.decision, input.caseId, input.idempotencyKey⟩

/-- The row that `decide` inserts into the outbox. -/
def DecideHumanCaseInput.event (input : DecideHumanCaseInput) (decided : CaseRow) (uuid : JS.Uuid)
    (now : ℤ) : OutboxRow where
  eventId := "outbox-" ++ uuid.text
  caseId := decided.caseId
  workflowId := decided.workflowId
  tenantId := input.scope.tenantId
  environmentId := input.scope.environmentId
  decision := input.decision
  decidedBy := input.staffId
  decidedAt := now
  reasonCode := input.reasonCode
  note := input.note
  status := .pending
  createdAt := now

def decideCase (input : DecideHumanCaseInput) (uuid : JS.Uuid) (now : ℤ) :
    Work (CaseRow × OutboxRow) :=
  transaction do
    match ← reserveIdempotency input.key input.fingerprint with
    | some replay =>
      let eventId ← required replay.outboxEventId
        (.error "Decision idempotency result is missing outbox event")
      let event ← required (← selectOutbox eventId) (.error "Decision outbox event disappeared")
      return (← requireCase input.caseId, event)
    | none =>
      let current ← requireCase input.caseId
      assertExpectedVersion current input.expectedCaseVersion
      throwIf (current.status ≠ .claimed ∨ current.assignedStaffId ≠ some input.staffId ∨
        input.decision ∉ allowedActionsForCaseType current.caseType) (.repository .caseConflict)
      let decided ← reviseCase input.caseId now fun row =>
        { row with status := .decisionPending, decidedAt := some now }
      let event := input.event decided uuid now
      insertOutbox event
      updateIdempotency input.key event.eventId
      appendAudit decided .decisionRecorded .human input.staffId
        [("decision", input.decision.text)] now
      return (decided, event)

def isOutboxPending (eventId : String) : Work Bool :=
  transaction do
    return (← selectOutbox eventId).map OutboxRow.status = some .pending

/-- `ORDER BY created_at ASC LIMIT $1`. -/
def listPendingOutbox (limit : ℕ) : Work (List OutboxRow) :=
  transaction do
    let pending := (← get).outbox.rows.filter fun row => row.status = .pending
    return (pending.insertionSort fun a b => a.createdAt ≤ b.createdAt).take limit

def markOutboxDelivered (eventId : String) : Work Unit :=
  transaction (updateOutbox eventId)

end CSO.HumanOperations
