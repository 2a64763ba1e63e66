import CSO.HumanOperations.Machine
import CSO.JS.Map
import CSO.Transition.Doubles

/-! The repository of human cases that keeps them in memory, beside the Postgres repository. -/
namespace CSO.HumanOperations
open Transition (Double)

/-- A case as the repositories show it. -/
structure HumanCase extends CaseRow where
  allowedActions : List HumanDecision
  deriving DecidableEq, Repr

def toHumanCase (row : CaseRow) : HumanCase := ⟨row, allowedActionsForCaseType row.caseType⟩

structure HumanDecisionOutboxEvent where
  eventId : String
  caseId : String
  workflowId : String
  tenantId : String
  environmentId : String
  decision : HumanDecision
  decidedBy : String
  decidedAt : ℤ
  reasonCode : Option String
  note : Option String
  createdAt : ℤ
  deriving DecidableEq, Repr

def toOutboxEvent (row : OutboxRow) : HumanDecisionOutboxEvent where
  eventId := row.eventId
  caseId := row.caseId
  workflowId := row.workflowId
  tenantId := row.tenantId
  environmentId := row.environmentId
  decision := row.decision
  decidedBy := row.decidedBy
  decidedAt := row.decidedAt
  reasonCode := row.reasonCode
  note := row.note
  createdAt := row.createdAt

structure StoredIdempotency where
  fingerprint : String
  caseId : String
  outboxEvent : Option HumanDecisionOutboxEvent
  deriving DecidableEq, Repr

/-- `InMemoryHumanCaseRepository` -/
structure Memory where
  cases : JS.Map String HumanCase
  workflowIndex : JS.Map String String
  auditEvents : JS.Map String (List AuditRow)
  idempotency : JS.Map String StoredIdempotency
  outbox : JS.Map String HumanDecisionOutboxEvent

/-- `${tenantId}\u0000${environmentId}\u0000${workflowId}` -/
def workflowKey (scope : Scope) (workflowId : String) : String :=
  scope.tenantId ++ String.singleton (Char.ofNat 0) ++ scope.environmentId ++
    String.singleton (Char.ofNat 0) ++ workflowId

def HumanCase.InScope (humanCase : HumanCase) (scope : Scope) : Prop :=
  humanCase.tenantId = scope.tenantId ∧ humanCase.environmentId = scope.environmentId

instance (humanCase : HumanCase) (scope : Scope) : Decidable (humanCase.InScope scope) :=
  inferInstanceAs (Decidable (_ ∧ _))

def HumanDecisionOutboxEvent.InScope (event : HumanDecisionOutboxEvent) (scope : Scope) : Prop :=
  event.tenantId = scope.tenantId ∧ event.environmentId = scope.environmentId

instance (event : HumanDecisionOutboxEvent) (scope : Scope) : Decidable (event.InScope scope) :=
  inferInstanceAs (Decidable (_ ∧ _))

namespace Memory

def empty : Memory := ⟨.empty, .empty, .empty, .empty, .empty⟩

def requireCase (memory : Memory) (caseId : String) (scope : Scope) : Except Failure HumanCase :=
  match memory.cases.get? caseId with
  | some humanCase =>
    if humanCase.InScope scope then .ok humanCase else .error (.repository .caseNotFound)
  | none => .error (.repository .caseNotFound)

def assertVersion (humanCase : HumanCase) (expected : ℕ) : Except Failure Unit :=
  if humanCase.caseVersion ≠ expected then .error (.repository .staleCaseVersion) else .ok ()

/-- `#update` of a case that `change` has patched. -/
def update (memory : Memory) (current : HumanCase) (now : ℤ) (change : CaseRow → CaseRow) :
    HumanCase × Memory :=
  let next : HumanCase :=
    { current with
      toCaseRow :=
        { change current.toCaseRow with caseVersion := current.caseVersion + 1, updatedAt := now } }
  (next, { memory with cases := memory.cases.set next.caseId next })

def appendAudit (memory : Memory) (humanCase : HumanCase) (eventType : CaseEventType)
    (actorType : ActorType) (actorId : String) (details : List (String × String)) (now : ℤ) :
    Memory :=
  let events := (memory.auditEvents.get? humanCase.caseId).getD []
  let event : AuditRow :=
    { caseId := humanCase.caseId
      eventType
      occurredAt := now
      actorType
      actorId
      caseVersion := humanCase.caseVersion
      details }
  { memory with auditEvents := memory.auditEvents.set humanCase.caseId (events ++ [event]) }

/-- `none` for a key that is new. -/
def replay (memory : Memory) (idempotencyKey fingerprint : String) :
    Except Failure (Option StoredIdempotency) :=
  match memory.idempotency.get? idempotencyKey with
  | none => .ok none
  | some existing =>
    if existing.fingerprint ≠ fingerprint then .error (.repository .idempotencyConflict)
    else .ok (some existing)

def remember (memory : Memory) (idempotencyKey : String) (value : StoredIdempotency) : Memory :=
  { memory with idempotency := memory.idempotency.set idempotencyKey value }

def openCase (memory : Memory) (input : OpenHumanCaseInput) (uuid : JS.Uuid) (now : ℤ) :
    Except Failure (HumanCase × Memory) :=
  let key := workflowKey input.scope input.workflowId
  match memory.workflowIndex.get? key with
  | some existingCaseId =>
    match memory.cases.get? existingCaseId with
    | none => .error (.error "HUMAN_CASE_INDEX_INVARIANT")
    | some existing =>
      if existing.caseType ≠ input.caseType ∨ existing.policyVersion ≠ input.policyVersion then
        .error (.repository .caseConflict)
      else .ok (existing, memory)
  | none =>
    let humanCase := toHumanCase (input.row uuid now)
    let opened : Memory :=
      { memory with
        cases := memory.cases.set humanCase.caseId humanCase
        workflowIndex := memory.workflowIndex.set key humanCase.caseId }
    .ok (humanCase, opened.appendAudit humanCase .caseOpened .workflow input.workflowId
      [("case_type", input.caseType.text)] now)

def closeCase (memory : Memory) (input : CloseHumanCaseInput) (now : ℤ) :
    Except Failure (HumanCase × Memory) := do
  let current ← memory.requireCase input.caseId input.scope
  if current.workflowId ≠ input.workflowId then .error (.repository .caseNotFound)
  else if current.status = .closed then .ok (current, memory)
  else
    let (closed, memory) := memory.update current now fun row => { row with status := .closed }
    .ok (closed, memory.appendAudit closed .caseClosed .workflow input.workflowId
      (input.outcome.toList.map fun outcome => ("outcome", outcome.text)) now)

/-- What is hashed where the database keeps the fingerprint. -/
def claimFingerprint (input : ClaimHumanCaseInput) : String :=
  "claim:" ++ toString input.expectedCaseVersion ++ ":" ++ input.staffId

def claimCase (memory : Memory) (input : ClaimHumanCaseInput) (now : ℤ) :
    Except Failure (HumanCase × Memory) := do
  let fingerprint := claimFingerprint input
  match ← memory.replay input.idempotencyKey fingerprint with
  | some replay =>
    let humanCase ← memory.requireCase replay.caseId input.scope
    .ok (humanCase, memory)
  | none =>
    let current ← memory.requireCase input.caseId input.scope
    assertVersion current input.expectedCaseVersion
    if current.status = .closed ∨ current.status = .decisionPending then
      .error (.repository .caseConflict)
    else if current.assignedStaffId ≠ none ∧ current.assignedStaffId ≠ some input.staffId then
      .error (.repository .caseConflict)
    else if current.assignedStaffId = some input.staffId then
      .ok (current, memory.remember input.idempotencyKey ⟨fingerprint, current.caseId, none⟩)
    else
      let (claimed, memory) := memory.update current now (CaseRow.assign · input.staffId)
      let memory := memory.appendAudit claimed .caseClaimed .human input.staffId [] now
      .ok (claimed, memory.remember input.idempotencyKey ⟨fingerprint, claimed.caseId, none⟩)

def reassignFingerprint (input : ReassignHumanCaseInput) : String :=
  "reassign:" ++ toString input.expectedCaseVersion ++ ":" ++ input.assignedStaffId

def reassignCase (memory : Memory) (input : ReassignHumanCaseInput) (now : ℤ) :
    Except Failure (HumanCase × Memory) := do
  let fingerprint := reassignFingerprint input
  match ← memory.replay input.idempotencyKey fingerprint with
  | some replay =>
    let humanCase ← memory.requireCase replay.caseId input.scope
    .ok (humanCase, memory)
  | none =>
    let current ← memory.requireCase input.caseId input.scope
    assertVersion current input.expectedCaseVersion
    if current.status = .closed ∨ current.status = .decisionPending then
      .error (.repository .caseConflict)
    else
      let (reassigned, memory) := memory.update current now (CaseRow.assign · input.assignedStaffId)
      let memory := memory.appendAudit reassigned .caseClaimed .human input.assignedStaffId
        [("reassigned", "true")] now
      .ok (reassigned, memory.remember input.idempotencyKey ⟨fingerprint, reassigned.caseId, none⟩)

def decisionFingerprint (input : DecideHumanCaseInput) : String :=
  "decision:" ++ toString input.expectedCaseVersion ++ ":" ++ input.staffId ++ ":" ++
    input.decision.text ++ ":" ++ input.reasonCode.getD "" ++ ":" ++ input.note.getD ""

/-- The event of a decision on the case as it was changed. -/
def decisionEvent (input : DecideHumanCaseInput) (next : HumanCase) (uuid : JS.Uuid) (now : ℤ) :
    HumanDecisionOutboxEvent where
  eventId := "outbox-" ++ uuid.text
  caseId := next.caseId
  workflowId := next.workflowId
  tenantId := next.tenantId
  environmentId := next.environmentId
  decision := input.decision
  decidedBy := input.staffId
  decidedAt := now
  reasonCode := input.reasonCode
  note := input.note
  createdAt := now

/-- `decide` for a key under which no event is kept. -/
def decideNew (memory : Memory) (input : DecideHumanCaseInput) (uuid : JS.Uuid) (now : ℤ) :
    Except Failure ((HumanCase × HumanDecisionOutboxEvent) × Memory) := do
  let current ← memory.requireCase input.caseId input.scope
  assertVersion current input.expectedCaseVersion
  if current.status ≠ .claimed ∨ current.assignedStaffId ≠ some input.staffId ∨
      input.decision ∉ current.allowedActions then
    .error (.repository .caseConflict)
  else
    let (next, memory) := memory.update current now fun row =>
      { row with status := .decisionPending, decidedAt := some now }
    let event := decisionEvent input next uuid now
    let memory := { memory with outbox := memory.outbox.set event.eventId event }
    let memory := memory.appendAudit next .decisionRecorded .human input.staffId
      [("decision", input.decision.text)] now
    .ok ((next, event), memory.remember input.idempotencyKey
      ⟨decisionFingerprint input, next.caseId, some event⟩)

def decideCase (memory : Memory) (input : DecideHumanCaseInput) (uuid : JS.Uuid) (now : ℤ) :
    Except Failure ((HumanCase × HumanDecisionOutboxEvent) × Memory) := do
  match ← memory.replay input.idempotencyKey (decisionFingerprint input) with
  | some ⟨_, caseId, some event⟩ =>
    let humanCase ← memory.requireCase caseId input.scope
    .ok ((humanCase, event), memory)
  | _ => memory.decideNew input uuid now

def markOutboxDelivered (memory : Memory) (scope : Scope) (eventId : String) : Memory :=
  match memory.outbox.get? eventId with
  | some event =>
    if event.InScope scope then { memory with outbox := memory.outbox.delete eventId } else memory
  | none => memory

/-- The events of a scope, oldest first. -/
def listPendingOutbox (memory : Memory) (scope : Scope) (limit : ℕ) :
    List HumanDecisionOutboxEvent :=
  ((memory.outbox.values.filter (·.InScope scope)).insertionSort fun left right =>
    left.createdAt ≤ right.createdAt).take limit

end Memory

/-- An operation of either repository with its input, and the identifier it draws. -/
inductive CaseCall
  | openCase (input : OpenHumanCaseInput) (uuid : JS.Uuid)
  | closeCase (input : CloseHumanCaseInput)
  | claimCase (input : ClaimHumanCaseInput)
  | reassignCase (input : ReassignHumanCaseInput)
  | decideCase (input : DecideHumanCaseInput) (uuid : JS.Uuid)
  | listPendingOutbox (scope : Scope) (limit : ℕ)
  | markOutboxDelivered (scope : Scope) (eventId : String)

inductive CaseAnswer
  | case (humanCase : HumanCase)
  | decision (humanCase : HumanCase) (event : HumanDecisionOutboxEvent)
  | events (events : List HumanDecisionOutboxEvent)
  | done
  deriving DecidableEq, Repr

namespace CaseCall

def scope : CaseCall → Scope
  | openCase input _ => input.scope
  | closeCase input => input.scope
  | claimCase input => input.scope
  | reassignCase input => input.scope
  | decideCase input _ => input.scope
  | listPendingOutbox scope _ => scope
  | markOutboxDelivered scope _ => scope

def postgres (now : ℤ) : CaseCall → Work CaseAnswer
  | openCase input uuid => return .case (toHumanCase (← HumanOperations.openCase input uuid now))
  | closeCase input => return .case (toHumanCase (← HumanOperations.closeCase input now))
  | claimCase input => return .case (toHumanCase (← HumanOperations.claimCase input now))
  | reassignCase input => return .case (toHumanCase (← HumanOperations.reassignCase input now))
  | decideCase input uuid => do
    let (row, event) ← HumanOperations.decideCase input uuid now
    return .decision (toHumanCase row) (toOutboxEvent event)
  | listPendingOutbox _ limit =>
    return .events ((← HumanOperations.listPendingOutbox limit).map toOutboxEvent)
  | markOutboxDelivered _ eventId => do
    HumanOperations.markOutboxDelivered eventId
    return .done

def memory (now : ℤ) (memory : Memory) : CaseCall → Except Failure (CaseAnswer × Memory)
  | openCase input uuid => do
    let (humanCase, after) ← memory.openCase input uuid now
    return (.case humanCase, after)
  | closeCase input => do
    let (humanCase, after) ← memory.closeCase input now
    return (.case humanCase, after)
  | claimCase input => do
    let (humanCase, after) ← memory.claimCase input now
    return (.case humanCase, after)
  | reassignCase input => do
    let (humanCase, after) ← memory.reassignCase input now
    return (.case humanCase, after)
  | decideCase input uuid => do
    let ((humanCase, event), after) ← memory.decideCase input uuid now
    return (.decision humanCase event, after)
  | listPendingOutbox scope limit => return (.events (memory.listPendingOutbox scope limit), memory)
  | markOutboxDelivered scope eventId => return (.done, memory.markOutboxDelivered scope eventId)

end CaseCall

/-- A call, and what the clock shows at it. -/
structure TimedCall where
  call : CaseCall
  now : ℤ

/-- Both repositories, called in the same way. Where a call throws, the memory is as it was. -/
def repositories : Double Memory Database TimedCall (Except Failure CaseAnswer) where
  memory e memory :=
    match e.call.memory e.now memory with
    | .ok (answer, after) => (.ok answer, after)
    | .error failure => (.error failure, memory)
  database e db :=
    match (e.call.postgres e.now).run (db e.call.scope) with
    | .ok answer after => (.ok answer, Function.update db e.call.scope after)
    | .error failure after => (.error failure, Function.update db e.call.scope after)

end CSO.HumanOperations
