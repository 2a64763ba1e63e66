import CSO.HumanOperations.Lifecycle

/-! The routes that send decisions to workflows, and the dispatcher of the outbox. What one of them
does from one await to the next is a step, and the steps of all of them interleave. -/
namespace CSO.HumanOperations
open Transition (Machine)

def HumanAccess.scope (access : HumanAccess) : Scope := ⟨access.tenantId, access.environmentId⟩

def hasCaseRole (access : HumanAccess) (humanCase : CaseRow) : Bool :=
  match humanCase.caseType with
  | .refundEvidenceReview => access.role = .refundApprover ∨ access.role = .refundSupervisor
  | .refundApproval => access.role = .refundApprover
  | .refundTakeover => access.role = .refundSupervisor

def allowedActionsForHuman (access : HumanAccess) (humanCase : CaseRow) : List HumanDecision :=
  if humanCase.caseType = .refundEvidenceReview then []
  else if humanCase.status ≠ .claimed ∨ humanCase.assignedStaffId ≠ some access.staffId ∨
      ¬hasCaseRole access humanCase then []
  else if humanCase.caseType = .refundApproval then [.approve, .reject]
  else [.approveExceptionalRefund, .resolveTakeover, .reject]

/-- A pending case is open to a retry of its decision only. -/
def canRetryPendingDecision (access : HumanAccess) (humanCase : CaseRow) (decision : HumanDecision) :
    Bool :=
  humanCase.status = .decisionPending && humanCase.assignedStaffId = some access.staffId &&
    hasCaseRole access humanCase && decision ∈ allowedActionsForCaseType humanCase.caseType

def canSubmitDecision (access : HumanAccess) (humanCase : CaseRow) (decision : HumanDecision) :
    Bool :=
  decision ∈ allowedActionsForHuman access humanCase ||
    canRetryPendingDecision access humanCase decision

/-- A request to the route of governed decisions. -/
structure DecisionRequest where
  access : HumanAccess
  caseId : String
  decision : HumanDecision
  reasonCode : Option String
  note : Option String
  expectedCaseVersion : ℕ
  idempotencyKey : String
  deriving DecidableEq, Repr

def DecisionRequest.input (request : DecisionRequest) : DecideHumanCaseInput where
  scope := request.access.scope
  caseId := request.caseId
  staffId := request.access.staffId
  decision := request.decision
  reasonCode := request.reasonCode
  note := request.note
  expectedCaseVersion := request.expectedCaseVersion
  idempotencyKey := request.idempotencyKey

/-- A `refund.human-decision` signal, and whether the compatibility route sends it. -/
structure Signal where
  compatibility : Bool
  scope : Scope
  workflowId : String
  staffId : String
  decision : HumanDecision
  reasonCode : Option String
  deriving DecidableEq, Repr

def OutboxRow.scope (event : OutboxRow) : Scope := ⟨event.tenantId, event.environmentId⟩

def OutboxRow.signal (event : OutboxRow) : Signal where
  compatibility := false
  scope := event.scope
  workflowId := event.workflowId
  staffId := event.decidedBy
  decision := event.decision
  reasonCode := event.reasonCode

/-- A request to the deprecated route, which names a workflow. -/
structure CompatibilityRequest where
  access : HumanAccess
  workflowId : String
  decision : HumanDecision
  reasonCode : Option String
  deriving DecidableEq, Repr

def CompatibilityRequest.signal (request : CompatibilityRequest) : Signal where
  compatibility := true
  scope := request.access.scope
  workflowId := request.workflowId
  staffId := request.access.staffId
  decision := request.decision
  reasonCode := request.reasonCode

/-- What a route or the dispatcher still has to do. -/
inductive Task
  | deciding (request : DecisionRequest)
  | decided (scope : Scope) (event : OutboxRow)
  | delivering (events : List OutboxRow)
  | marking (event : OutboxRow) (rest : List OutboxRow)
  | forwarding (request : CompatibilityRequest)
  deriving DecidableEq, Repr

/-- A decision that the repository recorded: its request, the case as it was then and the event. -/
structure Made where
  request : DecisionRequest
  case : CaseRow
  event : OutboxRow
  deriving DecidableEq, Repr

/-- The database, what is in flight, and a record of what was decided and sent. -/
structure Service where
  db : Database
  tasks : List Task
  made : List Made
  signals : List Signal

/-- A signal can arrive although its sender sees an error. -/
inductive Outcome
  | delivered
  | lost
  | refused
  deriving DecidableEq, Repr

inductive Action
  | operation (e : Event)
  | decision (request : DecisionRequest)
  | compatibility (request : CompatibilityRequest)
  | dispatch (scope : Scope)
  | proceed (index : ℕ) (uuid : JS.Uuid) (now : ℤ) (outcome : Outcome)
  | abandon (index : ℕ)

/-- The number of events in a round of the dispatcher. -/
def dispatchLimit : ℕ := 50

namespace Service
variable (s : Service)

def await (task : Task) : Service := { s with tasks := s.tasks ++ [task] }

def send (signal : Signal) : Outcome → Service
  | .refused => s
  | _ => { s with signals := s.signals ++ [signal] }

/-- The record of a decision that is not a replay. -/
def newlyMade (request : DecisionRequest) (event : OutboxRow) : List Made :=
  let t := s.db request.access.scope
  if (t.outbox.find? event.eventId).isSome then []
  else (t.cases.find? request.caseId).toList.map fun humanCase => ⟨request, humanCase, event⟩

def submit (request : DecisionRequest) (uuid : JS.Uuid) (now : ℤ) :
    Option (Service × Option Task) :=
  (database.step s.db ⟨.decideCase request.input uuid, now⟩).map fun db =>
    match (decideCase request.input uuid now).run (s.db request.access.scope) with
    | .ok result _ => ({ s with db, made := s.made ++ s.newlyMade request result.2 },
        some (.decided request.access.scope result.2))
    | .error _ _ => ({ s with db }, none)

/-- The next step of a task, and what is left of it. -/
def advance (uuid : JS.Uuid) (now : ℤ) (outcome : Outcome) : Task → Option (Service × Option Task)
  | .deciding request => s.submit request uuid now
  | .decided scope event =>
    match (isOutboxPending event.eventId).run (s.db scope) with
    | .ok true _ => some (s, some (.delivering [event]))
    | _ => some (s, none)
  | .delivering [] => some (s, none)
  | .delivering (event :: rest) =>
    some (s.send event.signal outcome,
      some (if outcome = .delivered then .marking event rest else .delivering rest))
  | .marking event rest =>
    if outcome = .delivered then
      (database.step s.db ⟨.markOutboxDelivered event.scope event.eventId, now⟩).map fun db =>
        ({ s with db }, some (.delivering rest))
    else some (s, some (.delivering rest))
  | .forwarding request => some (s.send request.signal outcome, none)

/-- `evidence` is whether the service is configured to collect evidence. -/
def step (evidence : Bool) : Action → Option Service
  | .operation e =>
    if e.operation.deed = .deciding then none
    else (database.step s.db e).map fun db => { s with db }
  | .decision request =>
    match (getCase request.caseId).run (s.db request.access.scope) with
    | .ok current _ =>
      if canSubmitDecision request.access current request.decision then
        some (s.await (.deciding request))
      else some s
    | .error _ _ => some s
  | .compatibility request =>
    if evidence then
      match (getEvidence { request.access.scope with subjectCustomerId := none }
          request.workflowId).run (s.db request.access.scope) with
      | .error (.evidence code) _ =>
        if code.status = 404 then some (s.await (.forwarding request)) else some s
      | _ => some s
    else some (s.await (.forwarding request))
  | .dispatch scope =>
    match (listPendingOutbox dispatchLimit).run (s.db scope) with
    | .ok events _ => some (s.await (.delivering events))
    | .error _ _ => some s
  | .proceed index uuid now outcome =>
    s.tasks[index]?.bind fun task => (s.advance uuid now outcome task).map fun (s', next) =>
      match next with
      | some task => { s' with tasks := s'.tasks.set index task }
      | none => { s' with tasks := s'.tasks.eraseIdx index }
  | .abandon index => some { s with tasks := s.tasks.eraseIdx index }

def empty : Service := ⟨fun _ => .empty, [], [], []⟩

end Service

def service (evidence : Bool) : Machine Service Action where
  step s a := s.step evidence a

/-- A signal is governed by a recorded decision: of its workflow's case, by the assignee of the
claimed case, in the role that the case type requires and with an action that it allows. -/
structure Made.Governs (m : Made) (signal : Signal) : Prop where
  scope : m.request.access.scope = signal.scope
  staff : m.request.access.staffId = signal.staffId
  decision : m.request.decision = signal.decision
  workflow : m.case.workflowId = signal.workflowId
  claimed : m.case.status = .claimed
  assigned : m.case.assignedStaffId = some signal.staffId
  approver : m.case.caseType = .refundApproval → m.request.access.role = .refundApprover
  supervisor : m.case.caseType = .refundTakeover → m.request.access.role = .refundSupervisor
  allowed : signal.decision ∈ allowedActionsForCaseType m.case.caseType

/-- The one audit event of a recorded decision. -/
def Made.Audited (m : Made) (t : Tables) : Prop :=
  ∃ audit, (t.audit.filter fun event =>
      event.caseId = m.case.caseId ∧ event.eventType = .decisionRecorded) = [audit] ∧
    audit.actorType = .human ∧ audit.actorId = m.request.access.staffId ∧
    audit.caseVersion = m.case.caseVersion + 1 ∧
    audit.details = [("decision", m.request.decision.text)]

def Service.Governed (s : Service) (signal : Signal) : Prop :=
  ∃ m ∈ s.made, m.Governs signal ∧ m.Audited (s.db signal.scope)

end CSO.HumanOperations
