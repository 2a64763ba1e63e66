import CSO.Gateway.Routes
import CSO.Transition.Machine
import Mathlib.Logic.Function.Basic

/-! The gateway as concurrent requests over one store. A step takes a request from one await to
the next; any two requests interleave, and a request can crash at every await. -/
namespace CSO.Gateway
open Transition (Table Machine)

/-- A verified and parsed execution request. -/
structure ExecutionCall where
  access : OrderAccessContext
  request : RefundExecutionRequest
  deriving DecidableEq, Repr

def ExecutionCall.key (call : ExecutionCall) : ExecutionKey :=
  ⟨call.access.tenantId, call.access.environmentId, call.request.idempotencyKey⟩

structure ReconciliationCall where
  access : OrderAccessContext
  request : RefundReconciliationRequest
  deriving DecidableEq, Repr

/-- The await a request is suspended at, with the local values it still needs. -/
inductive Process
  | idle
  | readingOrder (call : ExecutionCall)
  | reserving (call : ExecutionCall) (payment : CommercePayment)
  | submitting (call : ExecutionCall) (payment : CommercePayment) (executionId : String)
  | awaitingProvider (call : ExecutionCall) (executionId : String)
  | recording (executionId : String) (response : ExecutionResult)
  | escalating (executionId : String)
  | answered (reply : Reply ExecutionResult)
  | readingRefunds (call : ReconciliationCall)
  | finding (call : ReconciliationCall) (refund : CommerceRefund)
  | settling (refund : CommerceRefund) (executionId : String) (status : RefundExecutionStatus)
  | reported (reply : Reply ReconciliationResult)
  | crashed
  deriving DecidableEq, Repr

/-- A call of `commerceProvider.executeRefund`. -/
structure ProviderCall where
  executionId : String
  call : ExecutionCall
  input : ProviderRefundInput
  deriving DecidableEq, Repr

def ProviderCall.key (c : ProviderCall) : ExecutionKey := c.call.key

structure State where
  store : Store
  processes : ℕ → Process
  calls : List ProviderCall

/-- How a transaction ends for its caller. It can fail after its commit. -/
inductive Commit
  | acknowledged
  | lost
  | aborted
  deriving DecidableEq, Repr

/-- The value the caller sees, if any, and the store that is left. -/
def Commit.end {α : Type} (store : Store) (result : Option (α × Store)) :
    Commit → Option α × Store
  | .acknowledged => (result.map Prod.fst, (result.map Prod.snd).getD store)
  | .lost => (none, (result.map Prod.snd).getD store)
  | .aborted => (none, store)

/-- `read` is `none` where the provider's client throws, and `some none` for no order. -/
inductive Event
  | receiveExecution (i : ℕ) (configured : Bool) (access : Option OrderAccessContext)
      (body : Option RefundExecutionRequest)
  | readOrder (i : ℕ) (read : Option (Option CommerceOrder)) (observedAt : String)
  | reserve (i : ℕ) (executionId : String) (now : ℤ) (commit : Commit)
  | callProvider (i : ℕ)
  | providerAnswers (i : ℕ) (result : Option ProviderRefundResult)
  | record (i : ℕ) (now : ℤ) (commit : Commit)
  | receiveReconciliation (i : ℕ) (access : Option OrderAccessContext)
      (body : Option RefundReconciliationRequest)
  | readRefunds (i : ℕ) (read : Option (Option CommerceOrder))
  | findExecution (i : ℕ) (answers : Bool)
  | crash (i : ℕ)
  | providerEvent (input : RecordProviderRefundEventInput) (now : ℤ) (commit : Commit)
  | markDelivered (eventId : String)

def afterExecutionReceived
    (admitted : Except (Reply ExecutionResult) (OrderAccessContext × RefundExecutionRequest)) :
    Process :=
  match admitted with
  | .error reply => .answered reply
  | .ok (access, request) => .readingOrder ⟨access, request⟩

def afterOrderRead (call : ExecutionCall) (observedAt : String) :
    Option (Option CommerceOrder) → Process
  | none => .answered .thrown
  | some order =>
    match checkRefundOrder call.access call.request order observedAt with
    | .error reply => .answered reply
    | .ok payment => .reserving call payment

def afterReserve (call : ExecutionCall) (payment : CommercePayment) :
    Option Reservation → Process
  | none => .answered .thrown
  | some (.reserved executionId) => .submitting call payment executionId
  | some (.existing execution) => .answered (.sent 200 (existingResponse execution))

/-- A provider that throws leaves the outcome to the catch path. -/
def afterProvider (executionId : String) : Option ProviderRefundResult → Process
  | none => .escalating executionId
  | some result => .recording executionId (providerResponse result)

/-- What a request is about to record: the execution, its status and the refund. -/
def Process.write : Process → Option (String × RefundExecutionStatus × Option String)
  | .recording executionId response =>
      some (executionId, response.status.recorded, response.providerRefundId)
  | .escalating executionId => some (executionId, .pendingReconciliation, none)
  | .settling refund executionId status => some (executionId, status, some refund.id)
  | _ => none

/-- A result that could not be recorded is escalated by the `catch` of the execution route. -/
def afterRecord (process : Process) (recorded : Bool) : Process :=
  match process, recorded with
  | .recording _ response, true => .answered (.sent 200 response)
  | .recording executionId _, false => .escalating executionId
  | .escalating _, true => .answered (.sent 200 .pending)
  | .escalating _, false => .answered .thrown
  | .settling refund _ _, true => .reported (.sent 200 (reconciliationResponse refund))
  | .settling _ _ _, false => .reported .thrown
  | process, _ => process

def afterReconciliationReceived (admitted : Except (Reply ReconciliationResult)
    (OrderAccessContext × RefundReconciliationRequest)) : Process :=
  match admitted with
  | .error reply => .reported reply
  | .ok (access, request) => .readingRefunds ⟨access, request⟩

def afterRefundsRead (call : ReconciliationCall) : Option (Option CommerceOrder) → Process
  | none => .reported .thrown
  | some order =>
    match checkReconciliationOrder call.access call.request order with
    | .error reply => .reported reply
    | .ok refund => .finding call refund

def afterFind (refund : CommerceRefund) (execution : Option RefundExecution) : Process :=
  match execution with
  | none => .reported (.sent 200 (reconciliationResponse refund))
  | some execution =>
    match reconciliationOutcome refund execution with
    | some status => .settling refund execution.executionId status
    | none => .reported (.sent 200 (reconciliationResponse refund))

namespace State

def set (s : State) (i : ℕ) (process : Process) : State :=
  { s with processes := Function.update s.processes i process }

@[simp] theorem set_store (s : State) (i : ℕ) (p : Process) : (s.set i p).store = s.store := rfl

@[simp] theorem set_calls (s : State) (i : ℕ) (p : Process) : (s.set i p).calls = s.calls := rfl

@[simp] theorem set_processes_self (s : State) (i : ℕ) (p : Process) :
    (s.set i p).processes i = p := Function.update_self ..

theorem set_processes_of_ne (s : State) {i j : ℕ} (p : Process) (h : j ≠ i) :
    (s.set i p).processes j = s.processes j := Function.update_of_ne h ..

/-- The execution the store has for the workflow and the preview of a reconciliation. -/
def found (s : State) (call : ReconciliationCall) : Option RefundExecution :=
  s.store.findByWorkflowAndPreview call.access.tenantId call.access.environmentId
    call.access.contextId call.request.previewId

def step (s : State) : Event → Option State
  | .receiveExecution i configured access body =>
    match s.processes i with
    | .idle => some (s.set i (afterExecutionReceived (admitRefundExecution configured access body)))
    | _ => none
  | .readOrder i read observedAt =>
    match s.processes i with
    | .readingOrder call => some (s.set i (afterOrderRead call observedAt read))
    | _ => none
  | .reserve i executionId now commit =>
    match s.processes i with
    | .reserving call payment =>
      let (reservation, store) := commit.end s.store
        (s.store.reserve executionId (reserveInput call.access call.request now))
      some { s.set i (afterReserve call payment reservation) with store := store }
    | _ => none
  | .callProvider i =>
    match s.processes i with
    | .submitting call payment executionId =>
      some { s.set i (.awaitingProvider call executionId) with
        calls := ⟨executionId, call, providerInput call.request payment⟩ :: s.calls }
    | _ => none
  | .providerAnswers i result =>
    match s.processes i with
    | .awaitingProvider _ executionId => some (s.set i (afterProvider executionId result))
    | _ => none
  | .record i now commit =>
    match (s.processes i).write with
    | some (executionId, status, providerRefundId) =>
      let (recorded, store) := commit.end s.store
        (s.store.recordOutcome executionId status providerRefundId now)
      some { s.set i (afterRecord (s.processes i) recorded.isSome) with store := store }
    | none => none
  | .receiveReconciliation i access body =>
    match s.processes i with
    | .idle => some (s.set i (afterReconciliationReceived (admitRefundReconciliation access body)))
    | _ => none
  | .readRefunds i read =>
    match s.processes i with
    | .readingRefunds call => some (s.set i (afterRefundsRead call read))
    | _ => none
  | .findExecution i answers =>
    match s.processes i with
    | .finding call refund =>
      some (s.set i (if answers then afterFind refund (s.found call) else .reported .thrown))
    | _ => none
  | .crash i => some (s.set i .crashed)
  | .providerEvent input now commit =>
    some { s with
      store := (commit.end s.store (some (s.store.recordProviderRefundEvent input now))).2 }
  | .markDelivered eventId =>
    some { s with store := s.store.markProviderRefundEventDelivered eventId }

def initial : State := ⟨Store.empty, fun _ => .idle, []⟩

end State

/-- Requests arrive, move from await to await and crash in any order. -/
def machine : Machine State Event := ⟨State.step⟩

/-- A gateway that starts serving over any store, before it has called the provider. -/
def Starting (s : State) : Prop := (∀ i, s.processes i = .idle) ∧ s.calls = []

end CSO.Gateway
