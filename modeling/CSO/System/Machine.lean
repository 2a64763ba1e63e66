import CSO.Gateway.Machine
import CSO.Workers.Workflow

/-! The gateway and one refund workflow. The workflow calls the gateway through the activities
of its worker, and the server of the gateway signals provider events to the workflow. The
requests of other workflows are gateway events like any other. -/
namespace CSO.System
open Transition (Machine Refinement)
open Workers
open Gateway (Commit PendingProviderRefundEvent ProviderRefundOutcome)

/-- Where `dispatchPendingProviderEvents` is suspended, with the events it still has. -/
inductive Dispatcher
  | idle
  | signalling (event : PendingProviderRefundEvent) (rest : List PendingProviderRefundEvent)
  | marking (event : PendingProviderRefundEvent) (rest : List PendingProviderRefundEvent)
  deriving DecidableEq, Repr

/-- The head of its loop over the events. -/
def Dispatcher.next : List PendingProviderRefundEvent → Dispatcher
  | [] => .idle
  | event :: rest => .signalling event rest

/-- The events of the batch that are not done with. -/
def Dispatcher.events : Dispatcher → List PendingProviderRefundEvent
  | .idle => []
  | .signalling event rest | .marking event rest => event :: rest

/-- `request` is the gateway request of the activity attempt in progress. -/
structure State where
  gateway : Gateway.State
  dispatcher : Dispatcher
  run : Run
  request : Option ℕ

def providerOutcome : ProviderRefundOutcome → ProviderOutcome
  | .completed => .completed
  | .failed => .failed

/-- What `signalProviderRefundOutcome` sends. -/
def outcomeOf (event : PendingProviderRefundEvent) : RefundProviderOutcome where
  eventId := event.eventId
  providerRefundId := event.providerRefundId
  outcome := providerOutcome event.outcome
  occurredAt := event.occurredAt

/-- The call of the gateway that an activity of the run makes. -/
inductive GatewayCall
  | execution (input : ExecuteRefundInput)
  | reconciliation (input : ExecuteRefundInput)
  deriving DecidableEq, Repr

def gatewayCall (run : Run) : Option GatewayCall :=
  match run.control with
  | .executing offer => some (.execution (run.refundInput offer.preview))
  | .reconcilingProcessing _ preview | .reconcilingPending _ preview _ =>
    some (.reconciliation (run.refundInput preview))
  | _ => none

/-- The request that the call sends, with an assertion that the gateway may find expired. -/
def GatewayCall.receive (call : GatewayCall) (i : ℕ) (configured verified : Bool) :
    Gateway.Event :=
  match call with
  | .execution input =>
    .receiveExecution i configured (if verified then some input.assertion else none)
      (some input.executionRequest)
  | .reconciliation input =>
    .receiveReconciliation i (if verified then some input.assertion else none)
      (some input.reconciliationRequest)

/-- What the client makes of the answer of a request, once there is one. -/
def GatewayCall.answer (call : GatewayCall) (process : Gateway.Process) : Option ActivityResult :=
  match call, process with
  | .execution _, .answered reply => (executeRefund (received reply)).map .execution
  | .reconciliation _, .reported reply => (reconcileRefund (received reply)).map .reconciliation
  | _, _ => none

/-- What the client makes of a network error or a timeout. -/
def GatewayCall.lost : GatewayCall → Option ActivityResult
  | .execution _ => (executeRefund .rejected).map .execution
  | .reconciliation _ => (reconcileRefund .rejected).map .reconciliation

/-- The workflow is driven by the gateway where it awaits a call or a provider event. -/
def driven : RunEvent → Bool
  | .signal (.recordProviderRefundOutcome _) | .complete (.execution _) |
    .complete (.reconciliation _) => true
  | _ => false

/-- Only the dispatcher marks events. -/
def dispatched : Gateway.Event → Bool
  | .markDelivered _ => true
  | _ => false

inductive Event
  | workflow (e : RunEvent)
  | gateway (e : Gateway.Event)
  | send (i : ℕ) (configured verified : Bool)
  | answer
  | lose
  | list
  | deliver (commit : Commit)
  | mark (commit : Commit)
  | restart

namespace State

/-- The result of the activity in progress when the gateway has answered its request. -/
def answered (s : State) : Option ActivityResult :=
  (gatewayCall s.run).bind fun call =>
    s.request.bind fun i => call.answer (s.gateway.processes i)

/-- Its result when no answer reaches the client. -/
def lost (s : State) : Option ActivityResult := (gatewayCall s.run).bind GatewayCall.lost

def complete (s : State) (result : ActivityResult) : Option State :=
  (s.run.step (.complete result)).map fun run => { s with run, request := none }

/-- The signal reaches the workflow of the event, if it is this one. -/
def signalled (s : State) (event : PendingProviderRefundEvent) : Option Run :=
  if event.workflowId = s.run.workflowId then
    s.run.step (.signal (.recordProviderRefundOutcome (outcomeOf event)))
  else some s.run

def step (s : State) : Event → Option State
  | .workflow e => if driven e then none else (s.run.step e).map fun run => { s with run }
  | .gateway e =>
    if dispatched e then none else (s.gateway.step e).map fun gateway => { s with gateway }
  | .send i configured verified =>
    (gatewayCall s.run).bind fun call =>
      (s.gateway.step (call.receive i configured verified)).map fun gateway =>
        { s with gateway, request := some i }
  | .answer => s.answered.bind s.complete
  | .lose => s.lost.bind s.complete
  | .list =>
    if s.dispatcher = .idle then
      some { s with dispatcher := .next (s.gateway.store.listPendingProviderRefundEvents 100) }
    else none
  | .deliver commit =>
    match s.dispatcher with
    | .signalling event rest =>
      -- a signal that throws can have reached the workflow all the same
      match commit with
      | .acknowledged =>
        (s.signalled event).map fun run => { s with run, dispatcher := .marking event rest }
      | .lost => (s.signalled event).map fun run => { s with run, dispatcher := .next rest }
      | .aborted => some { s with dispatcher := .next rest }
    | _ => none
  | .mark commit =>
    match s.dispatcher with
    | .marking event rest =>
      if commit = .aborted then some { s with dispatcher := .next rest }
      else
        (s.gateway.step (.markDelivered event.eventId)).map fun gateway =>
          { s with gateway, dispatcher := .next rest }
    | _ => none
  | .restart => some { s with dispatcher := .idle }

end State

def machine : Machine State Event := ⟨State.step⟩

/-! Each of the two runs as it does alone. -/

namespace State

/-- What a step of the system is for its workflow. -/
def workflowEvents (s : State) : Event → List RunEvent
  | .workflow e => [e]
  | .answer => (s.answered.map .complete).toList
  | .lose => (s.lost.map .complete).toList
  | .deliver commit =>
    match s.dispatcher with
    | .signalling event _ =>
      if commit ≠ .aborted ∧ event.workflowId = s.run.workflowId then
        [.signal (.recordProviderRefundOutcome (outcomeOf event))]
      else []
    | _ => []
  | _ => []

/-- What it is for the gateway. -/
def gatewayEvents (s : State) : Event → List Gateway.Event
  | .gateway e => [e]
  | .send i configured verified =>
    ((gatewayCall s.run).map fun call => call.receive i configured verified).toList
  | .mark commit =>
    match s.dispatcher with
    | .marking event _ => if commit = .aborted then [] else [.markDelivered event.eventId]
    | _ => []
  | _ => []

variable {s t : State} {e : Event}

theorem complete_run {result : ActivityResult} (h : s.complete result = some t) :
    workflow.step s.run (.complete result) = some t.run ∧ t.gateway = s.gateway ∧
      t.dispatcher = s.dispatcher := by
  obtain ⟨run, hrun, rfl⟩ := Option.map_eq_some_iff.mp h
  exact ⟨hrun, rfl, rfl⟩

theorem signalled_run {event : PendingProviderRefundEvent} {run : Run}
    (h : s.signalled event = some run) :
    workflow.run s.run (if event.workflowId = s.run.workflowId then
      [.signal (.recordProviderRefundOutcome (outcomeOf event))] else []) = some run := by
  unfold signalled at h
  split_ifs at h ⊢ with hworkflow
  · exact Machine.run_singleton.mpr h
  · exact h

theorem step_workflow (h : s.step e = some t) :
    workflow.run s.run (s.workflowEvents e) = some t.run := by
  unfold workflowEvents
  cases e with
  | workflow e =>
    simp only [step] at h
    split_ifs at h
    obtain ⟨run, hrun, rfl⟩ := Option.map_eq_some_iff.mp h
    exact Machine.run_singleton.mpr hrun
  | gateway e =>
    simp only [step] at h
    split_ifs at h
    obtain ⟨gateway, -, rfl⟩ := Option.map_eq_some_iff.mp h
    rfl
  | send i configured verified =>
    obtain ⟨call, -, h⟩ := Option.bind_eq_some_iff.mp h
    obtain ⟨gateway, -, rfl⟩ := Option.map_eq_some_iff.mp h
    rfl
  | answer =>
    obtain ⟨result, hresult, h⟩ := Option.bind_eq_some_iff.mp h
    simp only [hresult]
    exact Machine.run_singleton.mpr (complete_run h).1
  | lose =>
    obtain ⟨result, hresult, h⟩ := Option.bind_eq_some_iff.mp h
    simp only [hresult]
    exact Machine.run_singleton.mpr (complete_run h).1
  | list =>
    simp only [step] at h
    split_ifs at h
    cases h
    rfl
  | deliver commit =>
    simp only [step] at h
    split at h
    · simp only
      cases commit with
      | acknowledged =>
        obtain ⟨run, hrun, rfl⟩ := Option.map_eq_some_iff.mp h
        simpa using signalled_run hrun
      | lost =>
        obtain ⟨run, hrun, rfl⟩ := Option.map_eq_some_iff.mp h
        simpa using signalled_run hrun
      | aborted =>
        cases h
        rfl
    · cases h
  | mark commit =>
    simp only [step] at h
    split at h
    · split_ifs at h
      · cases h
        rfl
      · obtain ⟨gateway, -, rfl⟩ := Option.map_eq_some_iff.mp h
        rfl
    · cases h
  | restart =>
    cases h
    rfl

theorem step_gateway (h : s.step e = some t) :
    Gateway.machine.run s.gateway (s.gatewayEvents e) = some t.gateway := by
  unfold gatewayEvents
  cases e with
  | workflow e =>
    simp only [step] at h
    split_ifs at h
    obtain ⟨run, -, rfl⟩ := Option.map_eq_some_iff.mp h
    rfl
  | gateway e =>
    simp only [step] at h
    split_ifs at h
    obtain ⟨gateway, hgateway, rfl⟩ := Option.map_eq_some_iff.mp h
    exact Machine.run_singleton.mpr hgateway
  | send i configured verified =>
    obtain ⟨call, hcall, h⟩ := Option.bind_eq_some_iff.mp h
    obtain ⟨gateway, hgateway, rfl⟩ := Option.map_eq_some_iff.mp h
    simp only [hcall]
    exact Machine.run_singleton.mpr hgateway
  | answer =>
    obtain ⟨result, -, h⟩ := Option.bind_eq_some_iff.mp h
    rw [(complete_run h).2.1]
    rfl
  | lose =>
    obtain ⟨result, -, h⟩ := Option.bind_eq_some_iff.mp h
    rw [(complete_run h).2.1]
    rfl
  | list =>
    simp only [step] at h
    split_ifs at h
    cases h
    rfl
  | deliver commit =>
    simp only [step] at h
    split at h
    · cases commit with
      | acknowledged =>
        obtain ⟨run, -, rfl⟩ := Option.map_eq_some_iff.mp h
        rfl
      | lost =>
        obtain ⟨run, -, rfl⟩ := Option.map_eq_some_iff.mp h
        rfl
      | aborted =>
        cases h
        rfl
    · cases h
  | mark commit =>
    simp only [step] at h
    split at h
    · simp only
      split_ifs at h ⊢
      · cases h
        rfl
      · obtain ⟨gateway, hgateway, rfl⟩ := Option.map_eq_some_iff.mp h
        exact Machine.run_singleton.mpr hgateway
    · cases h
  | restart =>
    cases h
    rfl

end State

def workflowRefinement : Refinement machine workflow where
  abs := State.run
  label := State.workflowEvents
  step _ _ _ := State.step_workflow

def gatewayRefinement : Refinement machine Gateway.machine where
  abs := State.gateway
  label := State.gatewayEvents
  step _ _ _ := State.step_gateway

/-- A gateway that starts serving, and a workflow at its beginning. -/
structure State.Starting (s : State) : Prop where
  gateway : Gateway.Starting s.gateway
  dispatcher : s.dispatcher = .idle
  run : s.run.Starting
  request : s.request = none

namespace State
variable {s : State}

/-- The workflow of the system is in a state that it reaches on its own. -/
theorem run_reachable (h : machine.Reachable Starting s) :
    workflow.Reachable Run.Starting s.run :=
  workflowRefinement.reachable (fun _ hs => hs.run) h

theorem gateway_reachable (h : machine.Reachable Starting s) :
    Gateway.machine.Reachable Gateway.Starting s.gateway :=
  gatewayRefinement.reachable (fun _ hs => hs.gateway) h

end State
end CSO.System
