import CSO.Gateway.Idempotency
import CSO.Gateway.Outbox
import CSO.System.Machine
import CSO.Workers.Outcome

/-! What becomes of a provider outcome that has been delivered. The loop of `REFUND_PROCESSING`
takes the first one that names the refund it has been told of; in `PENDING_RECONCILIATION` there
is no handler. -/
namespace CSO.Workers.Run
open Transition (Machine)
open Gateway (ReconciliationResult)

variable {run run' : Run} {outcome : ProviderOutcome} {answer : ReconciliationResult}

/-- The run has an outcome from the answer of its reconciliation or from an event. -/
def Hears (run : Run) (answer : ReconciliationResult) (outcome : ProviderOutcome) : Prop :=
  answer.status = outcome.reconciliationStatus ∨
    (run.state.stage = .refundProcessing ∧
      (takenOutcome run.history).map RefundProviderOutcome.outcome = some outcome)

/-- A failure counts unless a success is heard as well. -/
def Settles (run : Run) (answer : ReconciliationResult) (outcome : ProviderOutcome) : Prop :=
  run.Hears answer outcome ∧ (outcome = .failed → ¬run.Hears answer .completed)

/-- The run has ended in the stage of the outcome. -/
def EndsIn (run : Run) (outcome : ProviderOutcome) : Prop :=
  run.control = .finished ∧ run.state.stage = outcome.stage

theorem pending_endsIn {decision : RefundPolicyDecision} {preview : RefundPreview}
    {attemptsInRun : ℕ} :
    (run.afterPendingReconciliation decision preview attemptsInRun answer).EndsIn outcome ↔
      answer.status = outcome.reconciliationStatus := by
  unfold EndsIn afterPendingReconciliation
  cases hstatus : answer.status <;> cases outcome <;>
    simp [finish, sleep, log, processingState, ProviderOutcome.stage,
      ProviderOutcome.reconciliationStatus]

/-- The loop looks for a success first. -/
theorem processing_endsIn {decision : RefundPolicyDecision} {preview : RefundPreview}
    {wait : OutcomeWait} :
    (run.afterProcessingReconciliation decision preview wait answer).EndsIn outcome ↔
      (answer.status = outcome.reconciliationStatus ∨
        wait.providerOutcome.map RefundProviderOutcome.outcome = some outcome) ∧
      (outcome = .failed → ¬(answer.status = .succeeded ∨
        wait.providerOutcome.map RefundProviderOutcome.outcome = some .completed)) := by
  unfold EndsIn afterProcessingReconciliation
  generalize wait.providerOutcome.map RefundProviderOutcome.outcome = taken
  simp only [ProviderOutcome.reconciliationStatus]
  split_ifs with hsucceeded hfailed
  · cases outcome
    · exact iff_of_true ⟨rfl, rfl⟩ ⟨hsucceeded, nofun⟩
    · exact iff_of_false (fun h => nomatch h.2) fun h => h.2 rfl hsucceeded
  · cases outcome
    · exact iff_of_false (fun h => nomatch h.2) fun h => hsucceeded h.1
    · exact iff_of_true ⟨rfl, rfl⟩ ⟨hfailed, fun _ => hsucceeded⟩
  · refine iff_of_false (fun h => nomatch h.1) fun h => ?_
    cases outcome
    · exact hsucceeded h.1
    · exact hfailed h.1

/-- Where the next reconciliation of a run leads. -/
theorem Consistent.endsIn_iff (h : run.Consistent)
    (hs : workflow.step run (.complete (.reconciliation answer)) = some run') :
    run'.EndsIn outcome ↔ run.Settles answer outcome := by
  have hr : (run.log (.completed (.reconciliation answer))).Returns run.control _ run' :=
    complete_returns hs
  unfold Consistent at h
  unfold Settles Hears
  generalize run.control = control at hr h
  cases hr with
  | reconcilingProcessing decision preview wait hwait =>
    obtain ⟨hstage, found, hfound, htold⟩ := h
    obtain rfl : found = wait := Option.some.inj (hfound.symm.trans hwait)
    rw [processing_endsIn, htold.outcome, hstage]
    simp [ProviderOutcome.reconciliationStatus]
  | reconcilingPending =>
    have hstage : run.state.stage = .pendingReconciliation := h
    rw [pending_endsIn, hstage]
    cases outcome
    · simp
    · simp only [reduceCtorEq, false_and, or_false, forall_const]
      constructor
      · intro hfailed
        refine ⟨hfailed, ?_⟩
        rw [hfailed]
        decide
      · exact fun hboth => hboth.1

/-! Between a delivery and the next reconciliation. -/

/-- The refund has been sent and its outcome is open. -/
def Open (run : Run) : Prop :=
  run.control.phase = .processing ∨ run.control.phase = .pending

/-- A later state of the run in the same phase. -/
def Waits (run run' : Run) : Prop :=
  run'.control.phase = run.control.phase ∧ ∃ later, run'.history = later ++ run.history

theorem Waits.trans {run'' : Run} (h : run.Waits run') (h' : run'.Waits run'') :
    run.Waits run'' := by
  obtain ⟨hphase, later, hlater⟩ := h
  obtain ⟨hphase', later', hlater'⟩ := h'
  refine ⟨hphase'.trans hphase, later' ++ later, ?_⟩
  rw [hlater', hlater, List.append_assoc]

theorem pendingSleep_waits {decision : RefundPolicyDecision} {preview : RefundPreview}
    {attemptsInRun : ℕ} (hphase : run.control.phase = .pending) :
    run.Waits (run.afterPendingSleep decision preview attemptsInRun) := by
  unfold afterPendingSleep Waits
  rw [hphase]
  split_ifs
  · exact ⟨rfl, [_, _], rfl⟩
  · exact ⟨rfl, [_], rfl⟩

/-- Until its reconciliation returns, a run waits on or fails. -/
theorem Open.step {e : RunEvent} (ho : run.Open)
    (he : ∀ answer, e ≠ .complete (.reconciliation answer))
    (hs : workflow.step run e = some run') : run.Waits run' ∨ run'.control.closed = true := by
  refine workflow_step_cases (P := fun r => run.Waits r ∨ r.control.closed = true)
    (fun _ => .inl ⟨rfl, [], rfl⟩) ?_ (fun _ => .inl ⟨rfl, [], rfl⟩) (.inr rfl) ?_ ?_ hs
  · intro signal r hr
    rw [handle_frame hr]
    exact .inl ⟨rfl, [_], rfl⟩
  · intro result r heq hr
    unfold Open at ho
    generalize run.control = control at hr ho
    cases hr with
    | reconcilingProcessing => exact absurd heq (he _)
    | reconcilingPending => exact absurd heq (he _)
    | _ => rcases ho with ho | ho <;> cases ho
  · intro r hw
    have hsleep : ∀ decision preview attemptsInRun, run.control.phase = .pending →
        run.Waits (run.afterPendingSleep decision preview attemptsInRun) :=
      fun _ _ _ => pendingSleep_waits
    unfold Open at ho
    unfold Waits at hsleep ⊢
    generalize run.control = control at hw ho hsleep
    cases hw with
    | outcome => exact .inl ⟨rfl, [_], rfl⟩
    | sleptPending decision preview attemptsInRun => exact .inl (hsleep _ _ _ rfl)
    | _ => rcases ho with ho | ho <;> cases ho

/-- A run that has ended stays where it is. -/
theorem closed_step {e : RunEvent} (hc : run.control.closed = true)
    (hs : workflow.step run e = some run') : run'.control.closed = true := by
  refine workflow_step_cases (P := fun r => r.control.closed = true) (fun _ => hc) ?_
    (fun _ => hc) rfl ?_ ?_ hs
  · intro signal r hr
    rw [handle_frame hr]
    exact hc
  · intro result r heq hr
    generalize run.control = control at hr hc
    cases hr <;> cases hc
  · intro r hw
    generalize run.control = control at hw hc
    cases hw <;> cases hc

theorem not_closed_of_complete {result : ActivityResult}
    (hs : workflow.step run (.complete result) = some run') : run.control.closed = false := by
  have hr : (run.log (.completed result)).Returns run.control _ run' := complete_returns hs
  generalize run.control = control at hr
  cases hr <;> rfl

/-- The stage of an open run tells its phase. -/
theorem Consistent.open_of_stage (h : run.Consistent) (hc : run.control.closed = false)
    (hs : run.state.stage = .refundProcessing ∨ run.state.stage = .pendingReconciliation) :
    run.Open := by
  have hexecuted : run.state.stage.executed = true := by
    rcases hs with hs | hs <;> rw [hs] <;> rfl
  unfold Consistent at h
  cases hphase : run.control.phase with
  | journey =>
    rw [hphase] at h
    rw [h.stage] at hexecuted
    cases hexecuted
  | processing => exact .inl hphase
  | pending => exact .inr hphase
  | ended =>
    generalize run.control = control at hphase hc
    cases control with
    | finished => exact absurd hc (by decide)
    | failed => exact absurd hc (by decide)
    | _ => cases hphase

theorem Consistent.stage_waits (h : run.Consistent) (h' : run'.Consistent) (ho : run.Open)
    (hw : run.Waits run') : run'.state.stage = run.state.stage := by
  unfold Consistent at h h'
  rw [hw.1] at h'
  rcases ho with hphase | hphase
  · rw [hphase] at h h'
    rw [h.stage, h'.stage]
  · rw [hphase] at h h'
    rw [show run.state.stage = _ from h, show run'.state.stage = _ from h']

/-- The loop takes the first outcome that is delivered for the refund it knows. -/
theorem Processing.takes {received : RefundProviderOutcome} (h : run.Processing)
    (ht : toldRefund run.history = some received.providerRefundId)
    (hnone : takenOutcome run.history = none)
    (hs : workflow.step run (.signal (.recordProviderRefundOutcome received)) = some run') :
    takenOutcome run'.history = some received := by
  obtain ⟨-, wait, hwait, -⟩ := h
  have hhandle : run.handle (.recordProviderRefundOutcome received) =
      some { run.log (.handled (.recordProviderRefundOutcome received)) with
        outcomeWait := some (wait.receive received) } := by
    change run.outcomeWait.map _ = _
    rw [hwait]
    rfl
  change (if run.control.closed then none else some (run.receive _)) = some run' at hs
  split_ifs at hs
  obtain rfl := Option.some.inj hs
  unfold receive
  rw [hhandle]
  change (takenOutcome run.history).or _ = _
  rw [hnone, ht]
  simp [Occurrence.outcome]

end CSO.Workers.Run

namespace CSO.System
open Transition (Machine)
open Workers
open Gateway (Commit PendingProviderRefundEvent ReconciliationResult)

namespace State
variable {s t : State} {e : Event}

@[simp] theorem next_events (events : List PendingProviderRefundEvent) :
    (Dispatcher.next events).events = events := by
  cases events <;> rfl

/-- The dispatcher goes through the events that it has listed. -/
theorem dispatcher_step (h : s.step e = some t) :
    (∀ event ∈ t.dispatcher.events, event ∈ s.dispatcher.events) ∨
    (t.gateway = s.gateway ∧
      t.dispatcher.events = s.gateway.store.listPendingProviderRefundEvents 100) := by
  cases e with
  | workflow e =>
    simp only [step] at h
    split_ifs at h
    obtain ⟨run, -, rfl⟩ := Option.map_eq_some_iff.mp h
    exact .inl fun event he => he
  | gateway e =>
    simp only [step] at h
    split_ifs at h
    obtain ⟨gateway, -, rfl⟩ := Option.map_eq_some_iff.mp h
    exact .inl fun event he => he
  | send i configured verified =>
    obtain ⟨call, -, h⟩ := Option.bind_eq_some_iff.mp h
    obtain ⟨gateway, -, rfl⟩ := Option.map_eq_some_iff.mp h
    exact .inl fun event he => he
  | answer =>
    obtain ⟨result, -, h⟩ := Option.bind_eq_some_iff.mp h
    rw [(complete_run h).2.2]
    exact .inl fun event he => he
  | lose =>
    obtain ⟨result, -, h⟩ := Option.bind_eq_some_iff.mp h
    rw [(complete_run h).2.2]
    exact .inl fun event he => he
  | list =>
    simp only [step] at h
    split_ifs at h
    cases h
    exact .inr ⟨rfl, next_events _⟩
  | deliver commit =>
    simp only [step] at h
    split at h
    · rename_i event rest hdispatcher
      rw [hdispatcher]
      cases commit with
      | acknowledged =>
        obtain ⟨run, -, rfl⟩ := Option.map_eq_some_iff.mp h
        exact .inl fun other ho => ho
      | lost =>
        obtain ⟨run, -, rfl⟩ := Option.map_eq_some_iff.mp h
        rw [next_events]
        exact .inl fun other ho => List.mem_cons_of_mem event ho
      | aborted =>
        cases h
        rw [next_events]
        exact .inl fun other ho => List.mem_cons_of_mem event ho
    · cases h
  | mark commit =>
    simp only [step] at h
    split at h
    · rename_i event rest hdispatcher
      rw [hdispatcher]
      split_ifs at h
      · cases h
        rw [next_events]
        exact .inl fun other ho => List.mem_cons_of_mem event ho
      · obtain ⟨gateway, -, rfl⟩ := Option.map_eq_some_iff.mp h
        rw [next_events]
        exact .inl fun other ho => List.mem_cons_of_mem event ho
    · cases h
  | restart =>
    cases h
    exact .inl fun event he => absurd he List.not_mem_nil

/-- The events that the dispatcher is busy with have been accepted. -/
def Dispatches (s : State) : Prop :=
  ∀ event ∈ s.dispatcher.events, s.gateway.store.Accepted event

theorem dispatches_step (s : State) (e : Event) (t : State) (hd : s.Dispatches)
    (h : machine.step s e = some t) : t.Dispatches := by
  intro event he
  rcases dispatcher_step h with hsub | ⟨hgateway, hlist⟩
  · exact Machine.run_invariant (I := fun g : Gateway.State => g.store.Accepted event)
      (fun _ _ _ ha hs => Gateway.State.accepted_step hs ha) (hd event (hsub event he))
      (step_gateway h)
  · rw [hlist] at he
    rw [hgateway]
    exact Gateway.Store.accepted_of_listed he

theorem dispatches_reachable (h : machine.Reachable Starting s) : s.Dispatches := by
  refine h.invariant ?_ dispatches_step
  intro s₀ h₀ event he
  rw [h₀.dispatcher] at he
  cases he

/-- The event returns the answer from the reconciliation that the workflow awaits. -/
def Reconciles (s : State) (e : Event) (answer : ReconciliationResult) : Prop :=
  s.workflowEvents e = [.complete (.reconciliation answer)]

theorem workflowEvents_cases (s : State) (e : Event) :
    s.workflowEvents e = [] ∨ ∃ f, s.workflowEvents e = [f] := by
  have hoption : ∀ o : Option RunEvent, o.toList = [] ∨ ∃ f, o.toList = [f] := by
    intro o
    cases o with
    | none => exact .inl rfl
    | some f => exact .inr ⟨f, rfl⟩
  cases e with
  | workflow e => exact .inr ⟨e, rfl⟩
  | answer => exact hoption _
  | lose => exact hoption _
  | deliver commit =>
    simp only [workflowEvents]
    split
    · split_ifs
      · exact .inr ⟨_, rfl⟩
      · exact .inl rfl
    · exact .inl rfl
  | _ => exact .inl rfl

/-- Until the next reconciliation returns, an open run waits on or ends. -/
theorem waits_step {run : Run} (ho : run.Open)
    (hw : run.Waits s.run ∨ s.run.control.closed = true) (h : machine.step s e = some t)
    (he : ∀ answer, ¬s.Reconciles e answer) :
    run.Waits t.run ∨ t.run.control.closed = true := by
  have hrun := step_workflow h
  rcases s.workflowEvents_cases e with hnil | ⟨f, hf⟩
  · rw [hnil] at hrun
    rw [← Option.some.inj hrun]
    exact hw
  · rw [hf, Machine.run_singleton] at hrun
    rcases hw with hw | hc
    · have hopen : s.run.Open := by
        unfold Run.Open
        rw [hw.1]
        exact ho
      have hquiet : ∀ answer, f ≠ .complete (.reconciliation answer) := by
        rintro answer rfl
        exact he answer hf
      exact (hopen.step hquiet hrun).imp_left hw.trans
    · exact .inr (Run.closed_step hc hrun)

end State

/-! The refund is executed, and its event accepted before the provider lists it. -/
namespace Sample

def noon : State := ⟨.initial, .idle, Workers.Sample.noon, none⟩

theorem noon_starting : noon.Starting :=
  ⟨⟨fun _ => rfl, rfl⟩, rfl, Workers.Sample.noon_starting.1, rfl⟩

/-- The gateway executes the refund of the workflow and records it. -/
def executes : List Event :=
  Workers.Sample.executes.map .workflow ++
    [.send 0 true true,
      .gateway (.readOrder 0 (some (some (Gateway.Sample.order []))) "2026-08-08T12:01:00.000Z"),
      .gateway (.reserve 0 "execution-1" 0 .acknowledged), .gateway (.callProvider 0),
      .gateway (.providerAnswers 0 (some ⟨.submitted, some "refund-1"⟩)),
      .gateway (.record 0 1 .acknowledged)]

/-- The event of the provider is accepted and listed. -/
def accepts : List Event :=
  [.gateway (.providerEvent ⟨"event-1", "refund-1", .completed, "2026-08-08T12:02:00.000Z"⟩ 2
      .acknowledged), .list]

def event : PendingProviderRefundEvent :=
  ⟨"event-1", "refund-1", "refund-1", .completed, "2026-08-08T12:02:00.000Z"⟩

/-- The event is marked, and a reconciliation reads an order that does not list the refund. -/
def reconciles : List Event :=
  [.mark .acknowledged, .send 1 true true,
    .gateway (.readRefunds 1 (some (some (Gateway.Sample.order []))))]

def notFound : ReconciliationResult := ⟨.notFound, none⟩

theorem reconciles_quiet (s : State) :
    machine.Along (fun s e _ => ∀ answer, ¬s.Reconciles e answer) s reconciles := by
  apply Machine.along_of_forall
  intro e he s t answer
  simp only [reconciles, List.mem_cons, List.not_mem_nil, or_false] at he
  rcases he with rfl | rfl | rfl <;> exact fun h => nomatch h

/-- The states around the delivery and the next reconciliation, whatever ended the execution. -/
def delivers (answered : Event) : Option (State × State × State × State) := do
  let s₁ ← machine.run noon (executes ++ answered :: accepts)
  let s₂ ← machine.step s₁ (.deliver .acknowledged)
  let s₃ ← machine.run s₂ reconciles
  let s₄ ← machine.step s₃ .answer
  return (s₁, s₂, s₃, s₄)

theorem delivers_eq_some {answered : Event} {s₁ s₂ s₃ s₄ : State}
    (h : delivers answered = some (s₁, s₂, s₃, s₄)) :
    machine.run noon (executes ++ answered :: accepts) = some s₁ ∧
      machine.step s₁ (.deliver .acknowledged) = some s₂ ∧
      machine.run s₂ reconciles = some s₃ ∧ machine.step s₃ .answer = some s₄ := by
  obtain ⟨t₁, h₁, h⟩ := Option.bind_eq_some_iff.mp h
  obtain ⟨t₂, h₂, h⟩ := Option.bind_eq_some_iff.mp h
  obtain ⟨t₃, h₃, h⟩ := Option.bind_eq_some_iff.mp h
  obtain ⟨t₄, h₄, h⟩ := Option.bind_eq_some_iff.mp h
  cases h
  exact ⟨h₁, h₂, h₃, h₄⟩

theorem exists_delivers {answered : Event} {p : State → State → State → State → Prop}
    [∀ s₁ s₂ s₃ s₄, Decidable (p s₁ s₂ s₃ s₄)]
    (h : (delivers answered).any (fun s => p s.1 s.2.1 s.2.2.1 s.2.2.2) = true) :
    ∃ s₁ s₂ s₃ s₄, delivers answered = some (s₁, s₂, s₃, s₄) ∧ p s₁ s₂ s₃ s₄ := by
  obtain ⟨⟨s₁, s₂, s₃, s₄⟩, hs, hp⟩ := (Option.any_eq_true _ _).mp h
  exact ⟨s₁, s₂, s₃, s₄, hs, of_decide_eq_true hp⟩

end Sample

end CSO.System
