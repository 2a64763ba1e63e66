import CSO.Workers.Workflow

/-! What the delivery of signals leaves alone. -/
namespace CSO.Workers
open Transition (dispatch dispatch_invariant dispatch_invariant_of_mem)

namespace Run
variable {run run' : Run} {signal : Signal}

/-- A handler changes the variables it shares with its wait and nothing else. -/
theorem handle_frame (h : run.handle signal = some run') :
    run' = { run with
      confirmationWait := run'.confirmationWait
      humanDecision := run'.humanDecision
      outcomeWait := run'.outcomeWait
      history := ⟨run.now, .handled signal⟩ :: run.history } := by
  unfold handle at h
  cases signal with
  | confirmRefund received =>
    obtain ⟨wait, -, rfl⟩ := Option.map_eq_some_iff.mp h
    rfl
  | decideRefund received =>
    obtain ⟨review, -, rfl⟩ := Option.map_eq_some_iff.mp h
    rfl
  | recordProviderRefundOutcome received =>
    obtain ⟨wait, -, rfl⟩ := Option.map_eq_some_iff.mp h
    rfl

/-- An invariant of the handled signals, of a run and what is left of its buffer. -/
theorem dispatchBuffered_invariant {I : Run → Prop}
    (hI : ∀ r s t, I r → r.handle s = some t → I t)
    (hb : ∀ r buffered, I r → I { r with buffered }) (h : I run) : I run.dispatchBuffered :=
  hb _ _ (dispatch_invariant hI run.buffered run h)

theorem dispatchBuffered_invariant_of_mem {I : Run → Prop}
    (hI : ∀ r s t, s ∈ run.buffered → I r → r.handle s = some t → I t)
    (hb : ∀ r buffered, I r → I { r with buffered }) (h : I run) : I run.dispatchBuffered :=
  hb _ _ (dispatch_invariant_of_mem hI run h)

theorem dispatchBuffered_frame (run : Run) :
    run.dispatchBuffered = { run with
      confirmationWait := run.dispatchBuffered.confirmationWait
      humanDecision := run.dispatchBuffered.humanDecision
      outcomeWait := run.dispatchBuffered.outcomeWait
      buffered := run.dispatchBuffered.buffered
      history := run.dispatchBuffered.history } := by
  refine dispatchBuffered_invariant (I := fun r => r = { run with
    confirmationWait := r.confirmationWait
    humanDecision := r.humanDecision
    outcomeWait := r.outcomeWait
    buffered := r.buffered
    history := r.history }) ?_ ?_ rfl
  · intro r s t hr ht
    rw [handle_frame ht, hr]
  · intro r buffered hr
    rw [hr]

@[simp] theorem dispatchBuffered_now (run : Run) :
    run.dispatchBuffered.now = run.now :=
  (congrArg Run.now run.dispatchBuffered_frame :)

@[simp] theorem dispatchBuffered_control (run : Run) :
    run.dispatchBuffered.control = run.control :=
  (congrArg Run.control run.dispatchBuffered_frame :)

@[simp] theorem dispatchBuffered_state (run : Run) :
    run.dispatchBuffered.state = run.state :=
  (congrArg Run.state run.dispatchBuffered_frame :)

@[simp] theorem dispatchBuffered_request (run : Run) :
    run.dispatchBuffered.request = run.request :=
  (congrArg Run.request run.dispatchBuffered_frame :)

@[simp] theorem dispatchBuffered_workflowId (run : Run) :
    run.dispatchBuffered.workflowId = run.workflowId :=
  (congrArg Run.workflowId run.dispatchBuffered_frame :)

@[simp] theorem dispatchBuffered_patches (run : Run) :
    run.dispatchBuffered.patches = run.patches :=
  (congrArg Run.patches run.dispatchBuffered_frame :)

@[simp] theorem dispatchBuffered_review (run : Run) :
    run.dispatchBuffered.review = run.review :=
  (congrArg Run.review run.dispatchBuffered_frame :)

/-- A signal is handled, or it waits for its handler. -/
theorem receive_cases (run : Run) (signal : Signal) :
    run.handle signal = some (run.receive signal) ∨
      (run.handle signal = none ∧
        run.receive signal = { run with buffered := run.buffered ++ [signal] }) := by
  unfold receive
  cases h : run.handle signal with
  | none => exact .inr ⟨rfl, rfl⟩
  | some t => exact .inl rfl

theorem receive_control (run : Run) (signal : Signal) :
    (run.receive signal).control = run.control := by
  rcases run.receive_cases signal with h | ⟨-, h⟩
  · rw [handle_frame h]
  · rw [h]

theorem handle_confirmationWait (h : run.handle signal = some run') :
    run'.confirmationWait = match signal with
      | .confirmRefund received => run.confirmationWait.map fun wait =>
          wait.receive run.patches.expiryConfirmation run.now received
      | _ => run.confirmationWait := by
  unfold handle at h
  cases signal with
  | confirmRefund received =>
    obtain ⟨wait, hwait, rfl⟩ := Option.map_eq_some_iff.mp h
    rw [hwait]
    rfl
  | decideRefund received =>
    obtain ⟨review, -, rfl⟩ := Option.map_eq_some_iff.mp h
    rfl
  | recordProviderRefundOutcome received =>
    obtain ⟨wait, -, rfl⟩ := Option.map_eq_some_iff.mp h
    rfl

end Run
end CSO.Workers
