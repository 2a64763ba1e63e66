import CSO.Gateway.Idempotency

/-! Who writes over an execution that has succeeded or failed. Provider events never do; the
outcomes that the two routes record are not checked. -/
namespace CSO.Gateway
open Transition (Machine)

variable {s t : State} {e : Event}

/-- No execution that has succeeded or failed changes its status in the step. -/
def TerminalKept (s : State) (_ : Event) (t : State) : Prop :=
  ∀ id row row', s.store.executions.find? id = some row → row.status.terminal = true →
    t.store.executions.find? id = some row' → row'.status = row.status

/-- An outcome is recorded for an execution that is still open, or that ended with it. -/
def RecordsOpen (s : State) (e : Event) (_ : State) : Prop :=
  ∀ i now commit id status providerRefundId row, e = .record i now commit → commit ≠ .aborted →
    (s.processes i).write = some (id, status, providerRefundId) →
    s.store.executions.find? id = some row → row.status.terminal = true → row.status = status

theorem terminalKept_of_recordsOpen (h : s.step e = some t) (hO : RecordsOpen s e t) :
    TerminalKept s e t := by
  intro id row row' hrow hterm hrow'
  obtain ⟨row'', hr, hs⟩ := State.row_step h hrow
  rw [hrow'] at hr
  cases hr
  cases hs with
  | kept => rfl
  | recorded he hc hw =>
    rw [Store.executionId_of_find hrow] at hw
    exact (hO _ _ _ id _ _ row he hc hw hrow hterm).symm
  | outcome he hc ht hr =>
    rw [hterm] at ht
    cases ht

theorem recordsOpen_of_terminalKept (h : s.step e = some t) (hK : TerminalKept s e t) :
    RecordsOpen s e t := by
  intro i now commit id status providerRefundId row he hc hw hrow hterm
  subst he
  have hrow' := State.record_step h hw hc hrow
  exact (hK id row _ hrow hterm hrow').symm

/-- The result is recorded but the commit's acknowledgement is lost, and the provider's event
settles the execution before the catch path records its own outcome. -/
def Sample.lostCommit : List Event :=
  Sample.arrives 0 Sample.request [] ++
    [.reserve 0 "execution-1" 0 .acknowledged, .callProvider 0,
      .providerAnswers 0 (some ⟨.submitted, some "refund-1"⟩), .record 0 1 .lost,
      .providerEvent ⟨"event-1", "refund-1", .completed, "2026-01-01T00:00:02.000Z"⟩ 2
        .acknowledged]

end CSO.Gateway
