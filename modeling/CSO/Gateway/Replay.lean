import CSO.Gateway.Idempotency
import CSO.Workers.GatewayClient

/-! Replays: execution requests whose key an earlier request has reserved. The route reads the
order and checks it before it looks the key up. -/
namespace CSO.Gateway
open Transition (Machine)

variable {s t : State} {e : Event} {i : ℕ} {call : ExecutionCall} {row : ExecutionRow}

/-- A request for a stored execution that has not found it yet. -/
structure Replays (s : State) (i : ℕ) (call : ExecutionCall) (row : ExecutionRow) : Prop where
  waits : s.processes i = .readingOrder call ∨ ∃ payment, s.processes i = .reserving call payment
  stored : s.store.findKey call.key = some row

/-- A step of a replay calls nobody and leads to the recorded outcome. -/
def ReplayAnswered (s : State) (e : Event) (t : State) : Prop :=
  ∀ i call row, Replays s i call row → e.process = some i → t.processes i ≠ .crashed →
    t.calls = s.calls ∧
    ((∃ payment, t.processes i = .reserving call payment) ∨
      t.processes i = .answered (.sent 200 (existingResponse (toExecution row)))) ∧
    (row.status = .submitted ∨ row.status = .succeeded → ∀ reply result,
      t.processes i = .answered reply →
      Workers.executeRefund (Workers.received reply) = some result → result.status ≠ .failed)

/-- The order a replay reads is there, the customer's and still eligible, and the transaction
that looks the key up is acknowledged. -/
def ReplayEligible (s : State) (e : Event) (_ : State) : Prop :=
  ∀ i call row, Replays s i call row →
    (∀ read observedAt, e = .readOrder i read observedAt →
      ∃ order payment, read = some (some order) ∧
        order.customer = some call.access.subjectCustomerId ∧
        eligiblePayment call.request order observedAt = some payment) ∧
    ∀ id now commit, e = .reserve i id now commit → commit = .acknowledged

theorem checkRefundOrder_ne_sent {access : OrderAccessContext} {request : RefundExecutionRequest}
    {order : Option CommerceOrder} {observedAt : String} {reply : Reply ExecutionResult}
    (h : checkRefundOrder access request order observedAt = .error reply) (status : ℕ)
    (body : ExecutionResult) : reply ≠ .sent status body := by
  unfold checkRefundOrder at h
  split at h
  · cases h
    exact nofun
  · split_ifs at h
    · split at h
      · cases h
      · cases h
        exact nofun
    · cases h
      exact nofun

/-- The recorded outcome of a submitted or succeeded execution is not a failure. -/
theorem existingResponse_ne_failed (h : row.status = .submitted ∨ row.status = .succeeded) :
    (existingResponse (toExecution row)).status ≠ .failed := by
  obtain h | h := h
  · simp [existingResponse, toExecution, h]
  · simp [existingResponse, toExecution, h]

theorem Replays.not_reserved {id : String} {now : ℤ} {store : Store} (hr : Replays s i call row) :
    s.store.reserve id (reserveInput call.access call.request now) ≠
      some (.reserved id, store) := by
  rw [Store.reserve_of_findKey id hr.stored]
  exact nofun

theorem replay_calls (hr : Replays s i call row) (h : s.step e = some t)
    (he : e.process = some i) : t.calls = s.calls := by
  obtain heq | ⟨i', call', payment', id, rfl, hp, -⟩ := State.calls_cases h
  · exact heq
  · cases he
    obtain hw | ⟨payment, hw⟩ := hr.waits
    · rw [hw] at hp
      cases hp
    · rw [hw] at hp
      cases hp

/-- A request that reads its order or looks its key up ends at one of these awaits. -/
theorem replay_cases (hr : Replays s i call row) (h : s.step e = some t)
    (he : e.process = some i) :
    (e = .crash i ∧ t.processes i = .crashed) ∨
    (∃ order payment observedAt, e = .readOrder i (some (some order)) observedAt ∧
      order.customer = some call.access.subjectCustomerId ∧
      eligiblePayment call.request order observedAt = some payment ∧
      t.processes i = .reserving call payment) ∨
    (∃ id now, e = .reserve i id now .acknowledged ∧
      t.processes i = .answered (.sent 200 (existingResponse (toExecution row)))) ∨
    (∃ reply, t.processes i = .answered reply ∧ (∀ status body, reply ≠ .sent status body) ∧
      ((∃ read observedAt, e = .readOrder i read observedAt ∧ ∀ order payment,
          read = some (some order) → order.customer = some call.access.subjectCustomerId →
          eligiblePayment call.request order observedAt ≠ some payment) ∨
        ∃ id now commit, e = .reserve i id now commit ∧ commit ≠ .acknowledged)) := by
  obtain ⟨hne, -⟩ | ⟨-, ha⟩ := State.process_cases h i
  · exact absurd he hne
  generalize ht : t.processes i = q at ha
  obtain hw | ⟨payment, hw⟩ := hr.waits
  · rw [hw] at ha
    cases ha with
    | crashed =>
      cases he
      exact .inl ⟨rfl, rfl⟩
    | orderUnread =>
      cases he
      exact .inr (.inr (.inr ⟨.thrown, rfl, nofun, .inl ⟨_, _, rfl, nofun⟩⟩))
    | orderRefused hc =>
      cases he
      refine .inr (.inr (.inr ⟨_, rfl, checkRefundOrder_ne_sent hc, .inl ⟨_, _, rfl, ?_⟩⟩))
      intro order payment horder hcust hpay
      have hok := checkRefundOrder_eq_ok.mpr ⟨order, Option.some.inj horder, hcust, hpay⟩
      rw [hc] at hok
      cases hok
    | orderEligible hc =>
      cases he
      obtain ⟨order, rfl, hcust, hpay⟩ := checkRefundOrder_eq_ok.mp hc
      exact .inr (.inl ⟨order, _, _, rfl, hcust, hpay, rfl⟩)
  · rw [hw] at ha
    cases ha with
    | crashed =>
      cases he
      exact .inl ⟨rfl, rfl⟩
    | reserveFailed hfail =>
      cases he
      obtain hc | hnone := hfail
      · exact .inr (.inr (.inr ⟨.thrown, rfl, nofun, .inr ⟨_, _, _, rfl, hc⟩⟩))
      · rw [Store.reserve_of_findKey _ hr.stored] at hnone
        cases hnone
    | reserved hres => exact absurd hres hr.not_reserved
    | existing hrow =>
      cases he
      rw [hr.stored] at hrow
      cases hrow
      exact .inr (.inr (.inl ⟨_, _, rfl, rfl⟩))

theorem answered_of_eligible (h : s.step e = some t) (hE : ReplayEligible s e t) :
    ReplayAnswered s e t := by
  intro i call row hr he hnc
  obtain ⟨horder, hreserve⟩ := hE i call row hr
  refine ⟨replay_calls hr h he, ?_⟩
  obtain hcr | ⟨order, payment, observedAt, -, -, -, ht⟩ | ⟨id, now, -, ht⟩ |
    ⟨reply, ht, hreply, ⟨read, observedAt, rfl, hread⟩ | ⟨id, now, commit, rfl, hcommit⟩⟩ :=
      replay_cases hr h he
  · exact absurd hcr.2 hnc
  · rw [ht]
    exact ⟨.inl ⟨payment, rfl⟩, fun _ _ _ hans => nomatch hans⟩
  · rw [ht]
    refine ⟨.inr rfl, ?_⟩
    intro hstatus reply result hans hresult
    cases hans
    have hsent : Workers.executeRefund (Workers.received
        (.sent 200 (existingResponse (toExecution row)))) =
          some (existingResponse (toExecution row)) := rfl
    rw [hsent] at hresult
    cases hresult
    exact existingResponse_ne_failed hstatus
  · obtain ⟨order, payment, hsome, hcust, hpay⟩ := horder read observedAt rfl
    exact absurd hpay (hread order payment hsome hcust)
  · exact absurd (hreserve id now commit rfl) hcommit

theorem eligible_of_answered (h : s.step e = some t) (hA : ReplayAnswered s e t) :
    ReplayEligible s e t := by
  intro i call row hr
  have hne : ∀ reply, (∀ status body, reply ≠ .sent status body) → e.process = some i →
      t.processes i ≠ .answered reply := by
    intro reply hreply he ht
    obtain ⟨-, hans, -⟩ := hA i call row hr he (by rw [ht]; exact nofun)
    rw [ht] at hans
    obtain ⟨payment, hp⟩ | hp := hans
    · cases hp
    · cases hp
      exact hreply _ _ rfl
  constructor
  · intro read observedAt he
    have hei : e.process = some i := by rw [he]; rfl
    obtain hcr | ⟨order, payment, observedAt', he', hcust, hpay, -⟩ | ⟨id, now, he', -⟩ |
      ⟨reply, ht, hreply, -⟩ := replay_cases hr h hei
    · cases he.symm.trans hcr.1
    · cases he.symm.trans he'
      exact ⟨order, payment, rfl, hcust, hpay⟩
    · cases he.symm.trans he'
    · exact absurd ht (hne reply hreply hei)
  · intro id now commit he
    have hei : e.process = some i := by rw [he]; rfl
    obtain hcr | ⟨order, payment, observedAt', he', -⟩ | ⟨id', now', he', -⟩ |
      ⟨reply, ht, hreply, -⟩ := replay_cases hr h hei
    · cases he.symm.trans hcr.1
    · cases he.symm.trans he'
    · cases he.symm.trans he'
      rfl
    · exact absurd ht (hne reply hreply hei)

namespace Sample

/-- The first request is submitted, and its refund empties the payment; the second is a replay. -/
def submitted : List Event :=
  arrives 0 fullRequest [] ++
    [.reserve 0 "execution-1" 0 .acknowledged, .callProvider 0,
      .providerAnswers 0 (some ⟨.submitted, some "refund-1"⟩), .record 0 1 .acknowledged,
      .receiveExecution 1 true (some access) (some fullRequest)]

def lateRead : Event :=
  .readOrder 1 (some (some (order [⟨"refund-1", "Pending", ⟨5000, "USD"⟩, []⟩])))
    "2026-01-01T00:00:05.000Z"

end Sample

end CSO.Gateway
