import CSO.Gateway.Provider

/-! What concurrent requests take from one payment. Eligibility is computed from a listing that
was read before the reservation and before the call. -/
namespace CSO.Gateway
open Transition (Machine)

variable {s t : State} {e : Event} {w w' : World} {we : WorldEvent} {i j : ℕ}
  {call : ExecutionCall} {payment : CommercePayment}

/-- The sum of the amounts passed to `executeRefund` for a payment. -/
def paidMinor (calls : List ProviderCall) (paymentId : String) : ℤ :=
  ((calls.filter fun c => c.input.paymentId = paymentId).map fun c =>
    c.input.amount.amountMinor).sum

theorem paidMinor_cons_self {c : ProviderCall} {paymentId : String}
    (h : c.input.paymentId = paymentId) (calls : List ProviderCall) :
    paidMinor (c :: calls) paymentId =
      c.input.amount.amountMinor + paidMinor calls paymentId := by
  simp [paidMinor, h]

theorem paidMinor_cons_of_ne {c : ProviderCall} {paymentId : String}
    (h : c.input.paymentId ≠ paymentId) (calls : List ProviderCall) :
    paidMinor (c :: calls) paymentId = paidMinor calls paymentId := by
  simp [paidMinor, h]

/-- The payment a request has found eligible and has not been refunded for yet. -/
def Process.held : Process → Option (ExecutionCall × CommercePayment)
  | .reserving call payment | .submitting call payment _ => some (call, payment)
  | _ => none

/-- A request holds the payment it held before, or the one it has just found eligible. -/
theorem State.held_origin (h : s.step e = some t)
    (hp : (t.processes j).held = some (call, payment)) :
    (s.processes j).held = some (call, payment) ∨
    ∃ order observedAt, e = .readOrder j (some (some order)) observedAt ∧
      s.processes j = .readingOrder call ∧
      eligiblePayment call.request order observedAt = some payment := by
  obtain ⟨-, heq⟩ | ⟨he, ha⟩ := process_cases h j
  · exact .inl (heq ▸ hp)
  · generalize hq : s.processes j = q at ha
    generalize ht : t.processes j = p at ha hp
    cases ha with
    | orderEligible hc =>
      cases he
      cases hp
      obtain ⟨order, rfl, -, hpay⟩ := checkRefundOrder_eq_ok.mp hc
      exact .inr ⟨order, _, rfl, rfl, hpay⟩
    | reserved hr => exact .inl hp
    | _ => cases hp

namespace World

/-- The payments of the provider under an identifier all have this amount. -/
def PaymentAmount (w : World) (paymentId : String) (amountMinor : ℤ) : Prop :=
  ∀ order ∈ w.orders, ∀ payment ∈ order.payments.getD [], payment.id = paymentId →
    payment.amount = amountMinor

/-- The listing a request is about to call on shows, as refunds that count, what the payment had
refunded at the start and the amount of every call made since. -/
def ListsCalls (paymentId : String) (refundedMinor : ℤ) (w : World) : WorldEvent → World → Prop
  | .gateway (.callProvider i), _ =>
    match w.gateway.processes i with
    | .submitting _ payment _ => payment.id = paymentId →
        refundedMinor + paidMinor w.gateway.calls paymentId ≤ consumedAmountMinor payment
    | _ => True
  | _, _ => True

/-- The provider's listing changes through calls of the gateway only. -/
def OnlyCalls (_ : World) (we : WorldEvent) (_ : World) : Prop := ∀ orders, we ≠ .evolve orders

/-- Requests hold payments of the amount the provider lists, and what they ask for is left. -/
structure Covered (paymentId : String) (amountMinor : ℤ) (w : World) : Prop where
  listed : w.PaymentAmount paymentId amountMinor
  held : ∀ i call payment, (w.gateway.processes i).held = some (call, payment) →
    payment.id = paymentId → payment.amount.amountMinor = amountMinor ∧
      call.request.amount.amountMinor ≤ amountMinor - consumedAmountMinor payment

/-- The provider lists the payment as it is wherever it lists its identifier. -/
def Identifies (w : World) (payment : CommercePayment) : Prop :=
  ∀ order ∈ w.orders, ∀ other ∈ (toCommerceOrder order).payments, other.id = payment.id →
    other = payment

theorem Identifies.paymentAmount (h : w.Identifies payment) :
    w.PaymentAmount payment.id payment.amount.amountMinor := by
  intro order hm p hp hid
  have heq := h order hm (toCommercePayment order.currencyCode p) (List.mem_map_of_mem hp) hid
  rw [← heq]
  rfl

theorem amount_of_listed {paymentId orderId : String} {amountMinor : ℤ} {order : CommerceOrder}
    (hl : w.PaymentAmount paymentId amountMinor)
    (ho : getOrderById w.orders orderId = some order) (hm : payment ∈ order.payments)
    (hid : payment.id = paymentId) : payment.amount.amountMinor = amountMinor := by
  obtain ⟨vendure, hfind, rfl⟩ := Option.map_eq_some_iff.mp ho
  obtain ⟨p, hp, rfl⟩ := List.mem_map.mp hm
  exact hl vendure (List.mem_of_find?_eq_some hfind) p hp hid

theorem paymentAmount_addRefund {paymentId target : String} {amountMinor : ℤ}
    {refund : VendureRefund} (hl : w.PaymentAmount paymentId amountMinor)
    (ho : w'.orders = w.orders.map (VendureOrder.addRefund target refund)) :
    w'.PaymentAmount paymentId amountMinor := by
  intro order hm payment hp hid
  rw [ho] at hm
  obtain ⟨order₀, hm₀, rfl⟩ := List.mem_map.mp hm
  cases hpay : order₀.payments with
  | none => simp [VendureOrder.addRefund, hpay] at hp
  | some payments =>
    simp only [VendureOrder.addRefund, hpay, Option.map_some, Option.getD_some] at hp
    obtain ⟨payment₀, hp₀, rfl⟩ := List.mem_map.mp hp
    have hamount := hl order₀ hm₀ payment₀ (by simpa [hpay] using hp₀)
    unfold VendurePayment.addRefund at hid ⊢
    split_ifs at hid ⊢
    · exact hamount hid
    · exact hamount hid

theorem covered_step {paymentId : String} {amountMinor : ℤ} (hc : w.Covered paymentId amountMinor)
    (h : w.step we = some w') (ho : OnlyCalls w we w') : w'.Covered paymentId amountMinor := by
  cases we with
  | evolve orders => exact absurd rfl (ho orders)
  | createRefund call refundId state =>
    obtain ⟨-, hg, horders, -⟩ := createRefund_step h
    refine ⟨paymentAmount_addRefund hc.listed horders, ?_⟩
    rw [hg]
    exact hc.held
  | gateway e =>
    obtain ⟨ht, hg, horders, -⟩ := gateway_step h
    refine ⟨?_, ?_⟩
    · unfold PaymentAmount
      rw [horders]
      exact hc.listed
    · intro i call payment hp hid
      obtain hs | ⟨order, observedAt, rfl, hs, hpay⟩ := State.held_origin hg hp
      · exact hc.held i call payment hs hid
      · have hread : some order = getOrderById w.orders call.request.orderId := by
          simpa [truthful, hs] using ht
        obtain ⟨hsettled, -, hle⟩ := eligiblePayment_eq_some hpay
        have hamount := amount_of_listed hc.listed hread.symm (settledPayment_settled hsettled).1 hid
        exact ⟨hamount, hamount ▸ hle⟩

theorem paid_step {paymentId : String} {amountMinor refundedMinor : ℤ}
    (hc : w.Covered paymentId amountMinor)
    (hp : paidMinor w.gateway.calls paymentId ≤ max (amountMinor - refundedMinor) 0)
    (h : w.step we = some w') (hl : ListsCalls paymentId refundedMinor w we w') :
    paidMinor w'.gateway.calls paymentId ≤ max (amountMinor - refundedMinor) 0 := by
  cases we with
  | evolve orders =>
    rw [(evolve_step h).2.1]
    exact hp
  | createRefund call refundId state =>
    rw [(createRefund_step h).2.1]
    exact hp
  | gateway e =>
    obtain ⟨-, hg, -, -⟩ := gateway_step h
    obtain heq | ⟨i, call, payment, id, rfl, hs, heq⟩ := State.calls_cases hg
    · rw [heq]
      exact hp
    · rw [heq]
      by_cases hid : payment.id = paymentId
      · obtain ⟨-, hle⟩ := hc.held i call payment (by rw [hs]; rfl) hid
        simp only [ListsCalls, hs] at hl
        have hlisted := hl hid
        have hsum : paidMinor (⟨id, call, providerInput call.request payment⟩ ::
            w.gateway.calls) paymentId =
              call.request.amount.amountMinor + paidMinor w.gateway.calls paymentId :=
          paidMinor_cons_self hid _
        rw [hsum]
        exact le_max_of_le_left (by omega)
      · rw [paidMinor_cons_of_ne hid]
        exact hp

end World

/-- Requests that call on a listing of every earlier call never take more from a payment than
was left of it. -/
theorem calls_within_balance {w₀ w : World} {es : List WorldEvent} {payment : CommercePayment}
    (h₀ : w₀.Starting) (hid : w₀.Identifies payment) (honly : world.Along World.OnlyCalls w₀ es)
    (hl : world.Along (World.ListsCalls payment.id (consumedAmountMinor payment)) w₀ es)
    (hrun : world.run w₀ es = some w) :
    paidMinor w.gateway.calls payment.id ≤
      max (payment.amount.amountMinor - consumedAmountMinor payment) 0 := by
  have hstart : w₀.Covered payment.id payment.amount.amountMinor ∧
      paidMinor w₀.gateway.calls payment.id ≤
        max (payment.amount.amountMinor - consumedAmountMinor payment) 0 := by
    refine ⟨⟨hid.paymentAmount, ?_⟩, ?_⟩
    · intro i call payment hheld
      rw [h₀.gateway.1] at hheld
      cases hheld
    · rw [h₀.gateway.2]
      exact le_max_right _ _
  have hstep : ∀ v we v', (v.Covered payment.id payment.amount.amountMinor ∧
      paidMinor v.gateway.calls payment.id ≤
        max (payment.amount.amountMinor - consumedAmountMinor payment) 0) →
      world.step v we = some v' →
      (World.OnlyCalls v we v' ∧
        World.ListsCalls payment.id (consumedAmountMinor payment) v we v') →
      v'.Covered payment.id payment.amount.amountMinor ∧
        paidMinor v'.gateway.calls payment.id ≤
          max (payment.amount.amountMinor - consumedAmountMinor payment) 0 := by
    rintro v we v' ⟨hc, hpaid⟩ h ⟨ho, hl⟩
    exact ⟨World.covered_step hc h ho, World.paid_step hc hpaid h hl⟩
  exact (Machine.run_invariant_along hstep hstart (Machine.along_and.mpr ⟨honly, hl⟩) hrun).2

namespace Sample

/-- A request of another workflow for the whole order. -/
def otherRequest : RefundExecutionRequest :=
  { fullRequest with idempotencyKey := "refund:refund-2:preview-2", previewId := "preview-2" }

/-- The second request reads the order after the refund of the first has been made. -/
def sequential : List WorldEvent :=
  (reserves 0 request "execution-1" [] ++ calls 0) ++
    ((submits 0 request "execution-1" "refund-1" ++
      reserves 1 { otherRequest with amount := ⟨3000, "USD"⟩ } "execution-2"
        [⟨"refund-1", "Pending", 2000, []⟩]) ++ calls 1)

/-- Both requests read the order before either calls. -/
def concurrent : List WorldEvent :=
  reserves 0 fullRequest "execution-1" [] ++ reserves 1 otherRequest "execution-2" [] ++
    calls 0 ++ calls 1

def listedPayment : CommercePayment := ⟨"payment-1", "Settled", ⟨5000, "USD"⟩, []⟩

end Sample

theorem sequential_within_balance :
    ∃ w, world.run (Sample.worldOf []) Sample.sequential = some w ∧ w.gateway.calls.length = 2 ∧
      paidMinor w.gateway.calls Sample.listedPayment.id ≤
        max (Sample.listedPayment.amount.amountMinor - consumedAmountMinor Sample.listedPayment) 0 := by
  obtain ⟨w, hrun, hlen⟩ : ∃ w, world.run (Sample.worldOf []) Sample.sequential = some w ∧
      w.gateway.calls.length = 2 := ⟨_, rfl, rfl⟩
  have hstart := Sample.worldOf_starting []
  have hid : (Sample.worldOf []).Identifies Sample.listedPayment := by
    intro order hm other ho _
    rw [List.mem_singleton.mp hm] at ho
    exact List.mem_singleton.mp ho
  have honly : world.Along World.OnlyCalls (Sample.worldOf []) Sample.sequential := by
    apply Machine.along_of_forall
    simp [Sample.sequential, Sample.reserves, Sample.calls, Sample.submits, World.OnlyCalls]
  have hl : world.Along (World.ListsCalls Sample.listedPayment.id (consumedAmountMinor Sample.listedPayment))
      (Sample.worldOf []) Sample.sequential := by
    refine (Machine.along_append rfl).mpr ⟨(Machine.along_append rfl).mpr ⟨?_, ?_⟩,
      (Machine.along_append rfl).mpr ⟨?_, ?_⟩⟩
    · apply Machine.along_of_forall
      simp [Sample.reserves, World.ListsCalls]
    · exact (Machine.along_cons_of_step rfl).mpr ⟨fun _ => by decide, trivial⟩
    · apply Machine.along_of_forall
      simp [Sample.reserves, Sample.submits, World.ListsCalls]
    · exact (Machine.along_cons_of_step rfl).mpr ⟨fun _ => by decide, trivial⟩
  exact ⟨w, hrun, hlen, calls_within_balance hstart hid honly hl hrun⟩

theorem concurrent_over_refund :
    ∃ w, world.run (Sample.worldOf []) Sample.concurrent = some w ∧
      world.Along World.OnlyCalls (Sample.worldOf []) Sample.concurrent ∧
      (w.gateway.calls.map ProviderCall.key).Nodup ∧
      ¬ paidMinor w.gateway.calls Sample.listedPayment.id ≤
        max (Sample.listedPayment.amount.amountMinor - consumedAmountMinor Sample.listedPayment) 0 := by
  refine ⟨_, rfl, ?_, by decide, by decide⟩
  apply Machine.along_of_forall
  simp [Sample.concurrent, Sample.reserves, Sample.calls, World.OnlyCalls]

end CSO.Gateway
