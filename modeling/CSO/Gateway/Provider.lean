import CSO.Gateway.Idempotency
import CSO.Gateway.Vendure

/-! The gateway together with its provider. The provider records on a refund what the mutation
of the call carries; everything else about its orders may change between two requests. -/
namespace CSO.Gateway
open Transition (Machine Refinement)

/-- A refund the provider has made for a call. -/
structure Creation where
  refundId : String
  call : ProviderCall
  deriving DecidableEq, Repr

def Creation.executionId (creation : Creation) : String := creation.call.executionId

structure World where
  gateway : State
  orders : List VendureOrder
  created : List Creation

def VendureOrder.refunds (order : VendureOrder) : List VendureRefund :=
  (order.payments.getD []).flatMap fun payment => payment.refunds.getD []

/-- The refund that a mutation makes. -/
def refundOf (input : RefundOrderInput) (id state : String) : VendureRefund where
  id := id
  state := state
  total := input.amount
  lines := input.lines.getD []

def VendurePayment.addRefund (paymentId : String) (refund : VendureRefund)
    (payment : VendurePayment) : VendurePayment :=
  if payment.id = paymentId then
    { payment with refunds := some (payment.refunds.getD [] ++ [refund]) }
  else payment

def VendureOrder.addRefund (paymentId : String) (refund : VendureRefund) (order : VendureOrder) :
    VendureOrder :=
  { order with
    payments := order.payments.map fun payments =>
      payments.map (VendurePayment.addRefund paymentId refund) }

def getOrderById (orders : List VendureOrder) (orderId : String) : Option CommerceOrder :=
  (orders.find? fun order => order.id = orderId).map toCommerceOrder

/-- Refunds made for calls of the gateway carry what the mutation carried. -/
def Recorded (orders : List VendureOrder) (created : List Creation) : Prop :=
  ∀ order ∈ orders, ∀ refund ∈ order.refunds, ∀ creation ∈ created,
    refund.id = creation.refundId →
      refund = refundOf (refundOrderInput creation.call.input) refund.id refund.state

instance (orders : List VendureOrder) (created : List Creation) :
    Decidable (Recorded orders created) :=
  inferInstanceAs (Decidable (∀ order ∈ orders, ∀ refund ∈ order.refunds, ∀ creation ∈ created,
    refund.id = creation.refundId →
      refund = refundOf (refundOrderInput creation.call.input) refund.id refund.state))

inductive WorldEvent
  | gateway (e : Event)
  | createRefund (call : ProviderCall) (refundId state : String)
  | evolve (orders : List VendureOrder)

namespace World

/-- The refund was made for a call of the execution. -/
def Created (w : World) (refundId executionId : String) : Prop :=
  ∃ creation ∈ w.created, creation.refundId = refundId ∧ creation.executionId = executionId

instance (w : World) (refundId executionId : String) : Decidable (w.Created refundId executionId) :=
  inferInstanceAs (Decidable (∃ creation ∈ w.created, _ ∧ _))

/-- What an event reports of the provider is true of it: an order is the current one, and a
refund returned for a call was made for it. -/
def truthful (w : World) : Event → Bool
  | .readOrder i (some order) _ =>
    match w.gateway.processes i with
    | .readingOrder call => order = getOrderById w.orders call.request.orderId
    | _ => true
  | .readRefunds i (some order) =>
    match w.gateway.processes i with
    | .readingRefunds call => order = getOrderById w.orders call.request.orderId
    | _ => true
  | .providerAnswers i (some result) =>
    match w.gateway.processes i, result.providerRefundId with
    | .awaitingProvider _ executionId, some refundId => w.Created refundId executionId
    | _, _ => true
  | _ => true

/-- The provider makes one refund for a call, under an identifier it has not used. -/
def Creates (w : World) (call : ProviderCall) (refundId : String) : Prop :=
  call ∈ w.gateway.calls ∧
  (∀ creation ∈ w.created,
    creation.refundId ≠ refundId ∧ creation.executionId ≠ call.executionId) ∧
  ∀ order ∈ w.orders, ∀ refund ∈ order.refunds, refund.id ≠ refundId

instance (w : World) (call : ProviderCall) (refundId : String) :
    Decidable (w.Creates call refundId) :=
  inferInstanceAs (Decidable (_ ∧ _ ∧ _))

def step (w : World) : WorldEvent → Option World
  | .gateway e =>
    if w.truthful e then (w.gateway.step e).map fun gateway => { w with gateway } else none
  | .createRefund call refundId state =>
    if w.Creates call refundId then
      some { w with
        orders := w.orders.map (VendureOrder.addRefund call.input.paymentId
          (refundOf (refundOrderInput call.input) refundId state))
        created := ⟨refundId, call⟩ :: w.created }
    else none
  | .evolve orders => if Recorded orders w.created then some { w with orders } else none

end World

def world : Machine World WorldEvent := ⟨World.step⟩

namespace World
variable {w w' : World} {e : Event} {we : WorldEvent}

theorem gateway_step (h : w.step (.gateway e) = some w') :
    w.truthful e = true ∧ w.gateway.step e = some w'.gateway ∧ w'.orders = w.orders ∧
      w'.created = w.created := by
  simp only [step] at h
  split_ifs at h with ht
  obtain ⟨g, hg, rfl⟩ := Option.map_eq_some_iff.mp h
  exact ⟨ht, hg, rfl, rfl⟩

theorem createRefund_step {call : ProviderCall} {refundId state : String}
    (h : w.step (.createRefund call refundId state) = some w') :
    w.Creates call refundId ∧ w'.gateway = w.gateway ∧
      w'.orders = w.orders.map (VendureOrder.addRefund call.input.paymentId
        (refundOf (refundOrderInput call.input) refundId state)) ∧
      w'.created = ⟨refundId, call⟩ :: w.created := by
  simp only [step] at h
  split_ifs at h with hc
  cases h
  exact ⟨hc, rfl, rfl, rfl⟩

theorem evolve_step {orders : List VendureOrder} (h : w.step (.evolve orders) = some w') :
    Recorded orders w.created ∧ w'.gateway = w.gateway ∧ w'.orders = orders ∧
      w'.created = w.created := by
  simp only [step] at h
  split_ifs at h with hr
  cases h
  exact ⟨hr, rfl, rfl, rfl⟩

/-- Forgetting the provider leaves a run of the gateway. -/
def refinement : Refinement world machine where
  abs := World.gateway
  label _ we := match we with
    | .gateway e => [e]
    | _ => []
  step w we w' h := by
    change w.step we = some w' at h
    cases we with
    | gateway e => exact Machine.run_singleton.mpr (gateway_step h).2.1
    | createRefund call refundId state =>
      obtain ⟨-, hg, -, -⟩ := createRefund_step h
      exact congrArg some hg.symm
    | evolve orders =>
      obtain ⟨-, hg, -, -⟩ := evolve_step h
      exact congrArg some hg.symm

/-- The gateway starts; refunds it has made before keep what was recorded on them. -/
structure Starting (w : World) : Prop where
  gateway : Gateway.Starting w.gateway
  recorded : Recorded w.orders w.created
  refundIds : (w.created.map Creation.refundId).Nodup
  executionIds : (w.created.map Creation.executionId).Nodup

theorem starting_of_nil (hg : Gateway.Starting w.gateway) (hc : w.created = []) :
    w.Starting := by
  refine ⟨hg, ?_, ?_, ?_⟩
  · rw [hc]
    intro order _ refund _ creation hm
    cases hm
  · rw [hc]
    exact List.nodup_nil
  · rw [hc]
    exact List.nodup_nil

theorem reserved_reachable (h : world.Reachable World.Starting w) : w.gateway.Reserved :=
  State.reserved_reachable (refinement.reachable (fun _ hs => hs.gateway) h)

end World

namespace Sample

def vendureOrder (refunds : List VendureRefund) : VendureOrder where
  id := "order-1"
  active := false
  currencyCode := "USD"
  totalWithTax := 5000
  customer := some "customer-1"
  lines := [⟨"line-1", 2000⟩, ⟨"line-2", 3000⟩]
  payments := some [⟨"payment-1", "Settled", 5000, some refunds⟩]

/-- Nothing has been requested yet of the gateway; the order has these refunds. -/
def worldOf (refunds : List VendureRefund) : World := ⟨.initial, [vendureOrder refunds], []⟩

def providerCall (request : RefundExecutionRequest) (executionId : String) : ProviderCall :=
  ⟨executionId, ⟨access, request⟩, ⟨"payment-1", request.amount, request.reasonCode⟩⟩

theorem worldOf_starting (refunds : List VendureRefund) : (worldOf refunds).Starting :=
  World.starting_of_nil ⟨fun _ => rfl, rfl⟩ rfl

/-- The request reads the order and reserves its execution. -/
def reserves (i : ℕ) (request : RefundExecutionRequest) (executionId : String)
    (refunds : List VendureRefund) : List WorldEvent :=
  [.gateway (.receiveExecution i true (some access) (some request)),
    .gateway (.readOrder i (some (some (toCommerceOrder (vendureOrder refunds))))
      "2026-01-01T00:00:00.000Z"),
    .gateway (.reserve i executionId 0 .acknowledged)]

def calls (i : ℕ) : List WorldEvent := [.gateway (.callProvider i)]

/-- The provider makes a refund for the call and the route records it. -/
def submits (i : ℕ) (request : RefundExecutionRequest) (executionId refundId : String) :
    List WorldEvent :=
  [.createRefund (providerCall request executionId) refundId "Pending",
    .gateway (.providerAnswers i (some ⟨.submitted, some refundId⟩)),
    .gateway (.record i 1 .acknowledged)]

def reconciliation : RefundReconciliationRequest := ⟨"order-1", "preview-1", ⟨2000, "USD"⟩⟩

end Sample

end CSO.Gateway
