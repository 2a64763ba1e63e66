import CSO.Commerce

/-! The refund context: which amount of an order can still be refunded for a selection. -/
namespace CSO

structure RefundFacts where
  customerVerified : Bool
  transactionRefundable : Bool
  itemSelectionValid : Bool
  priorRefundCount : ℕ
  refundableAmount : Money
  refundDestination : String
  deriving DecidableEq, Repr

structure RefundContextSource where
  provider : String
  orderId : String
  factsVersion : String
  deriving DecidableEq, Repr

structure RefundContext where
  observationId : String
  observedAt : String
  source : RefundContextSource
  selection : RefundSelection
  facts : RefundFacts
  deriving DecidableEq, Repr

namespace Gateway
open JS (Json)

structure ObservationMetadata where
  observationId : String
  observedAt : String

def refundConsumesBalance (status : String) : Bool :=
  let normalizedStatus := JS.toUpperCase status
  normalizedStatus != "FAILED" && normalizedStatus != "CANCELLED"

/-- The settled payment, when there is exactly one. -/
def settledPayment (order : CommerceOrder) : Option CommercePayment :=
  match order.payments.filter CommercePayment.settled with
  | [payment] => some payment
  | _ => none

/-- The refunds that have neither failed nor been cancelled. -/
def priorRefunds (payment : CommercePayment) : List CommerceRefund :=
  payment.refunds.filter fun refund => refundConsumesBalance refund.status

def consumedAmountMinor (payment : CommercePayment) : ℤ :=
  ((priorRefunds payment).map fun refund => refund.amount.amountMinor).sum

def remainingPaymentAmountMinor (order : CommerceOrder) : ℤ :=
  match settledPayment order with
  | some payment => max (payment.amount.amountMinor - consumedAmountMinor payment) 0
  | none => 0

def selectedItems (order : CommerceOrder) (selection : RefundSelection) :
    List (Option CommerceItem) :=
  selection.itemIds.map fun itemId => order.items.find? fun item => item.id == itemId

def selectedItemTotalMinor (order : CommerceOrder) (selection : RefundSelection) : ℤ :=
  ((selectedItems order selection).map fun item =>
    (item.map fun item => item.lineTotal.amountMinor).getD 0).sum

def selectedItemWasRefunded (order : CommerceOrder) (selection : RefundSelection) : Bool :=
  match settledPayment order with
  | some payment => payment.refunds.any fun refund =>
      refundConsumesBalance refund.status &&
        refund.lineIds.any fun lineId => selection.itemIds.contains lineId
  | none => false

def itemSelectionValid (order : CommerceOrder) (selection : RefundSelection) : Bool :=
  selection.scope == .fullOrder ||
    ((selectedItems order selection).all Option.isSome && !selectedItemWasRefunded order selection)

def selectedMaximumMinor (order : CommerceOrder) (selection : RefundSelection) : ℤ :=
  match selection.scope with
  | .fullOrder => remainingPaymentAmountMinor order
  | .selectedItems =>
      min (selectedItemTotalMinor order selection) (remainingPaymentAmountMinor order)

def refundFacts (order : CommerceOrder) (selection : RefundSelection) : RefundFacts where
  customerVerified := true
  transactionRefundable :=
    !order.active && (settledPayment order).isSome && 0 < remainingPaymentAmountMinor order
  itemSelectionValid := itemSelectionValid order selection
  priorRefundCount := ((settledPayment order).elim [] priorRefunds).length
  refundableAmount :=
    { amountMinor :=
        if itemSelectionValid order selection then selectedMaximumMinor order selection else 0
      currency := order.total.currency }
  refundDestination := "ORIGINAL_PAYMENT_METHOD"

def moneyJson (money : Money) : Json :=
  .obj [("amountMinor", .num money.amountMinor), ("currency", .str money.currency)]

/-- The object whose digest is the version of the facts. -/
def factsJson (order : CommerceOrder) (selection : RefundSelection) : Json :=
  let facts := refundFacts order selection
  .obj [
    ("source", .obj [("provider", .str order.source.provider), ("orderId", .str order.source.orderId)]),
    ("selection", .obj [("scope", .str selection.scope.text),
      ("itemIds", .arr (selection.itemIds.map .str))]),
    ("payment", (settledPayment order).elim .null fun payment => .obj [
      ("paymentId", .str payment.id),
      ("status", .str payment.status),
      ("amount", moneyJson payment.amount),
      ("refunds", .arr (payment.refunds.map fun refund => .obj [
        ("refundId", .str refund.id),
        ("status", .str refund.status),
        ("amount", moneyJson refund.amount),
        ("lineIds", .arr (refund.lineIds.map .str))]))]),
    ("facts", .obj [
      ("customerVerified", .bool facts.customerVerified),
      ("transactionRefundable", .bool facts.transactionRefundable),
      ("itemSelectionValid", .bool facts.itemSelectionValid),
      ("priorRefundCount", .num facts.priorRefundCount),
      ("refundableAmount", moneyJson facts.refundableAmount),
      ("refundDestination", .str facts.refundDestination)])]

def toRefundContext (order : CommerceOrder) (selection : RefundSelection)
    (metadata : ObservationMetadata) : RefundContext where
  observationId := metadata.observationId
  observedAt := metadata.observedAt
  source :=
    { provider := order.source.provider
      orderId := order.source.orderId
      factsVersion := "sha256:" ++ JS.Sha256.hex (factsJson order selection).stringify }
  selection := selection
  facts := refundFacts order selection

@[simp] theorem toRefundContext_facts (order : CommerceOrder) (selection : RefundSelection)
    (metadata : ObservationMetadata) :
    (toRefundContext order selection metadata).facts = refundFacts order selection := rfl

theorem settledPayment_settled {order : CommerceOrder} {payment : CommercePayment}
    (h : settledPayment order = some payment) :
    payment ∈ order.payments ∧ payment.settled = true := by
  unfold settledPayment at h
  split at h
  · rename_i p hp
    have hmem : p ∈ order.payments.filter CommercePayment.settled := by simp [hp]
    rw [← Option.some.inj h]
    exact List.mem_filter.mp hmem
  · cases h

/-- The payment the execution route picks is the one whose balance the context reports. -/
theorem find_settled {order : CommerceOrder} {payment : CommercePayment}
    (h : settledPayment order = some payment) :
    order.payments.find? CommercePayment.settled = some payment := by
  unfold settledPayment at h
  split at h
  · rename_i p hp
    rw [← List.head?_filter, hp]
    exact h
  · cases h

theorem remaining_pos {order : CommerceOrder} (h : 0 < remainingPaymentAmountMinor order) :
    ∃ payment, settledPayment order = some payment ∧
      remainingPaymentAmountMinor order =
        payment.amount.amountMinor - consumedAmountMinor payment := by
  unfold remainingPaymentAmountMinor at h ⊢
  cases hp : settledPayment order with
  | none => simp [hp] at h
  | some payment =>
    simp only [hp] at h ⊢
    exact ⟨payment, rfl, by omega⟩

theorem refundable_le_remaining (order : CommerceOrder) (selection : RefundSelection)
    (h : (refundFacts order selection).itemSelectionValid = true) :
    (refundFacts order selection).refundableAmount.amountMinor ≤
      remainingPaymentAmountMinor order := by
  have hv : itemSelectionValid order selection = true := h
  simp only [refundFacts, hv, if_true, selectedMaximumMinor]
  cases selection.scope with
  | fullOrder => exact le_refl _
  | selectedItems => exact min_le_right _ _

end Gateway
end CSO
