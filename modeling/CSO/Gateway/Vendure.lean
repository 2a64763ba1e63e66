import CSO.Commerce

/-! The Vendure admin API: orders as it returns them, and the refund mutation. -/
namespace CSO.Gateway

structure VendureRefund where
  id : String
  state : String
  total : ℤ
  lines : List String
  deriving DecidableEq, Repr

structure VendurePayment where
  id : String
  state : String
  amount : ℤ
  refunds : Option (List VendureRefund)
  deriving DecidableEq, Repr

structure VendureOrderLine where
  id : String
  linePriceWithTax : ℤ
  deriving DecidableEq, Repr

structure VendureOrder where
  id : String
  active : Bool
  currencyCode : String
  totalWithTax : ℤ
  customer : Option String
  lines : List VendureOrderLine
  payments : Option (List VendurePayment)
  deriving DecidableEq, Repr

def toCommerceRefund (currency : String) (refund : VendureRefund) : CommerceRefund where
  id := refund.id
  status := refund.state
  amount := { amountMinor := refund.total, currency := currency }
  lineIds := refund.lines

def toCommercePayment (currency : String) (payment : VendurePayment) : CommercePayment where
  id := payment.id
  status := payment.state
  amount := { amountMinor := payment.amount, currency := currency }
  refunds := (payment.refunds.getD []).map (toCommerceRefund currency)

def toCommerceOrder (order : VendureOrder) : CommerceOrder where
  source := { provider := "vendure", orderId := order.id }
  active := order.active
  customer := order.customer
  total := { amountMinor := order.totalWithTax, currency := order.currencyCode }
  items := order.lines.map fun line =>
    { id := line.id
      lineTotal := { amountMinor := line.linePriceWithTax, currency := order.currencyCode } }
  payments := (order.payments.getD []).map (toCommercePayment order.currencyCode)

/-- The `RefundOrderInput` variables. The API also takes the refunded order lines. -/
structure RefundOrderInput where
  paymentId : String
  amount : ℤ
  reason : String
  lines : Option (List String)
  deriving DecidableEq, Repr

def refundOrderInput (input : ProviderRefundInput) : RefundOrderInput where
  paymentId := input.paymentId
  amount := input.amount.amountMinor
  reason := input.reason
  lines := none

/-- The `refundOrder` field of a mutation's answer. -/
structure RefundOrderResult where
  typename : String
  id : Option String
  deriving DecidableEq, Repr

structure RefundOrderPayload where
  data : Option RefundOrderResult
  errors : List String
  deriving DecidableEq, Repr

/-- A response whose body is not a payload of the expected shape has none. -/
structure RefundOrderResponse where
  status : ℕ
  payload : Option RefundOrderPayload
  deriving DecidableEq, Repr

/-- The rest of `executeRefund` once `fetch` has settled; `none` is a thrown error. -/
def executeRefund (response : Option RefundOrderResponse) : Option ProviderRefundResult := do
  let response ← response
  guard (200 ≤ response.status ∧ response.status < 300)
  let payload ← response.payload
  guard payload.errors.isEmpty
  let result ← payload.data
  if result.typename ≠ "Refund" then
    return { status := .failed, providerRefundId := none }
  return { status := .submitted, providerRefundId := result.id }

/-- Vendure never reports a refund as made while it answers the mutation. -/
theorem executeRefund_ne_succeeded {response : Option RefundOrderResponse}
    {result : ProviderRefundResult} (h : executeRefund response = some result) :
    result.status ≠ .succeeded := by
  unfold executeRefund at h
  simp only [Option.bind_eq_bind, Option.bind_eq_some_iff] at h
  obtain ⟨_, _, _, _, _, _, _, _, data, _, hr⟩ := h
  by_cases ht : data.typename = "Refund"
  · rw [if_neg (not_not.mpr ht)] at hr
    cases hr
    exact nofun
  · rw [if_pos ht] at hr
    cases hr
    exact nofun

end CSO.Gateway
