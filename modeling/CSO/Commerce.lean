import CSO.JS.Text
import Mathlib.Tactic

/-! Orders, payments and refunds as the commerce provider reports them. -/
namespace CSO

structure Money where
  amountMinor : ℤ
  currency : String
  deriving DecidableEq, Repr

inductive SelectionScope
  | fullOrder
  | selectedItems
  deriving DecidableEq, Repr

def SelectionScope.text : SelectionScope → String
  | .fullOrder => "FULL_ORDER"
  | .selectedItems => "SELECTED_ITEMS"

structure RefundSelection where
  scope : SelectionScope
  itemIds : List String
  deriving DecidableEq, Repr

structure CommerceRefund where
  id : String
  status : String
  amount : Money
  lineIds : List String
  deriving DecidableEq, Repr

structure CommercePayment where
  id : String
  status : String
  amount : Money
  refunds : List CommerceRefund
  deriving DecidableEq, Repr

structure CommerceItem where
  id : String
  lineTotal : Money
  deriving DecidableEq, Repr

structure OrderSource where
  provider : String
  orderId : String
  deriving DecidableEq, Repr

/-- `customer` is the identifier of the order's customer, if it has one. -/
structure CommerceOrder where
  source : OrderSource
  active : Bool
  customer : Option String
  total : Money
  items : List CommerceItem
  payments : List CommercePayment
  deriving DecidableEq, Repr

inductive ProviderRefundStatus
  | submitted
  | succeeded
  | failed
  deriving DecidableEq, Repr

structure ProviderRefundResult where
  status : ProviderRefundStatus
  providerRefundId : Option String
  deriving DecidableEq, Repr

/-- The input of `CommerceProvider.executeRefund`. -/
structure ProviderRefundInput where
  paymentId : String
  amount : Money
  reason : String
  deriving DecidableEq, Repr

/-- All refunds of an order, payment by payment. -/
def CommerceOrder.refunds (order : CommerceOrder) : List CommerceRefund :=
  order.payments.flatMap CommercePayment.refunds

def CommercePayment.settled (payment : CommercePayment) : Bool :=
  JS.toUpperCase payment.status == "SETTLED"

end CSO
