import CSO.Gateway.RefundContext

/-! The refundable amount against what was bought and what is left. -/
namespace CSO.Gateway

/-- No amount that the context reads is negative. -/
structure NonNegative (order : CommerceOrder) : Prop where
  items : ∀ item ∈ order.items, 0 ≤ item.lineTotal.amountMinor
  payments : ∀ payment ∈ order.payments, 0 ≤ payment.amount.amountMinor
  refunds : ∀ refund ∈ order.refunds, 0 ≤ refund.amount.amountMinor

/-- The settled payment without the refunds that have neither failed nor been cancelled. -/
def paymentBalance (order : CommerceOrder) : ℤ :=
  match settledPayment order with
  | some payment => payment.amount.amountMinor - consumedAmountMinor payment
  | none => 0

/-- The line total of an item, nothing for an unknown one. -/
def lineTotalMinor (order : CommerceOrder) (itemId : String) : ℤ :=
  ((order.items.find? fun item => item.id == itemId).map fun item =>
    item.lineTotal.amountMinor).getD 0

/-- The line totals of the selected items, each counted once. -/
def distinctItemTotalMinor (order : CommerceOrder) (selection : RefundSelection) : ℤ :=
  (selection.itemIds.dedup.map (lineTotalMinor order)).sum

def refundableMinor (order : CommerceOrder) (selection : RefundSelection) : ℤ :=
  (refundFacts order selection).refundableAmount.amountMinor

/-- The reported amount is bounded by what is left of the payment and by what was selected. -/
def Covered (order : CommerceOrder) (context : RefundContext) : Prop :=
  0 ≤ context.facts.refundableAmount.amountMinor ∧
    context.facts.refundableAmount.amountMinor ≤ paymentBalance order ∧
    (context.selection.scope = .selectedItems →
      context.facts.refundableAmount.amountMinor ≤
        distinctItemTotalMinor order context.selection)

/-- An item that is selected more than once has no price. -/
def RepeatsNothing (order : CommerceOrder) (selection : RefundSelection) : Prop :=
  ∀ itemId, 1 < selection.itemIds.count itemId → lineTotalMinor order itemId = 0

variable {order : CommerceOrder} {selection : RefundSelection} {ids : List String}
  {f : String → ℤ}

/-! Sums over a list with repetitions. -/

theorem sum_nonneg (hf : ∀ id, 0 ≤ f id) (ids : List String) : 0 ≤ (ids.map f).sum := by
  induction ids with
  | nil => exact le_refl 0
  | cons id ids ih =>
    rw [List.map_cons, List.sum_cons]
    exact add_nonneg (hf id) ih

theorem sum_dedup_le (hf : ∀ id, 0 ≤ f id) (ids : List String) :
    (ids.dedup.map f).sum ≤ (ids.map f).sum := by
  induction ids with
  | nil => exact le_refl _
  | cons id ids ih =>
    rw [List.map_cons, List.sum_cons]
    by_cases hmem : id ∈ ids
    · rw [List.dedup_cons_of_mem hmem]
      have hid := hf id
      omega
    · rw [List.dedup_cons_of_notMem hmem, List.map_cons, List.sum_cons]
      omega

/-- Counting each once loses nothing exactly when only what counts nothing is repeated. -/
theorem sum_dedup_eq (hf : ∀ id, 0 ≤ f id) (ids : List String) :
    (ids.dedup.map f).sum = (ids.map f).sum ↔ ∀ id, 1 < ids.count id → f id = 0 := by
  induction ids with
  | nil => simp
  | cons id ids ih =>
    have hle := sum_dedup_le hf ids
    have hid := hf id
    rw [List.map_cons, List.sum_cons]
    by_cases hmem : id ∈ ids
    · have hcount : 0 < ids.count id := List.count_pos_iff.mpr hmem
      rw [List.dedup_cons_of_mem hmem]
      constructor
      · intro heq other hother
        have hzero : f id = 0 := by omega
        by_cases hsame : id = other
        · exact hsame ▸ hzero
        · rw [List.count_cons_of_ne hsame] at hother
          exact ih.mp (by omega) other hother
      · intro hall
        have hzero : f id = 0 := hall id (by rw [List.count_cons_self]; omega)
        have hrest := ih.mpr fun other hother => hall other (by
          rw [List.count_cons]
          omega)
        omega
    · have hcount : ids.count id = 0 := List.count_eq_zero.mpr hmem
      rw [List.dedup_cons_of_notMem hmem, List.map_cons, List.sum_cons, add_right_inj, ih]
      refine forall_congr' fun other => ?_
      by_cases hsame : id = other
      · subst hsame
        rw [List.count_cons_self, hcount]
        simp
      · rw [List.count_cons_of_ne hsame]

/-! The amount. -/

theorem selectedItemTotalMinor_eq (order : CommerceOrder) (selection : RefundSelection) :
    selectedItemTotalMinor order selection =
      (selection.itemIds.map (lineTotalMinor order)).sum := by
  unfold selectedItemTotalMinor selectedItems lineTotalMinor
  rw [List.map_map]
  rfl

theorem lineTotalMinor_nonneg (h : NonNegative order) (itemId : String) :
    0 ≤ lineTotalMinor order itemId := by
  unfold lineTotalMinor
  cases hfind : order.items.find? fun item => item.id == itemId with
  | none => exact le_refl 0
  | some item => exact h.items item (List.mem_of_find?_eq_some hfind)

theorem remaining_eq (order : CommerceOrder) :
    remainingPaymentAmountMinor order = max (paymentBalance order) 0 := by
  unfold remainingPaymentAmountMinor paymentBalance
  cases settledPayment order with
  | none => rfl
  | some payment => rfl

/-- The amount by the kind of the selection. -/
theorem refundableMinor_eq (order : CommerceOrder) (selection : RefundSelection) :
    refundableMinor order selection = if itemSelectionValid order selection then
      match selection.scope with
      | .fullOrder => remainingPaymentAmountMinor order
      | .selectedItems =>
        min (selection.itemIds.map (lineTotalMinor order)).sum (remainingPaymentAmountMinor order)
    else 0 := by
  unfold refundableMinor refundFacts selectedMaximumMinor
  rewrite [selectedItemTotalMinor_eq]
  cases selection.scope <;> rfl

theorem refundable_nonneg (h : NonNegative order) (selection : RefundSelection) :
    0 ≤ refundableMinor order selection := by
  have hremaining : 0 ≤ remainingPaymentAmountMinor order := remaining_eq order ▸ le_max_right _ _
  rw [refundableMinor_eq]
  split_ifs
  · split
    · exact hremaining
    · exact le_min (sum_nonneg (lineTotalMinor_nonneg h) _) hremaining
  · exact le_refl 0

/-- Whatever is selected, nothing beyond what is left of the payment is refundable. -/
theorem refundable_le (order : CommerceOrder) (selection : RefundSelection) :
    refundableMinor order selection ≤ max (paymentBalance order) 0 := by
  rw [refundableMinor_eq, ← remaining_eq]
  split_ifs
  · split
    · exact le_refl _
    · exact min_le_right _ _
  · exact remaining_eq order ▸ le_max_right _ _

theorem refundable_le_distinct (h : NonNegative order) (hscope : selection.scope = .selectedItems) :
    refundableMinor order selection ≤ distinctItemTotalMinor order selection ↔
      itemSelectionValid order selection = false ∨ RepeatsNothing order selection ∨
        remainingPaymentAmountMinor order ≤ distinctItemTotalMinor order selection := by
  have hle := sum_dedup_le (lineTotalMinor_nonneg h) selection.itemIds
  have heq := sum_dedup_eq (lineTotalMinor_nonneg h) selection.itemIds
  have hnonneg : 0 ≤ distinctItemTotalMinor order selection :=
    sum_nonneg (lineTotalMinor_nonneg h) _
  rw [refundableMinor_eq, hscope]
  unfold RepeatsNothing
  rw [← heq]
  unfold distinctItemTotalMinor at hnonneg ⊢
  cases hvalid : itemSelectionValid order selection with
  | false => simp [hnonneg]
  | true =>
    simp only [if_true, min_le_iff, Bool.true_eq_false, false_or]
    refine or_congr_left ⟨fun hge => le_antisymm hle hge, fun heq => heq.ge⟩

/-- The amount is covered exactly where the payment is not refunded beyond its amount and, for
selected items, nothing with a price is selected twice, unless the selection is refused or what is
left of the payment is the tighter bound. -/
theorem refundable_covered (order : CommerceOrder) (h : NonNegative order)
    (selection : RefundSelection) (metadata : ObservationMetadata) :
    Covered order (toRefundContext order selection metadata) ↔ 0 ≤ paymentBalance order ∧
      (selection.scope = .fullOrder ∨ itemSelectionValid order selection = false ∨
        RepeatsNothing order selection ∨
        remainingPaymentAmountMinor order ≤ distinctItemTotalMinor order selection) := by
  have hnonneg := refundable_nonneg h selection
  have hle := refundable_le order selection
  have hbalance : refundableMinor order selection ≤ paymentBalance order ↔
      0 ≤ paymentBalance order := by omega
  change 0 ≤ refundableMinor order selection ∧
    refundableMinor order selection ≤ paymentBalance order ∧
    (selection.scope = .selectedItems →
      refundableMinor order selection ≤ distinctItemTotalMinor order selection) ↔ _
  rw [hbalance]
  cases hscope : selection.scope with
  | fullOrder => simp [hnonneg]
  | selectedItems => simp [hnonneg, refundable_le_distinct h hscope]

namespace Sample

/-- One item of 30 dollars in an order of 100 dollars. -/
def pricedOrder : CommerceOrder where
  source := ⟨"vendure", "order-1"⟩
  active := false
  customer := some "customer-1"
  total := ⟨10000, "USD"⟩
  items := [⟨"line-1", ⟨3000, "USD"⟩⟩, ⟨"line-2", ⟨7000, "USD"⟩⟩]
  payments := [⟨"payment-1", "Settled", ⟨10000, "USD"⟩, []⟩]

theorem pricedOrder_nonNegative : NonNegative pricedOrder := ⟨by decide, by decide, by decide⟩

end Sample

theorem refundable_covered_once : Covered Sample.pricedOrder (toRefundContext Sample.pricedOrder
    ⟨.selectedItems, ["line-1"]⟩ ⟨"observation-1", "2026-09-14T10:00:00.000Z"⟩) :=
  (refundable_covered Sample.pricedOrder Sample.pricedOrder_nonNegative _ _).mpr
    ⟨by decide, Or.inr (Or.inr (Or.inl fun itemId hcount => by
      have hle : ["line-1"].count itemId ≤ 1 := List.count_le_length
      exact absurd hcount (not_lt.mpr hle)))⟩

/-- An item that is selected twice is refundable twice. -/
theorem repeated_item_counted : NonNegative Sample.pricedOrder ∧
    ¬Covered Sample.pricedOrder (toRefundContext Sample.pricedOrder
      ⟨.selectedItems, ["line-1", "line-1"]⟩ ⟨"observation-1", "2026-09-14T10:00:00.000Z"⟩) :=
  ⟨Sample.pricedOrder_nonNegative, by
    rintro ⟨-, -, hdistinct⟩
    exact absurd (hdistinct rfl) (by decide)⟩

end CSO.Gateway
