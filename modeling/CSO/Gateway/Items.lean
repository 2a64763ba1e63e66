import CSO.Gateway.Provider

/-! Refunds of selected items. The refund context looks for the selected lines on the refunds of
the payment, but the refunds that the gateway makes carry no lines. -/
namespace CSO.Gateway
open Transition (Machine)

variable {w w' : World} {we : WorldEvent} {order : CommerceOrder} {selection : RefundSelection}

theorem VendureOrder.mem_refunds {order : VendureOrder} {refund : VendureRefund} :
    refund ∈ order.refunds ↔
      ∃ payment ∈ order.payments.getD [], refund ∈ payment.refunds.getD [] :=
  List.mem_flatMap

theorem mem_refunds_addRefund {paymentId : String} {order : VendureOrder}
    {refund added : VendureRefund} (h : refund ∈ (order.addRefund paymentId added).refunds) :
    refund ∈ order.refunds ∨ refund = added := by
  obtain ⟨payment, hp, hr⟩ := VendureOrder.mem_refunds.mp h
  cases hpay : order.payments with
  | none => simp [VendureOrder.addRefund, hpay] at hp
  | some payments =>
    simp only [VendureOrder.addRefund, hpay, Option.map_some, Option.getD_some] at hp
    obtain ⟨payment₀, hp₀, rfl⟩ := List.mem_map.mp hp
    have hmem : payment₀ ∈ order.payments.getD [] := by simpa [hpay] using hp₀
    unfold VendurePayment.addRefund at hr
    split_ifs at hr
    · rw [Option.getD_some, List.mem_append, List.mem_singleton] at hr
      obtain hr | rfl := hr
      · exact .inl (VendureOrder.mem_refunds.mpr ⟨payment₀, hmem, hr⟩)
      · exact .inr rfl
    · exact .inl (VendureOrder.mem_refunds.mpr ⟨payment₀, hmem, hr⟩)

namespace World

theorem recorded_step (hr : Recorded w.orders w.created) (h : w.step we = some w') :
    Recorded w'.orders w'.created := by
  cases we with
  | gateway e =>
    obtain ⟨-, -, horders, hcreated⟩ := gateway_step h
    rw [horders, hcreated]
    exact hr
  | evolve orders =>
    obtain ⟨hrec, -, rfl, hcreated⟩ := evolve_step h
    rw [hcreated]
    exact hrec
  | createRefund call refundId state =>
    obtain ⟨⟨-, hcreations, hfresh⟩, -, horders, hcreated⟩ := createRefund_step h
    rw [horders, hcreated]
    intro order hm refund hrefund creation hc hid
    obtain ⟨order₀, hm₀, rfl⟩ := List.mem_map.mp hm
    obtain hold | rfl := mem_refunds_addRefund hrefund
    · obtain rfl | hc := List.mem_cons.mp hc
      · exact absurd hid (hfresh order₀ hm₀ refund hold)
      · exact hr order₀ hm₀ refund hold creation hc hid
    · obtain rfl | hc := List.mem_cons.mp hc
      · rfl
      · exact absurd hid.symm (hcreations creation hc).1

theorem recorded_reachable (h : world.Reachable World.Starting w) :
    Recorded w.orders w.created :=
  h.invariant (fun _ hs => hs.recorded) fun _ _ _ hr hs => recorded_step hr hs

/-- The gateway has submitted a refund of selected items with this line, which the order lists
as neither failed nor cancelled. -/
def ItemRefunded (w : World) (order : CommerceOrder) (lineId : String) : Prop :=
  ∃ creation ∈ w.created, creation.call.call.request.selection.scope = .selectedItems ∧
    lineId ∈ creation.call.call.request.selection.itemIds ∧
    ∃ refund ∈ order.refunds, refund.id = creation.refundId ∧
      refundConsumesBalance refund.status = true

/-- Items are selected, and one is not on the order, or the settled payment has a refund the
gateway did not make that counts and lists one. -/
def RejectsItems (w : World) (order : CommerceOrder) (selection : RefundSelection) : Prop :=
  selection.scope = .selectedItems ∧
  ((∃ itemId ∈ selection.itemIds, ∀ item ∈ order.items, item.id ≠ itemId) ∨
    ∃ payment, settledPayment order = some payment ∧ ∃ refund ∈ payment.refunds,
      (∀ creation ∈ w.created, creation.refundId ≠ refund.id) ∧
      refundConsumesBalance refund.status = true ∧
      ∃ lineId ∈ refund.lineIds, lineId ∈ selection.itemIds)

theorem created_lineIds {orderId : String} {payment : CommercePayment} {refund : CommerceRefund}
    {creation : Creation} (hr : Recorded w.orders w.created)
    (ho : getOrderById w.orders orderId = some order) (hp : payment ∈ order.payments)
    (hm : refund ∈ payment.refunds) (hc : creation ∈ w.created)
    (hid : creation.refundId = refund.id) : refund.lineIds = [] := by
  obtain ⟨vendure, hfind, rfl⟩ := Option.map_eq_some_iff.mp ho
  obtain ⟨vpayment, hvp, rfl⟩ := List.mem_map.mp hp
  obtain ⟨vrefund, hvr, rfl⟩ := List.mem_map.mp hm
  have hmem := VendureOrder.mem_refunds.mpr ⟨vpayment, hvp, hvr⟩
  have heq := hr vendure (List.mem_of_find?_eq_some hfind) vrefund hmem creation hc hid.symm
  exact congrArg VendureRefund.lines heq

end World

theorem selectedItems_known_iff :
    (selectedItems order selection).all Option.isSome = false ↔
      ∃ itemId ∈ selection.itemIds, ∀ item ∈ order.items, item.id ≠ itemId := by
  simp [selectedItems]

theorem selectedItemWasRefunded_iff :
    selectedItemWasRefunded order selection = true ↔
      ∃ payment, settledPayment order = some payment ∧ ∃ refund ∈ payment.refunds,
        refundConsumesBalance refund.status = true ∧
        ∃ lineId ∈ refund.lineIds, lineId ∈ selection.itemIds := by
  unfold selectedItemWasRefunded
  cases settledPayment order with
  | none => simp
  | some payment => simp

theorem itemSelectionValid_eq_false_iff :
    itemSelectionValid order selection = false ↔ selection.scope = .selectedItems ∧
      ((selectedItems order selection).all Option.isSome = false ∨
        selectedItemWasRefunded order selection = true) := by
  unfold itemSelectionValid
  cases selection.scope with
  | fullOrder => simp
  | selectedItems =>
    rw [show (SelectionScope.selectedItems == SelectionScope.fullOrder) = false from rfl]
    simp only [Bool.false_or, Bool.and_eq_false_iff, Bool.not_eq_false', true_and]

/-- A later selection of a refunded line is invalid exactly when it is so for another reason:
the gateway's own refunds are never what a selected line is found on. -/
theorem refunded_item_invalid_iff {orderId : String} (h : world.Reachable World.Starting w)
    (ho : getOrderById w.orders orderId = some order) (selection : RefundSelection) :
    ∀ lineId ∈ selection.itemIds, w.ItemRefunded order lineId →
      (itemSelectionValid order selection = false ↔ w.RejectsItems order selection) ∧
      (itemSelectionValid order selection = false → ∀ request observedAt,
        request.selection = selection → eligiblePayment request order observedAt = none) := by
  intro lineId _ _
  have hrec := World.recorded_reachable h
  constructor
  · rw [itemSelectionValid_eq_false_iff, selectedItems_known_iff, selectedItemWasRefunded_iff]
    constructor
    · rintro ⟨hscope, hunknown | ⟨payment, hsettled, refund, hm, hlive, line, hline, hsel⟩⟩
      · exact ⟨hscope, .inl hunknown⟩
      · refine ⟨hscope, .inr ⟨payment, hsettled, refund, hm, ?_, hlive, line, hline, hsel⟩⟩
        intro creation hc hid
        have hnil := World.created_lineIds hrec ho (settledPayment_settled hsettled).1 hm hc hid
        rw [hnil] at hline
        cases hline
    · rintro ⟨hscope, hunknown | ⟨payment, hsettled, refund, hm, -, hlive, hline⟩⟩
      · exact ⟨hscope, .inl hunknown⟩
      · exact ⟨hscope, .inr ⟨payment, hsettled, refund, hm, hlive, hline⟩⟩
  · rintro hinvalid request observedAt rfl
    cases hp : eligiblePayment request order observedAt with
    | none => rfl
    | some payment =>
      obtain ⟨-, hvalid, -⟩ := eligiblePayment_eq_some hp
      rw [hinvalid] at hvalid
      cases hvalid

/-- The first refund of the line has been submitted. -/
def Sample.firstRefund : List WorldEvent :=
  reserves 0 request "execution-1" [] ++ calls 0 ++ submits 0 request "execution-1" "refund-1"

/-- The order as it is listed then. -/
def Sample.afterRefund : CommerceOrder :=
  toCommerceOrder (vendureOrder [⟨"refund-1", "Pending", 2000, []⟩])

theorem Sample.itemRefunded {w : World}
    (hc : w.created = [⟨"refund-1", providerCall request "execution-1"⟩]) :
    w.ItemRefunded afterRefund "line-1" := by
  unfold World.ItemRefunded
  rw [hc]
  exact ⟨_, List.mem_singleton.mpr rfl, rfl, List.mem_singleton.mpr rfl, _,
    List.mem_singleton.mpr rfl, rfl, rfl⟩

theorem unknown_item_rejected :
    ∃ w, world.run (Sample.worldOf []) Sample.firstRefund = some w ∧
      w.ItemRefunded Sample.afterRefund "line-1" ∧
      itemSelectionValid Sample.afterRefund ⟨.selectedItems, ["line-1", "line-3"]⟩ = false := by
  obtain ⟨w, hrun, horder, hcreated⟩ : ∃ w,
      world.run (Sample.worldOf []) Sample.firstRefund = some w ∧
      getOrderById w.orders "order-1" = some Sample.afterRefund ∧
      w.created = [⟨"refund-1", Sample.providerCall Sample.request "execution-1"⟩] :=
    Machine.exists_run (by decide +kernel)
  have hrefunded := Sample.itemRefunded hcreated
  have hstart := Sample.worldOf_starting []
  obtain ⟨hiff, -⟩ := refunded_item_invalid_iff ⟨_, _, hstart, hrun⟩ horder
    ⟨.selectedItems, ["line-1", "line-3"]⟩ "line-1" List.mem_cons_self hrefunded
  exact ⟨w, hrun, hrefunded, hiff.mpr ⟨rfl, .inl ⟨"line-3", by decide, by decide⟩⟩⟩

theorem line_refunded_again :
    ∃ w, world.run (Sample.worldOf []) (Sample.firstRefund ++ Sample.reserves 1
        { Sample.request with idempotencyKey := "refund:refund-2:preview-2" } "execution-2"
        [⟨"refund-1", "Pending", 2000, []⟩] ++ Sample.calls 1) = some w ∧
      getOrderById w.orders "order-1" = some Sample.afterRefund ∧
      w.ItemRefunded Sample.afterRefund "line-1" ∧
      itemSelectionValid Sample.afterRefund Sample.request.selection = true ∧
      w.gateway.calls.length = 2 := by
  obtain ⟨w, hrun, horder, hcreated, hlen⟩ : ∃ w,
      world.run (Sample.worldOf []) (Sample.firstRefund ++ Sample.reserves 1
        { Sample.request with idempotencyKey := "refund:refund-2:preview-2" } "execution-2"
        [⟨"refund-1", "Pending", 2000, []⟩] ++ Sample.calls 1) = some w ∧
      getOrderById w.orders "order-1" = some Sample.afterRefund ∧
      w.created = [⟨"refund-1", Sample.providerCall Sample.request "execution-1"⟩] ∧
      w.gateway.calls.length = 2 :=
    Machine.exists_run (by decide +kernel)
  exact ⟨w, hrun, horder, Sample.itemRefunded hcreated, by decide, hlen⟩

end CSO.Gateway
