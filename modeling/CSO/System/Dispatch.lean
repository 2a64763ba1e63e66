import Mathlib
import CSO.Transition.Backlog
import CSO.Gateway.Outbox
import CSO.HumanOperations.Routes

/-! The rounds of the two dispatchers: of provider events in the gateway, and of decisions in
Human Operations. -/
namespace CSO.System
open Transition (Table Backlog Oldest)

/-! Provider events. -/
section Gateway
open Gateway

/-- The store of the gateway, with the events whose signal has arrived. -/
structure ProviderDispatch where
  store : Store
  signalled : List PendingProviderRefundEvent

def pendingProviderEvents (store : Store) : List PendingProviderRefundEvent :=
  store.providerEvents.rows.filterMap store.pendingEvent

/-- `occurred_at`, by which the events are ordered. -/
def occurred (event : PendingProviderRefundEvent) : ℤ := (JS.Date.parse event.occurredAt).getD 0

/-- `dispatchPendingProviderEvents` takes this many. -/
def providerLimit : ℕ := 100

variable {store : Store} {event : PendingProviderRefundEvent}

theorem mem_pendingProviderEvents : event ∈ pendingProviderEvents store ↔
    ∃ row ∈ store.providerEvents.rows, store.pendingEvent row = some event := List.mem_filterMap

theorem pendingEvent_eventId {row : ProviderEventRow} (h : store.pendingEvent row = some event) :
    event.eventId = row.eventId := by
  obtain ⟨-, execution, -, rfl⟩ := Store.pendingEvent_eq_some h
  rfl

/-- Events under one identifier come from one row. -/
theorem pendingEvent_inj {row : ProviderEventRow} {other : PendingProviderRefundEvent}
    (hrow : row ∈ store.providerEvents.rows) (h : store.pendingEvent row = some event)
    (ho : other ∈ pendingProviderEvents store) (hid : row.eventId = other.eventId) :
    event = other := by
  obtain ⟨row', hrow', h'⟩ := mem_pendingProviderEvents.mp ho
  have hsame : row = row' := by
    apply Table.eq_of_unique store.providerEvents.unique hrow hrow'
    exact hid.trans (pendingEvent_eventId h')
  rw [hsame, h'] at h
  exact (Option.some.inj h).symm

theorem nodup_pendingProviderEvents (store : Store) : (pendingProviderEvents store).Nodup := by
  have hrows := List.pairwise_map.mp store.providerEvents.unique
  refine List.Pairwise.filterMap store.pendingEvent ?_ hrows
  intro row row' hne event h event' h' heq
  rw [← pendingEvent_eventId h, ← pendingEvent_eventId h', heq] at hne
  exact hne rfl

/-- An event that is marked waits no longer, and every other does. -/
theorem pendingProviderEvents_mark (h : event ∈ pendingProviderEvents store) :
    pendingProviderEvents (store.markProviderRefundEventDelivered event.eventId) =
      (pendingProviderEvents store).filter (· ≠ event) := by
  have hpending : (store.markProviderRefundEventDelivered event.eventId).pendingEvent =
      store.pendingEvent := rfl
  unfold pendingProviderEvents
  rw [hpending, List.filter_filterMap]
  unfold Store.markProviderRefundEventDelivered Table.modify
  rw [List.filterMap_map]
  apply List.filterMap_congr
  intro row hrow
  rw [Function.comp_apply]
  by_cases hid : row.eventId = event.eventId
  · rw [if_pos hid]
    have hmarked : store.pendingEvent { row with deliveryStatus := .delivered } = none := rfl
    rw [hmarked]
    cases hp : store.pendingEvent row with
    | none => rfl
    | some found => simp [pendingEvent_inj hrow hp h hid, Option.filter_some]
  · rw [if_neg hid]
    cases hp : store.pendingEvent row with
    | none => rfl
    | some found =>
      have hne : found ≠ event := fun heq => hid (heq ▸ (pendingEvent_eventId hp).symm)
      simp [hne, Option.filter_some]

/-- The event has been signalled, and its row says so. -/
def ProviderDispatch.Done (d : ProviderDispatch) (event : PendingProviderRefundEvent) : Prop :=
  event ∈ d.signalled ∧ ∃ row, d.store.providerEvents.find? event.eventId = some row ∧
    row.deliveryStatus = .delivered

/-- The body of the loop of `dispatchPendingProviderEvents`, when the signal arrives. -/
def ProviderDispatch.deliver (d : ProviderDispatch) (event : PendingProviderRefundEvent) :
    ProviderDispatch where
  store := d.store.markProviderRefundEventDelivered event.eventId
  signalled := d.signalled ++ [event]

theorem find_mark (eventId id : String) :
    (store.markProviderRefundEventDelivered eventId).providerEvents.find? id =
      if id = eventId then
        (store.providerEvents.find? eventId).map fun row => { row with deliveryStatus := .delivered }
      else store.providerEvents.find? id :=
  store.providerEvents.find?_modify eventId id
    (fun row => { row with deliveryStatus := .delivered }) fun _ => rfl

def providerBacklog : Backlog ProviderDispatch PendingProviderRefundEvent where
  pending d := pendingProviderEvents d.store
  deliver := ProviderDispatch.deliver
  done := ProviderDispatch.Done
  nodup d := nodup_pendingProviderEvents d.store
  pending_deliver d event h := pendingProviderEvents_mark h
  done_deliver d event h := by
    obtain ⟨row, hrow, hp⟩ := mem_pendingProviderEvents.mp h
    refine ⟨List.mem_append_right _ (List.mem_singleton_self event), ?_⟩
    have hfind := d.store.providerEvents.find?_of_mem hrow
    rw [ProviderDispatch.deliver, find_mark, if_pos rfl, pendingEvent_eventId hp, hfind]
    exact ⟨_, rfl, rfl⟩
  done_stays d event other h := by
    obtain ⟨hsignalled, row, hrow, hdelivered⟩ := h
    refine ⟨List.mem_append_left _ hsignalled, ?_⟩
    rw [ProviderDispatch.deliver, find_mark]
    split_ifs with hid
    · rw [← hid, hrow]
      exact ⟨_, rfl, rfl⟩
    · exact ⟨row, hrow, hdelivered⟩
  not_done d event h := by
    rintro ⟨-, row, hrow, hdelivered⟩
    obtain ⟨row', hrow', hp⟩ := mem_pendingProviderEvents.mp h
    have hfind := d.store.providerEvents.find?_of_mem hrow'
    rw [← pendingEvent_eventId hp, hrow] at hfind
    obtain ⟨hpending, -⟩ := Store.pendingEvent_eq_some hp
    rw [← Option.some.inj hfind, hdelivered] at hpending
    cases hpending

/-- What the repository lists is a batch of the oldest. -/
theorem listPendingProviderRefundEvents_oldest (store : Store) (limit : ℕ) :
    Oldest occurred limit (pendingProviderEvents store)
      (store.listPendingProviderRefundEvents limit) :=
  Transition.oldest_take (fun _ _ h => h) limit (nodup_pendingProviderEvents store)

end Gateway

/-! Decisions. -/
section HumanOperations
open HumanOperations

/-- The tables of the dispatcher's scope, with the events whose signal has arrived. -/
structure DecisionDispatch where
  tables : Tables
  signalled : List OutboxRow

def pendingDecisions (t : Tables) : List OutboxRow :=
  t.outbox.rows.filter fun row => row.status = .pending

variable {t : Tables} {event : OutboxRow}

theorem mem_pendingDecisions :
    event ∈ pendingDecisions t ↔ event ∈ t.outbox.rows ∧ event.status = .pending := by
  simp [pendingDecisions]

theorem pendingDecisions_mark (h : event ∈ pendingDecisions t) :
    pendingDecisions (t.changeOutbox event.eventId) = (pendingDecisions t).filter (· ≠ event) := by
  have hmem := (mem_pendingDecisions.mp h).1
  unfold pendingDecisions Tables.changeOutbox Table.modify
  rw [List.filter_map, List.filter_filter]
  have hwhich : ∀ row ∈ t.outbox.rows,
      ((fun row : OutboxRow => decide (row.status = .pending)) ∘ fun row =>
        if row.eventId = event.eventId then Tables.deliver row else row) row =
      (decide (row ≠ event) && decide (row.status = .pending)) := by
    intro row hrow
    rw [Function.comp_apply]
    by_cases hid : row.eventId = event.eventId
    · have hsame : row = event := Table.eq_of_unique t.outbox.unique hrow hmem hid
      simp [hsame, Tables.deliver]
    · have hne : row ≠ event := fun heq => hid (heq ▸ rfl)
      simp [hid, hne]
  rw [List.filter_congr hwhich]
  -- The marked row is not among them.
  have hself : ∀ row ∈ t.outbox.rows.filter
      (fun row => decide (row ≠ event) && decide (row.status = .pending)),
      (if row.eventId = event.eventId then Tables.deliver row else row) = id row := by
    intro row hrow
    obtain ⟨hin, hne⟩ := List.mem_filter.mp hrow
    simp only [Bool.and_eq_true, decide_eq_true_eq] at hne
    exact if_neg fun hid => hne.1 (Table.eq_of_unique t.outbox.unique hin hmem hid)
  rw [List.map_congr_left hself, List.map_id]

def DecisionDispatch.Done (d : DecisionDispatch) (event : OutboxRow) : Prop :=
  event ∈ d.signalled ∧ ∃ row, d.tables.outbox.find? event.eventId = some row ∧
    row.status = .delivered

/-- `deliverOutbox`, when the signal arrives. -/
def DecisionDispatch.deliver (d : DecisionDispatch) (event : OutboxRow) : DecisionDispatch where
  tables := Transition.storeAfter (markOutboxDelivered event.eventId) d.tables
  signalled := d.signalled ++ [event]

theorem storeAfter_mark (eventId : String) :
    Transition.storeAfter (markOutboxDelivered eventId) t = t.changeOutbox eventId := rfl

theorem find_changeOutbox (eventId id : String) :
    (t.changeOutbox eventId).outbox.find? id =
      if id = eventId then (t.outbox.find? eventId).map Tables.deliver else t.outbox.find? id :=
  t.outbox.find?_modify eventId id Tables.deliver fun _ => rfl

def decisionBacklog : Backlog DecisionDispatch OutboxRow where
  pending d := pendingDecisions d.tables
  deliver := DecisionDispatch.deliver
  done := DecisionDispatch.Done
  nodup d := (List.Nodup.of_map _ d.tables.outbox.unique).filter _
  pending_deliver d event h := pendingDecisions_mark h
  done_deliver d event h := by
    refine ⟨List.mem_append_right _ (List.mem_singleton_self event), ?_⟩
    have hfind := d.tables.outbox.find?_of_mem (mem_pendingDecisions.mp h).1
    rw [DecisionDispatch.deliver, storeAfter_mark, find_changeOutbox, if_pos rfl, hfind]
    exact ⟨_, rfl, rfl⟩
  done_stays d event other h := by
    obtain ⟨hsignalled, row, hrow, hdelivered⟩ := h
    refine ⟨List.mem_append_left _ hsignalled, ?_⟩
    rw [DecisionDispatch.deliver, storeAfter_mark, find_changeOutbox]
    split_ifs with hid
    · rw [← hid, hrow]
      exact ⟨_, rfl, rfl⟩
    · exact ⟨row, hrow, hdelivered⟩
  not_done d event h := by
    rintro ⟨-, row, hrow, hdelivered⟩
    obtain ⟨hmem, hpending⟩ := mem_pendingDecisions.mp h
    have hfind := d.tables.outbox.find?_of_mem hmem
    rw [hrow] at hfind
    rw [← Option.some.inj hfind, hdelivered] at hpending
    cases hpending

theorem listPendingOutbox_oldest {limit : ℕ} {events : List OutboxRow} {u : Tables}
    (h : (listPendingOutbox limit).run t = .ok events u) :
    Oldest OutboxRow.createdAt limit (pendingDecisions t) events := by
  simp only [listPendingOutbox, Transition.transaction_ok, Transition.bind_ok, Transition.get_ok,
    Transition.pure_ok] at h
  obtain ⟨_, _, ⟨rfl, -⟩, rfl, -⟩ := h
  exact Transition.oldest_take (fun _ _ h => h) limit
    ((List.Nodup.of_map _ t.outbox.unique).filter _)

end HumanOperations

/-! As many events as a round takes cannot be delivered, and a later one can. -/
namespace Blocked
open Gateway HumanOperations

def execution (i : ℕ) : ExecutionRow where
  executionId := "execution-" ++ toString i
  tenantId := "tenant-1"
  environmentId := "production"
  idempotencyKey := "refund-key-" ++ toString i
  workflowId := "refund-" ++ toString i
  previewId := "preview-1"
  orderId := "order-1"
  amountMinor := 2500
  currency := "GBP"
  status := .succeeded
  providerRefundId := some ("provider-refund-" ++ toString i)
  createdAt := 1786190700000
  updatedAt := 1786190700000
  statusEnteredAt := 1786190700000

def providerEvent (i : ℕ) : ProviderEventRow where
  eventId := "event-" ++ toString i
  executionId := "execution-" ++ toString i
  providerRefundId := "provider-refund-" ++ toString i
  outcome := .completed
  occurredAt := if i < providerLimit then "2026-08-08T10:00:00.000Z" else "2026-08-08T11:00:00.000Z"
  deliveryStatus := .pending

/-- Numbered names differ. -/
theorem nodup_numbered {name : String} (n : ℕ) :
    ((List.range n).map fun i => name ++ toString i).Nodup := by
  apply List.Nodup.map _ List.nodup_range
  intro i j h
  exact Nat.repr_injective ((String.append_right_inj name).mp h)

def gateway : ProviderDispatch where
  store := {
    executions := {
      rows := (List.range (providerLimit + 1)).map execution
      unique := by
        rw [List.map_map]
        exact nodup_numbered _ }
    keys := by
      have hkeys : ((List.range (providerLimit + 1)).map fun i =>
          "refund-key-" ++ toString i).Nodup := nodup_numbered _
      refine List.Nodup.of_map ExecutionKey.idempotencyKey ?_
      rw [List.map_map, List.map_map]
      exact hkeys
    providerEvents := {
      rows := (List.range (providerLimit + 1)).map providerEvent
      unique := by
        rw [List.map_map]
        exact nodup_numbered _ } }
  signalled := []

/-- Only the workflow of the last event still takes signals. -/
def completed (event : PendingProviderRefundEvent) : Bool := event.eventId ≠ "event-100"

def pendingEvent (i : ℕ) : PendingProviderRefundEvent where
  eventId := "event-" ++ toString i
  workflowId := "refund-" ++ toString i
  providerRefundId := "provider-refund-" ++ toString i
  outcome := .completed
  occurredAt := if i < providerLimit then "2026-08-08T10:00:00.000Z" else "2026-08-08T11:00:00.000Z"

theorem pending_gateway :
    pendingProviderEvents gateway.store = (List.range (providerLimit + 1)).map pendingEvent := by
  have hrows : gateway.store.providerEvents.rows =
      (List.range (providerLimit + 1)).map providerEvent := rfl
  rw [pendingProviderEvents, hrows, List.filterMap_map, ← List.filterMap_eq_map]
  apply List.filterMap_congr
  intro i hi
  have hmem : execution i ∈ gateway.store.executions.rows := List.mem_map_of_mem hi
  have hfind : gateway.store.executions.find? (providerEvent i).executionId =
      some (execution i) := gateway.store.executions.find?_of_mem hmem
  rw [Function.comp_apply, Function.comp_apply, Store.pendingEvent, hfind]
  rfl

/-- Every event but the last is ahead of it. -/
theorem pendingEvent_ahead {i : ℕ} (hi : i < providerLimit + 1) :
    completed (pendingEvent i) = true ∧
        occurred (pendingEvent i) ≤ occurred (pendingEvent providerLimit) ↔ i < providerLimit := by
  have hlast : occurred (pendingEvent providerLimit) = 1786186800000 := by decide +kernel
  constructor
  · rintro ⟨hcompleted, -⟩
    have hne : (pendingEvent i).eventId ≠ "event-100" := of_decide_eq_true hcompleted
    have hne : i ≠ providerLimit := fun heq => hne (heq ▸ rfl)
    omega
  · intro hlt
    constructor
    · refine decide_eq_true fun heq => ?_
      have hsame : i = 100 := Nat.repr_injective ((String.append_right_inj "event-").mp heq)
      rw [hsame] at hlt
      exact lt_irrefl _ hlt
    · have hfirst : occurred (pendingEvent i) =
          (JS.Date.parse "2026-08-08T10:00:00.000Z").getD 0 := by
        rw [occurred, pendingEvent, if_pos hlt]
      rw [hfirst, hlast]
      decide +kernel

end Blocked

end CSO.System
