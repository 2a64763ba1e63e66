import CSO.Gateway.Steps

/-! The outbox of provider events: an event that has been accepted stays as it is, for an
execution that stays, and one that has been marked as delivered is not listed again. -/
namespace CSO.Gateway
open Transition (Table Machine)

/-- What the provider has sent. -/
def ProviderEventRow.input (event : ProviderEventRow) : RecordProviderRefundEventInput where
  eventId := event.eventId
  providerRefundId := event.providerRefundId
  outcome := event.outcome
  occurredAt := event.occurredAt

namespace Store
variable {store : Store} {id : String} {event : PendingProviderRefundEvent}

/-- The event has been accepted, for an execution of its workflow. -/
def Accepted (store : Store) (event : PendingProviderRefundEvent) : Prop :=
  ∃ row execution, store.providerEvents.find? event.eventId = some row ∧
    row.input = ⟨event.eventId, event.providerRefundId, event.outcome, event.occurredAt⟩ ∧
    store.executions.find? row.executionId = some execution ∧
    execution.workflowId = event.workflowId

theorem pendingEvent_eq_some {row : ProviderEventRow} (h : store.pendingEvent row = some event) :
    row.deliveryStatus = .pending ∧ ∃ execution,
      store.executions.find? row.executionId = some execution ∧
      event = ⟨row.eventId, execution.workflowId, row.providerRefundId, row.outcome,
        row.occurredAt⟩ := by
  unfold pendingEvent at h
  split_ifs at h with hpending
  obtain ⟨execution, hexecution, rfl⟩ := Option.map_eq_some_iff.mp h
  exact ⟨hpending, execution, hexecution, rfl⟩

theorem mem_listPending {limit : ℕ} (h : event ∈ store.listPendingProviderRefundEvents limit) :
    ∃ row ∈ store.providerEvents.rows, store.pendingEvent row = some event := by
  have hsorted := List.mem_of_mem_take h
  rw [List.mem_insertionSort] at hsorted
  exact List.mem_filterMap.mp hsorted

/-- Only accepted events are listed. -/
theorem accepted_of_listed {limit : ℕ}
    (h : event ∈ store.listPendingProviderRefundEvents limit) : store.Accepted event := by
  obtain ⟨row, hrow, hpending⟩ := mem_listPending h
  obtain ⟨-, execution, hexecution, rfl⟩ := pendingEvent_eq_some hpending
  exact ⟨row, execution, store.providerEvents.find?_of_mem hrow, rfl, hexecution, rfl⟩

/-- A delivered event is not sent again. -/
theorem delivered_not_listed {row : ProviderEventRow} {limit : ℕ}
    (hrow : store.providerEvents.find? id = some row) (hd : row.deliveryStatus = .delivered)
    (h : event ∈ store.listPendingProviderRefundEvents limit) : event.eventId ≠ id := by
  obtain ⟨found, hfound, hpending⟩ := mem_listPending h
  obtain ⟨hstatus, execution, -, rfl⟩ := pendingEvent_eq_some hpending
  rintro rfl
  have hsame := store.providerEvents.find?_of_mem hfound
  rw [hrow] at hsame
  cases hsame
  rw [hd] at hstatus
  cases hstatus

/-- Recording an event adds at most its own row. -/
theorem recordProviderRefundEvent_events (store : Store) (input : RecordProviderRefundEventInput)
    (now : ℤ) :
    (store.recordProviderRefundEvent input now).2.providerEvents = store.providerEvents ∨
    ∃ row, ∃ hid : store.providerEvents.find? (newEvent input row).eventId = none,
      (store.recordProviderRefundEvent input now).2.providerEvents =
        store.providerEvents.insert (newEvent input row) hid := by
  unfold recordProviderRefundEvent
  split
  · exact .inl rfl
  · rename_i hid
    split
    · rename_i row hrow
      exact .inr ⟨row, hid, rfl⟩
    · exact .inl rfl

end Store

namespace State
variable {s t : State} {e : Event} {id : String} {row : ProviderEventRow}

/-- Nothing but its delivery changes of an accepted event, and that only once. -/
theorem event_step (h : s.step e = some t) (hr : s.store.providerEvents.find? id = some row) :
    ∃ row', t.store.providerEvents.find? id = some row' ∧ row'.input = row.input ∧
      row'.executionId = row.executionId ∧
      (row.deliveryStatus = .delivered → row'.deliveryStatus = .delivered) := by
  have hkept : ∃ row', s.store.providerEvents.find? id = some row' ∧ row'.input = row.input ∧
      row'.executionId = row.executionId ∧
      (row.deliveryStatus = .delivered → row'.deliveryStatus = .delivered) :=
    ⟨row, hr, rfl, rfl, fun hd => hd⟩
  obtain he | ⟨i, id', now, commit, call, payment, rfl, hp, hnone, hkey, he⟩ |
    ⟨i, now, commit, id', status, providerRefundId, rfl, hc, hw, he⟩ |
    ⟨input, now, commit, rfl, hc, he⟩ | ⟨eventId, rfl, he⟩ := store_cases h
  · rwa [he]
  · rwa [he]
  · rwa [he]
  · rw [he]
    rcases s.store.recordProviderRefundEvent_events input now with heq | ⟨other, hid, heq⟩
    · rwa [heq]
    · have hne : (Store.newEvent input other).eventId ≠ id := by
        intro hsame
        rw [hsame, hr] at hid
        cases hid
      rwa [heq, Table.find?_insert, if_neg hne]
  · rw [he]
    unfold Store.markProviderRefundEventDelivered
    rw [Table.find?_modify]
    by_cases hid : id = eventId
    · subst hid
      rw [if_pos rfl, hr]
      exact ⟨_, rfl, rfl, rfl, fun _ => rfl⟩
    · rwa [if_neg hid]

/-- An accepted event stays accepted. -/
theorem accepted_step {event : PendingProviderRefundEvent} (h : s.step e = some t)
    (ha : s.store.Accepted event) : t.store.Accepted event := by
  obtain ⟨row, execution, hrow, hinput, hexecution, hworkflow⟩ := ha
  obtain ⟨row', hrow', hinput', hid, -⟩ := event_step h hrow
  obtain ⟨execution', hexecution', hstep⟩ := row_step h hexecution
  refine ⟨row', execution', hrow', hinput'.trans hinput, by rw [hid, hexecution'], ?_⟩
  exact (congrArg ReserveRefundExecutionInput.workflowId hstep.request).trans hworkflow

/-- An event that has been marked as delivered is never listed again. -/
theorem delivered_never_listed {es : List Event} {event : PendingProviderRefundEvent} {limit : ℕ}
    (hr : s.store.providerEvents.find? id = some row) (hd : row.deliveryStatus = .delivered)
    (h : machine.run s es = some t)
    (hl : event ∈ t.store.listPendingProviderRefundEvents limit) : event.eventId ≠ id := by
  obtain ⟨row', hrow', hd'⟩ : ∃ row', t.store.providerEvents.find? id = some row' ∧
      row'.deliveryStatus = .delivered := by
    refine Machine.run_invariant (I := fun s => ∃ row, s.store.providerEvents.find? id = some row ∧
      row.deliveryStatus = .delivered) ?_ ⟨row, hr, hd⟩ h
    rintro a e b ⟨found, hfound, hdelivered⟩ hs
    obtain ⟨found', hfound', -, -, hstays⟩ := event_step hs hfound
    exact ⟨found', hfound', hstays hdelivered⟩
  exact Store.delivered_not_listed hrow' hd' hl

end State
end CSO.Gateway
