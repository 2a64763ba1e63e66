import CSO.Gateway.Outbox

/-! Provider events over any sequence of operations of the store: each is applied at most once, and
the dispatcher is handed exactly those that ended an execution, until they are marked. -/
namespace CSO.Gateway
open Transition (Table)

/-- An operation of the store with its input. -/
inductive StoreCall
  | reserve (executionId : String) (input : ReserveRefundExecutionInput)
  | recordOutcome (executionId : String) (status : RefundExecutionStatus)
      (providerRefundId : Option String) (now : ℤ)
  | recordEvent (input : RecordProviderRefundEventInput) (now : ℤ)
  | markDelivered (eventId : String)
  deriving DecidableEq, Repr

namespace Store

/-- An operation that throws leaves the store as it was. -/
def apply (store : Store) : StoreCall → Store
  | .reserve executionId input => ((store.reserve executionId input).map Prod.snd).getD store
  | .recordOutcome executionId status providerRefundId now =>
    ((store.recordOutcome executionId status providerRefundId now).map Prod.snd).getD store
  | .recordEvent input now => (store.recordProviderRefundEvent input now).2
  | .markDelivered eventId => store.markProviderRefundEventDelivered eventId

def after (calls : List StoreCall) : Store := calls.foldl apply empty

@[simp] theorem after_nil : after [] = empty := rfl

theorem after_concat (calls : List StoreCall) (call : StoreCall) :
    after (calls ++ [call]) = (after calls).apply call := by
  simp [after]

/-- The event takes the execution to a terminal status, from one that is not. -/
def Settles (store : Store) (input : RecordProviderRefundEventInput) (now : ℤ) (id : String) :
    Prop :=
  ∃ row row', store.executions.find? id = some row ∧ row.status.terminal = false ∧
    (store.recordProviderRefundEvent input now).2.executions.find? id = some row' ∧
    row'.status.terminal = true

variable {store : Store} {input : RecordProviderRefundEventInput} {now : ℤ} {id : String}
  {row : ExecutionRow} {call : StoreCall} {calls : List StoreCall} {event : ProviderEventRow}

/-- How an event is recorded. -/
inductive Recorded (store : Store) (input : RecordProviderRefundEventInput) (now : ℤ) :
    RecordEventResult → Store → Prop
  | duplicate {event : ProviderEventRow}
      (h : store.providerEvents.find? input.eventId = some event) :
      Recorded store input now .duplicate store
  | unknown (h : store.providerEvents.find? input.eventId = none) :
      Recorded store input now .unknownRefund store
  | late (row : ExecutionRow)
      (h : store.providerEvents.find? (newEvent input row).eventId = none)
      (hrow : row ∈ store.executions.rows) (ht : row.status.terminal = true) :
      Recorded store input now .accepted
        { store with providerEvents := store.providerEvents.insert (newEvent input row) h }
  | settled (row : ExecutionRow)
      (h : store.providerEvents.find? (newEvent input row).eventId = none)
      (hrow : row ∈ store.executions.rows) (ht : row.status.terminal = false) :
      Recorded store input now .accepted
        { store.enter row.executionId input.outcome.terminalStatus none now with
          providerEvents := store.providerEvents.insert (newEvent input row) h }

theorem recorded (store : Store) (input : RecordProviderRefundEventInput) (now : ℤ) :
    Recorded store input now (store.recordProviderRefundEvent input now).1
      (store.recordProviderRefundEvent input now).2 := by
  unfold recordProviderRefundEvent
  split
  · rename_i h
    exact .duplicate h
  · rename_i h
    split
    · rename_i row hfilter
      have hmem : row ∈ store.executions.rows.filter fun row =>
          row.providerRefundId = some input.providerRefundId := by simp [hfilter]
      have hrow := (List.mem_filter.mp hmem).1
      cases ht : row.status.terminal with
      | true => exact .late row h hrow ht
      | false => exact .settled row h hrow ht
    · exact .unknown h

theorem terminalStatus_terminal (outcome : ProviderRefundOutcome) :
    outcome.terminalStatus.terminal = true := by
  cases outcome <;> rfl

/-- What settles an execution is a new event that is recorded as pending for it. -/
theorem settles_iff : store.Settles input now id ↔
    ∃ row, ∃ h : store.providerEvents.find? (newEvent input row).eventId = none,
      store.executions.find? id = some row ∧ row.status.terminal = false ∧
      (store.recordProviderRefundEvent input now).2 =
        { store.enter id input.outcome.terminalStatus none now with
          providerEvents := store.providerEvents.insert (newEvent input row) h } := by
  constructor
  · rintro ⟨row, row', hrow, hopen, hrow', hterm⟩
    have hr := store.recorded input now
    generalize (store.recordProviderRefundEvent input now).1 = result at hr
    generalize (store.recordProviderRefundEvent input now).2 = left at hr hrow'
    have hkept : left.executions = store.executions → False := by
      intro hsame
      rw [hsame, hrow] at hrow'
      cases hrow'
      rw [hopen] at hterm
      cases hterm
    cases hr with
    | duplicate h => exact (hkept rfl).elim
    | unknown h => exact (hkept rfl).elim
    | late other h hother ht => exact (hkept rfl).elim
    | settled other h hother ht =>
      by_cases hid : id = other.executionId
      · subst hid
        rw [mem_rows_iff.mp hother] at hrow
        cases hrow
        exact ⟨row, h, mem_rows_iff.mp hother, hopen, rfl⟩
      · simp only [find_enter, if_neg hid] at hrow'
        rw [hrow] at hrow'
        cases hrow'
        rw [hopen] at hterm
        cases hterm
  · rintro ⟨row, h, hrow, hopen, heq⟩
    refine ⟨row, row.enter input.outcome.terminalStatus none now, hrow, hopen, ?_,
      terminalStatus_terminal input.outcome⟩
    rw [heq, find_enter, if_pos rfl, hrow, Option.map_some]

/-! What one operation does to the rows that are there. -/

/-- How an operation changes an execution. -/
inductive ExecutionStep (row : ExecutionRow) : StoreCall → ExecutionRow → Prop
  | kept {call : StoreCall} : ExecutionStep row call row
  | recorded {status : RefundExecutionStatus} {providerRefundId : Option String} {now : ℤ} :
      ExecutionStep row (.recordOutcome row.executionId status providerRefundId now)
        (row.enter status providerRefundId now)
  | outcome {input : RecordProviderRefundEventInput} {now : ℤ} (ht : row.status.terminal = false) :
      ExecutionStep row (.recordEvent input now) (row.enter input.outcome.terminalStatus none now)

theorem execution_step (call : StoreCall) (hrow : store.executions.find? id = some row) :
    ∃ row', (store.apply call).executions.find? id = some row' ∧ ExecutionStep row call row' := by
  have hid := executionId_of_find hrow
  cases call with
  | reserve executionId input =>
    simp only [apply, reserve]
    split
    · exact ⟨row, hrow, .kept⟩
    · split_ifs with hnew
      · refine ⟨row, ?_, .kept⟩
        have hne : executionId ≠ id := by
          rintro rfl
          rw [hrow] at hnew
          cases hnew.1
        simp only [Option.map_some, Option.getD_some, find_insert, if_neg hne]
        exact hrow
      · exact ⟨row, hrow, .kept⟩
  | recordOutcome executionId status providerRefundId now =>
    simp only [apply, recordOutcome]
    split
    · exact ⟨row, hrow, .kept⟩
    · simp only [Option.map_some, Option.getD_some, find_enter]
      by_cases hsame : id = executionId
      · subst hsame
        rw [if_pos rfl, hrow]
        exact ⟨_, rfl, hid ▸ .recorded⟩
      · rw [if_neg hsame]
        exact ⟨row, hrow, .kept⟩
  | recordEvent input now =>
    simp only [apply]
    have hr := store.recorded input now
    generalize (store.recordProviderRefundEvent input now).1 = result at hr
    generalize (store.recordProviderRefundEvent input now).2 = left at hr
    cases hr with
    | duplicate h => exact ⟨row, hrow, .kept⟩
    | unknown h => exact ⟨row, hrow, .kept⟩
    | late other h hother ht => exact ⟨row, hrow, .kept⟩
    | settled other h hother ht =>
      simp only [find_enter]
      by_cases hsame : id = other.executionId
      · subst hsame
        rw [mem_rows_iff.mp hother] at hrow
        cases hrow
        rw [if_pos rfl, mem_rows_iff.mp hother]
        exact ⟨_, rfl, .outcome ht⟩
      · rw [if_neg hsame]
        exact ⟨row, hrow, .kept⟩
  | markDelivered eventId => exact ⟨row, hrow, .kept⟩

/-- The event with the delivery that an operation leaves it in. -/
def seen (call : StoreCall) (event : ProviderEventRow) : ProviderEventRow :=
  if call = .markDelivered event.eventId then { event with deliveryStatus := .delivered } else event

theorem seen_input (call : StoreCall) (event : ProviderEventRow) :
    (seen call event).input = event.input := by
  unfold seen
  split_ifs <;> rfl

theorem seen_executionId (call : StoreCall) (event : ProviderEventRow) :
    (seen call event).executionId = event.executionId := by
  unfold seen
  split_ifs <;> rfl

theorem seen_pending : (seen call event).deliveryStatus = .pending ↔
    event.deliveryStatus = .pending ∧ call ≠ .markDelivered event.eventId := by
  unfold seen
  split_ifs with h <;> simp [h]

theorem reserve_events (store : Store) (executionId : String)
    (input : ReserveRefundExecutionInput) :
    (store.apply (.reserve executionId input)).providerEvents = store.providerEvents := by
  simp only [apply, reserve]
  split
  · rfl
  · split_ifs <;> rfl

theorem recordOutcome_events (store : Store) (executionId : String) (status : RefundExecutionStatus)
    (providerRefundId : Option String) (now : ℤ) :
    (store.apply (.recordOutcome executionId status providerRefundId now)).providerEvents =
      store.providerEvents := by
  simp only [apply, recordOutcome]
  split <;> rfl

theorem event_step (call : StoreCall) (hevent : store.providerEvents.find? id = some event) :
    (store.apply call).providerEvents.find? id = some (seen call event) := by
  have hid : event.eventId = id := ((store.providerEvents.find?_eq_some id).mp hevent).2
  cases call with
  | reserve executionId input =>
    rw [reserve_events]
    exact hevent
  | recordOutcome executionId status providerRefundId now =>
    rw [recordOutcome_events]
    exact hevent
  | recordEvent input now =>
    simp only [apply]
    rcases store.recordProviderRefundEvent_events input now with heq | ⟨row, hnew, heq⟩
    · rwa [heq]
    · have hne : (newEvent input row).eventId ≠ id := by
        intro hsame
        rw [hsame, hevent] at hnew
        cases hnew
      rwa [heq, Table.find?_insert, if_neg hne]
  | markDelivered eventId =>
    simp only [apply, markProviderRefundEventDelivered, Table.find?_modify, seen,
      StoreCall.markDelivered.injEq]
    by_cases hsame : id = eventId
    · rw [if_pos hsame, if_pos (hsame.symm.trans hid.symm), ← hsame, hevent, Option.map_some]
    · rw [if_neg hsame, if_neg (fun heq => hsame (hid.symm.trans heq.symm)), hevent]

/-- A new row is the row of the event that is recorded. -/
theorem event_origin (hnone : store.providerEvents.find? id = none)
    (hevent : (store.apply call).providerEvents.find? id = some event) :
    ∃ input now, call = .recordEvent input now ∧ event.input = input ∧
      (store.recordProviderRefundEvent input now).1 = .accepted ∧
      (event.deliveryStatus = .pending → store.Settles input now event.executionId) := by
  cases call with
  | reserve executionId input =>
    rw [reserve_events, hnone] at hevent
    cases hevent
  | recordOutcome executionId status providerRefundId now =>
    rw [recordOutcome_events, hnone] at hevent
    cases hevent
  | recordEvent input now =>
    refine ⟨input, now, rfl, ?_⟩
    simp only [apply] at hevent
    have hsettles : store.Settles input now event.executionId ↔ _ := settles_iff
    have hr := store.recorded input now
    generalize (store.recordProviderRefundEvent input now).1 = result at hr
    generalize (store.recordProviderRefundEvent input now).2 = left at hr hevent hsettles
    cases hr with
    | duplicate h =>
      rw [hnone] at hevent
      cases hevent
    | unknown h =>
      rw [hnone] at hevent
      cases hevent
    | late other h hother ht =>
      rw [Table.find?_insert, hnone] at hevent
      split_ifs at hevent
      cases hevent
      exact ⟨rfl, rfl, by simp [newEvent, ht]⟩
    | settled other h hother ht =>
      rw [Table.find?_insert, hnone] at hevent
      split_ifs at hevent
      cases hevent
      exact ⟨rfl, rfl, fun _ => hsettles.mpr ⟨other, h, mem_rows_iff.mp hother, ht, rfl⟩⟩
  | markDelivered eventId =>
    simp only [apply, markProviderRefundEventDelivered, Table.find?_modify] at hevent
    split_ifs at hevent with hsame
    · rw [← hsame, hnone] at hevent
      cases hevent
    · rw [hnone] at hevent
      cases hevent

/-! Sequences of operations. -/

theorem after_append_cons (pre post : List StoreCall) (call : StoreCall) :
    after (pre ++ call :: post) = post.foldl apply ((after pre).apply call) := by
  simp [after]

/-- What an execution is for stays. -/
theorem execution_stays (post : List StoreCall) (hrow : store.executions.find? id = some row) :
    ∃ row', (post.foldl apply store).executions.find? id = some row' ∧
      row'.request = row.request := by
  induction post using List.reverseRecOn with
  | nil => exact ⟨row, hrow, rfl⟩
  | append_singleton post call ih =>
    obtain ⟨row', hrow', hrequest⟩ := ih
    obtain ⟨row'', hrow'', hstep⟩ := execution_step call hrow'
    refine ⟨row'', by rw [List.foldl_append]; exact hrow'', ?_⟩
    rw [← hrequest]
    cases hstep <;> rfl

/-- Without a recorded outcome a terminal status stays. -/
theorem terminal_stays (post : List StoreCall)
    (hnone : ∀ status providerRefundId now,
      .recordOutcome id status providerRefundId now ∉ post)
    (hrow : store.executions.find? id = some row) (ht : row.status.terminal = true) :
    ∃ row', (post.foldl apply store).executions.find? id = some row' ∧
      row'.status.terminal = true := by
  induction post using List.reverseRecOn with
  | nil => exact ⟨row, hrow, ht⟩
  | append_singleton post call ih =>
    obtain ⟨row', hrow', ht'⟩ := ih fun status providerRefundId now hmem =>
      hnone status providerRefundId now (List.mem_append_left _ hmem)
    obtain ⟨row'', hrow'', hstep⟩ := execution_step call hrow'
    refine ⟨row'', by rw [List.foldl_append]; exact hrow'', ?_⟩
    cases hstep with
    | kept => exact ht'
    | recorded =>
      rename_i status providerRefundId now
      rw [executionId_of_find hrow'] at hnone
      exact absurd (List.mem_append_right _ (List.mem_singleton_self _))
        (hnone status providerRefundId now)
    | outcome hopen =>
      rw [ht'] at hopen
      cases hopen

/-- An event stays pending until it is marked. -/
theorem event_stays (post : List StoreCall) (hevent : store.providerEvents.find? id = some event) :
    ∃ event', (post.foldl apply store).providerEvents.find? id = some event' ∧
      event'.input = event.input ∧ event'.executionId = event.executionId ∧
      (event'.deliveryStatus = .pending ↔
        event.deliveryStatus = .pending ∧ .markDelivered id ∉ post) := by
  induction post using List.reverseRecOn with
  | nil => exact ⟨event, hevent, rfl, rfl, by simp⟩
  | append_singleton post call ih =>
    obtain ⟨event', hevent', hinput, hexecution, hpending⟩ := ih
    have hid : event'.eventId = id := ((Table.find?_eq_some _ id).mp hevent').2
    refine ⟨seen call event', by rw [List.foldl_append]; exact event_step call hevent',
      (seen_input call event').trans hinput, (seen_executionId call event').trans hexecution, ?_⟩
    rw [seen_pending, hpending, hid, List.mem_append, List.mem_singleton, not_or, and_assoc,
      ne_comm]

/-- The event that has settled an execution and has not been marked since. -/
def Waiting (calls : List StoreCall) (event : PendingProviderRefundEvent) : Prop :=
  ∃ pre input now post execution, calls = pre ++ .recordEvent input now :: post ∧
    (after pre).Settles input now execution.executionId ∧
    (after calls).executions.find? execution.executionId = some execution ∧
    .markDelivered input.eventId ∉ post ∧
    event = ⟨input.eventId, execution.workflowId, input.providerRefundId, input.outcome,
      input.occurredAt⟩

/-- A pending row is that of an event which has settled its execution. -/
theorem pending_origin (hevent : (after calls).providerEvents.find? id = some event)
    (hpending : event.deliveryStatus = .pending) :
    ∃ pre now post, calls = pre ++ .recordEvent event.input now :: post ∧
      (after pre).Settles event.input now event.executionId ∧ .markDelivered id ∉ post := by
  induction calls using List.reverseRecOn generalizing event with
  | nil => cases hevent
  | append_singleton calls call ih =>
    rw [after_concat] at hevent
    cases hbefore : (after calls).providerEvents.find? id with
    | some found =>
      have hid : found.eventId = id := ((Table.find?_eq_some _ id).mp hbefore).2
      rw [event_step call hbefore] at hevent
      cases hevent
      obtain ⟨hfound, hcall⟩ := seen_pending.mp hpending
      obtain ⟨pre, now, post, hsplit, hsettles, hmark⟩ := ih hbefore hfound
      rw [seen_input, seen_executionId]
      refine ⟨pre, now, post ++ [call], by rw [hsplit]; simp, hsettles, ?_⟩
      rw [List.mem_append, List.mem_singleton, not_or]
      exact ⟨hmark, fun heq => hcall (hid ▸ heq.symm)⟩
    | none =>
      obtain ⟨input, now, rfl, rfl, -, hsettles⟩ := event_origin hbefore hevent
      exact ⟨calls, now, [], rfl, hsettles hpending, List.not_mem_nil⟩

/-- Whatever settles an execution waits from then on until it is marked. -/
theorem settled_event {pre post : List StoreCall} (hsettles : (after pre).Settles input now id) :
    ∃ event, (after (pre ++ .recordEvent input now :: post)).providerEvents.find? input.eventId =
        some event ∧ event.input = input ∧ event.executionId = id ∧
      (event.deliveryStatus = .pending ↔ .markDelivered input.eventId ∉ post) := by
  obtain ⟨row, h, hrow, hopen, heq⟩ := settles_iff.mp hsettles
  have hnew : ((after pre).apply (.recordEvent input now)).providerEvents.find? input.eventId =
      some (newEvent input row) := by
    rw [apply, heq, Table.find?_insert]
    exact if_pos rfl
  obtain ⟨event, hevent, hinput, hexecution, hpending⟩ := event_stays post hnew
  rw [← after_append_cons] at hevent
  refine ⟨event, hevent, hinput, hexecution.trans (executionId_of_find hrow), ?_⟩
  rw [hpending]
  simp [newEvent, hopen]

theorem settled_execution {pre post : List StoreCall} (hsettles : (after pre).Settles input now id) :
    ∃ execution, (after (pre ++ .recordEvent input now :: post)).executions.find? id =
      some execution := by
  obtain ⟨-, row, -, -, hrow, -⟩ := hsettles
  obtain ⟨execution, hexecution, -⟩ := execution_stays post hrow
  exact ⟨execution, by rw [after_append_cons]; exact hexecution⟩

theorem mem_listPending_of {pending : PendingProviderRefundEvent} {limit : ℕ}
    (hlimit : store.providerEvents.rows.length ≤ limit) (hevent : event ∈ store.providerEvents.rows)
    (h : store.pendingEvent event = some pending) :
    pending ∈ store.listPendingProviderRefundEvents limit := by
  unfold listPendingProviderRefundEvents
  rw [List.take_of_length_le, List.mem_insertionSort]
  · exact List.mem_filterMap.mpr ⟨event, hevent, h⟩
  · rw [List.length_insertionSort]
    exact (List.length_filterMap_le _ _).trans hlimit

/-- No event is listed twice. -/
theorem listPending_nodup (store : Store) (limit : ℕ) :
    ((store.listPendingProviderRefundEvents limit).map
      PendingProviderRefundEvent.eventId).Nodup := by
  have hsub : ((store.providerEvents.rows.filterMap store.pendingEvent).map
      PendingProviderRefundEvent.eventId).Sublist
        (store.providerEvents.rows.map ProviderEventRow.eventId) := by
    generalize store.providerEvents.rows = rows
    induction rows with
    | nil => exact List.Sublist.refl _
    | cons event rows ih =>
      rw [List.filterMap_cons]
      cases hpending : store.pendingEvent event with
      | none => exact ih.cons _
      | some pending =>
        obtain ⟨-, execution, -, rfl⟩ := pendingEvent_eq_some hpending
        exact ih.cons_cons _
  have hnodup := store.providerEvents.unique.sublist hsub
  unfold listPendingProviderRefundEvents
  refine List.Nodup.sublist ((List.take_sublist _ _).map _) ?_
  exact (((List.perm_insertionSort _ _).map _).nodup_iff).mpr hnodup

/-- The dispatcher is handed the waiting events and no others. -/
theorem waiting_of_listed {pending : PendingProviderRefundEvent} {limit : ℕ}
    (h : pending ∈ (after calls).listPendingProviderRefundEvents limit) : Waiting calls pending := by
  obtain ⟨event, hevent, hpending⟩ := mem_listPending h
  obtain ⟨hstatus, execution, hexecution, rfl⟩ := pendingEvent_eq_some hpending
  obtain ⟨pre, now, post, hsplit, hsettles, hmark⟩ :=
    pending_origin ((after calls).providerEvents.find?_of_mem hevent) hstatus
  rw [← executionId_of_find hexecution] at hsettles hexecution
  exact ⟨pre, event.input, now, post, execution, hsplit, hsettles, hexecution, hmark, rfl⟩

theorem listed_of_waiting {pending : PendingProviderRefundEvent} {limit : ℕ}
    (hlimit : (after calls).providerEvents.rows.length ≤ limit) (h : Waiting calls pending) :
    pending ∈ (after calls).listPendingProviderRefundEvents limit := by
  obtain ⟨pre, input, now, post, execution, rfl, hsettles, hexecution, hmark, rfl⟩ := h
  obtain ⟨event, hevent, rfl, hid, hpending⟩ := settled_event hsettles
  refine mem_listPending_of hlimit ((Table.find?_eq_some _ _).mp hevent).1 ?_
  rw [pendingEvent, if_pos (hpending.mpr hmark), hid, hexecution]
  rfl

/-- An event has been accepted under the identifier. -/
def AcceptedUnder (calls : List StoreCall) (eventId : String) : Prop :=
  ∃ pre input now post, calls = pre ++ .recordEvent input now :: post ∧
    input.eventId = eventId ∧ ((after pre).recordProviderRefundEvent input now).1 = .accepted

theorem duplicate_of_accepted (h : AcceptedUnder calls input.eventId) :
    (after calls).recordProviderRefundEvent input now = (.duplicate, after calls) := by
  obtain ⟨pre, first, at_, post, rfl, hid, haccepted⟩ := h
  obtain ⟨event, hevent⟩ : ∃ event,
      ((after pre).apply (.recordEvent first at_)).providerEvents.find? first.eventId =
        some event := by
    have hr := (after pre).recorded first at_
    rw [haccepted] at hr
    rw [apply]
    generalize ((after pre).recordProviderRefundEvent first at_).2 = left at hr
    cases hr with
    | late row h hrow ht => exact ⟨_, by rw [Table.find?_insert]; exact if_pos rfl⟩
    | settled row h hrow ht => exact ⟨_, by rw [Table.find?_insert]; exact if_pos rfl⟩
  obtain ⟨event', hevent', -⟩ := event_stays post hevent
  rw [← after_append_cons, hid] at hevent'
  unfold recordProviderRefundEvent
  split
  · rfl
  · rename_i hnone
    rw [hevent'] at hnone
    cases hnone

theorem unknown_unchanged
    (h : (store.recordProviderRefundEvent input now).1 = .unknownRefund) :
    (store.recordProviderRefundEvent input now).2 = store := by
  have hr := store.recorded input now
  rw [h] at hr
  generalize (store.recordProviderRefundEvent input now).2 = left at hr ⊢
  cases hr with
  | unknown h => rfl

/-- An execution is settled again only after an outcome has been recorded for it. -/
theorem settled_again {pre mid : List StoreCall} {input' : RecordProviderRefundEventInput} {now' : ℤ}
    (hfirst : (after pre).Settles input now id)
    (hsecond : (after (pre ++ .recordEvent input now :: mid)).Settles input' now' id) :
    ∃ status providerRefundId at_, .recordOutcome id status providerRefundId at_ ∈ mid := by
  by_contra hnone
  obtain ⟨-, row, -, -, hrow, ht⟩ := hfirst
  obtain ⟨row', hrow', ht'⟩ := terminal_stays mid
    (fun status providerRefundId at_ hmem => hnone ⟨status, providerRefundId, at_, hmem⟩) hrow ht
  obtain ⟨other, -, hother, hopen, -⟩ := hsecond
  rw [after_append_cons, apply, hrow'] at hother
  cases hother
  rw [ht'] at hopen
  cases hopen

/-- A refund that is not known yet when its event arrives first. -/
def earlyEvent : RecordProviderRefundEventInput :=
  ⟨"event-1", "refund-1", .completed, "2026-01-01T00:00:02.000Z"⟩

def earlyCalls : List StoreCall := [
  .recordEvent earlyEvent 0,
  .reserve "execution-1" ⟨"tenant-1", "production", "key-1", "workflow-1", "preview-1", "order-1",
    2500, "GBP", 1⟩,
  .recordOutcome "execution-1" .submitted (some "refund-1") 2]

end Store
end CSO.Gateway
