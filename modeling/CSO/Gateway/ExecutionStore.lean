import CSO.JS.Date
import CSO.Transition.Table
import Mathlib.Data.List.Sort

/-! The Postgres store of refund executions and provider events. Every operation is one
transaction; `none` is a transaction that throws and is rolled back. Instants are time values
in milliseconds, except that `occurredAt` keeps its ISO text. -/
namespace CSO.Gateway
open Transition (Table)

inductive RefundExecutionStatus
  | inProgress
  | submitted
  | succeeded
  | failed
  | pendingReconciliation
  deriving DecidableEq, Repr

def RefundExecutionStatus.terminal : RefundExecutionStatus → Bool
  | .succeeded | .failed => true
  | .inProgress | .submitted | .pendingReconciliation => false

/-- A row of `refund.executions`. -/
structure ExecutionRow where
  executionId : String
  tenantId : String
  environmentId : String
  idempotencyKey : String
  workflowId : String
  previewId : String
  orderId : String
  amountMinor : ℤ
  currency : String
  status : RefundExecutionStatus
  providerRefundId : Option String
  createdAt : ℤ
  updatedAt : ℤ
  statusEnteredAt : ℤ
  deriving DecidableEq, Repr

inductive ProviderRefundOutcome
  | completed
  | failed
  deriving DecidableEq, Repr

/-- The status an outcome leaves an execution in. -/
def ProviderRefundOutcome.terminalStatus : ProviderRefundOutcome → RefundExecutionStatus
  | .completed => .succeeded
  | .failed => .failed

inductive DeliveryStatus
  | pending
  | delivered
  deriving DecidableEq, Repr

/-- A row of `refund.provider_events`. -/
structure ProviderEventRow where
  eventId : String
  executionId : String
  providerRefundId : String
  outcome : ProviderRefundOutcome
  occurredAt : String
  deliveryStatus : DeliveryStatus
  deriving DecidableEq, Repr

structure RefundExecution where
  executionId : String
  status : RefundExecutionStatus
  providerRefundId : Option String
  deriving DecidableEq, Repr

def toExecution (row : ExecutionRow) : RefundExecution where
  executionId := row.executionId
  status := row.status
  providerRefundId := row.providerRefundId

structure ReserveRefundExecutionInput where
  tenantId : String
  environmentId : String
  idempotencyKey : String
  workflowId : String
  previewId : String
  orderId : String
  amountMinor : ℤ
  currency : String
  occurredAt : ℤ
  deriving DecidableEq, Repr

/-- The columns of the unique constraint of `refund.executions`. -/
structure ExecutionKey where
  tenantId : String
  environmentId : String
  idempotencyKey : String
  deriving DecidableEq, Repr

def ExecutionRow.key (row : ExecutionRow) : ExecutionKey :=
  ⟨row.tenantId, row.environmentId, row.idempotencyKey⟩

/-- The columns that no update changes, as the input of the insertion. -/
def ExecutionRow.request (row : ExecutionRow) : ReserveRefundExecutionInput where
  tenantId := row.tenantId
  environmentId := row.environmentId
  idempotencyKey := row.idempotencyKey
  workflowId := row.workflowId
  previewId := row.previewId
  orderId := row.orderId
  amountMinor := row.amountMinor
  currency := row.currency
  occurredAt := row.createdAt

def ReserveRefundExecutionInput.key (input : ReserveRefundExecutionInput) : ExecutionKey :=
  ⟨input.tenantId, input.environmentId, input.idempotencyKey⟩

inductive Reservation
  | reserved (executionId : String)
  | existing (execution : RefundExecution)
  deriving DecidableEq, Repr

/-- `COALESCE($3, provider_refund_id)` keeps the recorded refund when none is given. -/
def ExecutionRow.enter (row : ExecutionRow) (status : RefundExecutionStatus)
    (providerRefundId : Option String) (now : ℤ) : ExecutionRow :=
  { row with
    status := status
    providerRefundId := providerRefundId <|> row.providerRefundId
    updatedAt := now
    statusEnteredAt := if row.status = status then row.statusEnteredAt else now }

structure Store where
  executions : Table ExecutionRow String ExecutionRow.executionId
  keys : (executions.rows.map ExecutionRow.key).Nodup
  providerEvents : Table ProviderEventRow String ProviderEventRow.eventId

namespace Store

def empty : Store := ⟨.empty, List.nodup_nil, .empty⟩

def findKey (store : Store) (key : ExecutionKey) : Option ExecutionRow :=
  store.executions.rows.find? fun row => row.key = key

theorem findKey_eq_some {store : Store} {key : ExecutionKey} {row : ExecutionRow} :
    store.findKey key = some row ↔ row ∈ store.executions.rows ∧ row.key = key :=
  Table.find?_eq_some ⟨store.executions.rows, store.keys⟩ key

theorem findKey_eq_none {store : Store} {key : ExecutionKey} :
    store.findKey key = none ↔ ∀ row ∈ store.executions.rows, row.key ≠ key :=
  Table.find?_eq_none ⟨store.executions.rows, store.keys⟩ key

def newRow (executionId : String) (input : ReserveRefundExecutionInput) : ExecutionRow where
  executionId := executionId
  tenantId := input.tenantId
  environmentId := input.environmentId
  idempotencyKey := input.idempotencyKey
  workflowId := input.workflowId
  previewId := input.previewId
  orderId := input.orderId
  amountMinor := input.amountMinor
  currency := input.currency
  status := .inProgress
  providerRefundId := none
  createdAt := input.occurredAt
  updatedAt := input.occurredAt
  statusEnteredAt := input.occurredAt

def insert (store : Store) (executionId : String) (input : ReserveRefundExecutionInput)
    (hid : store.executions.find? executionId = none) (hkey : store.findKey input.key = none) :
    Store :=
  { store with
    executions := store.executions.insert (newRow executionId input) hid
    keys := by
      have hnew := findKey_eq_none.mp hkey
      exact Table.nodup_concat store.keys hnew }

/-- `INSERT ... ON CONFLICT DO NOTHING`, then the row that was there. The insert throws when
the identifier is taken or the amount fails its check. -/
def reserve (store : Store) (executionId : String) (input : ReserveRefundExecutionInput) :
    Option (Reservation × Store) :=
  match hkey : store.findKey input.key with
  | some row => some (.existing (toExecution row), store)
  | none =>
    if hid : store.executions.find? executionId = none ∧ 0 < input.amountMinor then
      some (.reserved executionId, store.insert executionId input hid.1 hkey)
    else none

/-- `UPDATE refund.executions ... WHERE execution_id`. -/
def enter (store : Store) (executionId : String) (status : RefundExecutionStatus)
    (providerRefundId : Option String) (now : ℤ) : Store :=
  { store with
    executions := store.executions.modify executionId
      (fun row => row.enter status providerRefundId now) fun _ => rfl
    keys := by
      have hkey : ∀ row : ExecutionRow, (row.enter status providerRefundId now).key = row.key :=
        fun _ => rfl
      unfold Table.modify
      rw [Table.map_update hkey]
      exact store.keys }

def recordOutcome (store : Store) (executionId : String) (status : RefundExecutionStatus)
    (providerRefundId : Option String) (now : ℤ) : Option (RefundExecution × Store) :=
  match store.executions.find? executionId with
  | none => none
  | some row => some (toExecution (row.enter status providerRefundId now),
      store.enter executionId status providerRefundId now)

/-- `ORDER BY updated_at DESC LIMIT 1`; of equally late rows the first. -/
def findByWorkflowAndPreview (store : Store) (tenantId environmentId workflowId previewId : String) :
    Option RefundExecution :=
  (((store.executions.rows.filter fun row =>
    row.tenantId = tenantId ∧ row.environmentId = environmentId ∧ row.workflowId = workflowId ∧
      row.previewId = previewId).insertionSort fun left right =>
        right.updatedAt ≤ left.updatedAt).head?).map toExecution

end Store

inductive RecordEventResult
  | accepted
  | duplicate
  | unknownRefund
  deriving DecidableEq, Repr

structure RecordProviderRefundEventInput where
  eventId : String
  providerRefundId : String
  outcome : ProviderRefundOutcome
  occurredAt : String
  deriving DecidableEq, Repr

structure PendingProviderRefundEvent where
  eventId : String
  workflowId : String
  providerRefundId : String
  outcome : ProviderRefundOutcome
  occurredAt : String
  deriving DecidableEq, Repr

namespace Store

def newEvent (input : RecordProviderRefundEventInput) (row : ExecutionRow) : ProviderEventRow where
  eventId := input.eventId
  executionId := row.executionId
  providerRefundId := input.providerRefundId
  outcome := input.outcome
  occurredAt := input.occurredAt
  deliveryStatus := if row.status.terminal then .delivered else .pending

/-- A refund that no execution or more than one has recorded is unknown. -/
def recordProviderRefundEvent (store : Store) (input : RecordProviderRefundEventInput) (now : ℤ) :
    RecordEventResult × Store :=
  match hid : store.providerEvents.find? input.eventId with
  | some _ => (.duplicate, store)
  | none =>
    match store.executions.rows.filter fun row =>
      row.providerRefundId = some input.providerRefundId with
    | [row] =>
      let entered :=
        if row.status.terminal then store
        else store.enter row.executionId input.outcome.terminalStatus none now
      (.accepted, { entered with
        providerEvents := store.providerEvents.insert (newEvent input row) hid })
    | _ => (.unknownRefund, store)

def pendingEvent (store : Store) (event : ProviderEventRow) : Option PendingProviderRefundEvent :=
  if event.deliveryStatus = .pending then
    (store.executions.find? event.executionId).map fun row =>
      { eventId := event.eventId
        workflowId := row.workflowId
        providerRefundId := event.providerRefundId
        outcome := event.outcome
        occurredAt := event.occurredAt }
  else none

/-- The pending events, earliest first. -/
def listPendingProviderRefundEvents (store : Store) (limit : ℕ) :
    List PendingProviderRefundEvent :=
  ((store.providerEvents.rows.filterMap store.pendingEvent).insertionSort fun left right =>
    (JS.Date.parse left.occurredAt).getD 0 ≤ (JS.Date.parse right.occurredAt).getD 0).take limit

def markProviderRefundEventDelivered (store : Store) (eventId : String) : Store :=
  { store with
    providerEvents := store.providerEvents.modify eventId
      (fun event => { event with deliveryStatus := .delivered }) fun _ => rfl }

variable {store : Store} {row : ExecutionRow} {id : String}

theorem mem_rows_iff : row ∈ store.executions.rows ↔
    store.executions.find? row.executionId = some row := by
  rw [store.executions.find?_eq_some]
  exact (and_iff_left rfl).symm

theorem executionId_of_find (h : store.executions.find? id = some row) : row.executionId = id :=
  ((store.executions.find?_eq_some id).mp h).2

/-- Rows under one key are one row. -/
theorem eq_of_key {row' : ExecutionRow} (h : row ∈ store.executions.rows)
    (h' : row' ∈ store.executions.rows) (hkey : row.key = row'.key) : row = row' :=
  Table.eq_of_unique store.keys h h' hkey

theorem find_insert {executionId : String} {input : ReserveRefundExecutionInput}
    {hid : store.executions.find? executionId = none} {hkey : store.findKey input.key = none} :
    (store.insert executionId input hid hkey).executions.find? id =
      if executionId = id then some (newRow executionId input)
      else store.executions.find? id :=
  store.executions.find?_insert id (newRow executionId input) hid

theorem find_enter {status : RefundExecutionStatus} {providerRefundId : Option String} {now : ℤ}
    {executionId : String} :
    (store.enter executionId status providerRefundId now).executions.find? id =
      if id = executionId then
        (store.executions.find? executionId).map fun row => row.enter status providerRefundId now
      else store.executions.find? id :=
  store.executions.find?_modify executionId id
    (fun row => row.enter status providerRefundId now) fun _ => rfl

/-- An accepted event concerns the one execution its refund is recorded on. -/
theorem recordProviderRefundEvent_cases (store : Store) (input : RecordProviderRefundEventInput)
    (now : ℤ) :
    ((store.recordProviderRefundEvent input now).1 ≠ .accepted ∧
      (store.recordProviderRefundEvent input now).2 = store) ∨
    ∃ row, row ∈ store.executions.rows ∧ row.providerRefundId = some input.providerRefundId ∧
      (store.recordProviderRefundEvent input now).1 = .accepted ∧
      (store.recordProviderRefundEvent input now).2.executions =
        if row.status.terminal then store.executions
        else (store.enter row.executionId input.outcome.terminalStatus none now).executions := by
  unfold recordProviderRefundEvent
  split
  · exact .inl ⟨nofun, rfl⟩
  · split
    · rename_i row hrow
      have hmem : row ∈ store.executions.rows.filter fun row =>
          row.providerRefundId = some input.providerRefundId := by simp [hrow]
      have hrow := List.mem_filter.mp hmem
      refine .inr ⟨row, hrow.1, by simpa using hrow.2, rfl, ?_⟩
      cases row.status.terminal <;> rfl
    · exact .inl ⟨nofun, rfl⟩

/-- The event of a refund that one execution has recorded is never answered as unknown. -/
theorem recordProviderRefundEvent_known (input : RecordProviderRefundEventInput) (now : ℤ)
    (h : row ∈ store.executions.rows) (hid : row.providerRefundId = some input.providerRefundId)
    (huniq : ∀ other ∈ store.executions.rows,
      other.providerRefundId = row.providerRefundId → other = row) :
    (store.recordProviderRefundEvent input now).1 ≠ .unknownRefund := by
  have hfilter : (store.executions.rows.filter fun row =>
      row.providerRefundId = some input.providerRefundId) = [row] := by
    apply Table.filter_eq_singleton (List.Nodup.of_map _ store.executions.unique) h
    · simpa using hid
    · intro other ho hp
      exact huniq other ho (by rw [hid]; simpa using hp)
  unfold recordProviderRefundEvent
  split
  · exact nofun
  · simp [hfilter]

end Store
end CSO.Gateway
