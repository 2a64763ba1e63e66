import CSO.Gateway.Outbox
import CSO.JS.Map
import CSO.JS.Uuid
import CSO.Transition.Doubles

/-! The repository of refund executions that keeps them in memory, beside the Postgres store. -/
namespace CSO.Gateway
open Transition (Double)

/-- A value of `executions`. -/
structure MemoryExecution where
  executionId : String
  status : RefundExecutionStatus
  statusEnteredAt : ℤ
  providerRefundId : Option String
  key : String
  workflowId : String
  previewId : String
  tenantId : String
  environmentId : String
  orderId : String
  amountMinor : ℤ
  currency : String
  deriving DecidableEq, Repr

/-- What `recordOutcome` does to an execution. -/
def MemoryExecution.enter (execution : MemoryExecution) (status : RefundExecutionStatus)
    (providerRefundId : Option String) (now : ℤ) : MemoryExecution :=
  let execution :=
    if execution.status ≠ status then { execution with status := status, statusEnteredAt := now }
    else execution
  match providerRefundId with
  | some refund => { execution with providerRefundId := some refund }
  | none => execution

structure MemoryStore where
  executions : JS.Map String MemoryExecution
  providerEvents : JS.Map String PendingProviderRefundEvent

/-- `${tenantId}:${environmentId}:${idempotencyKey}` -/
def ReserveRefundExecutionInput.memoryKey (input : ReserveRefundExecutionInput) : String :=
  input.tenantId ++ ":" ++ input.environmentId ++ ":" ++ input.idempotencyKey

namespace MemoryStore

def empty : MemoryStore := ⟨.empty, .empty⟩

/-- `public` -/
def publicExecution (execution : MemoryExecution) : RefundExecution where
  executionId := execution.executionId
  status := execution.status
  providerRefundId := execution.providerRefundId

def reserve (store : MemoryStore) (executionId : String) (input : ReserveRefundExecutionInput) :
    Reservation × MemoryStore :=
  match store.executions.get? input.memoryKey with
  | some existing => (.existing (publicExecution existing), store)
  | none =>
    let execution : MemoryExecution :=
      { executionId := executionId
        status := .inProgress
        statusEnteredAt := input.occurredAt
        providerRefundId := none
        key := input.memoryKey
        workflowId := input.workflowId
        previewId := input.previewId
        tenantId := input.tenantId
        environmentId := input.environmentId
        orderId := input.orderId
        amountMinor := input.amountMinor
        currency := input.currency }
    (.reserved executionId, { store with
      executions := store.executions.set input.memoryKey execution })

/-- An execution object is changed where it is, under its key. -/
def change (store : MemoryStore) (execution : MemoryExecution) : MemoryStore :=
  { store with executions := store.executions.set execution.key execution }

/-- `none` when it throws. -/
def recordOutcome (store : MemoryStore) (executionId : String) (status : RefundExecutionStatus)
    (providerRefundId : Option String) (now : ℤ) : Option (RefundExecution × MemoryStore) :=
  match store.executions.values.find? fun item => item.executionId = executionId with
  | none => none
  | some execution =>
    let entered := execution.enter status providerRefundId now
    some (publicExecution entered, store.change entered)

def findSucceeded (store : MemoryStore) (tenantId environmentId orderId : String) (amountMinor : ℤ)
    (currency : String) : Option RefundExecution :=
  (store.executions.values.find? fun item =>
    item.tenantId = tenantId ∧ item.environmentId = environmentId ∧ item.orderId = orderId ∧
      item.amountMinor = amountMinor ∧ item.currency = currency ∧
        item.status = .succeeded).map publicExecution

def findByWorkflowAndPreview (store : MemoryStore)
    (tenantId environmentId workflowId previewId : String) : Option RefundExecution :=
  (store.executions.values.find? fun item =>
    item.tenantId = tenantId ∧ item.environmentId = environmentId ∧ item.workflowId = workflowId ∧
      item.previewId = previewId).map publicExecution

def recordProviderRefundEvent (store : MemoryStore) (input : RecordProviderRefundEventInput)
    (now : ℤ) : RecordEventResult × MemoryStore :=
  if store.providerEvents.get? input.eventId ≠ none then (.duplicate, store)
  else
    match store.executions.values.find? fun item =>
        item.providerRefundId = some input.providerRefundId with
    | none => (.unknownRefund, store)
    | some execution =>
      if execution.status.terminal then (.accepted, store)
      else
        let changed := store.change
          { execution with status := input.outcome.terminalStatus, statusEnteredAt := now }
        (.accepted, { changed with
          providerEvents := store.providerEvents.set input.eventId
            { eventId := input.eventId
              workflowId := execution.workflowId
              providerRefundId := input.providerRefundId
              outcome := input.outcome
              occurredAt := input.occurredAt } })

/-- The events by `localeCompare` of their times. -/
def listPendingProviderRefundEvents (localeLE : String → String → Prop) [DecidableRel localeLE]
    (store : MemoryStore) (limit : ℕ) : List PendingProviderRefundEvent :=
  (store.providerEvents.values.insertionSort fun left right =>
    localeLE left.occurredAt right.occurredAt).take limit

def markProviderRefundEventDelivered (store : MemoryStore) (eventId : String) : MemoryStore :=
  { store with providerEvents := store.providerEvents.delete eventId }

end MemoryStore

/-- `ORDER BY updated_at DESC LIMIT 1`; of equally late rows the first. -/
def Store.findSucceeded (store : Store) (tenantId environmentId orderId : String) (amountMinor : ℤ)
    (currency : String) : Option RefundExecution :=
  (((store.executions.rows.filter fun row =>
    row.tenantId = tenantId ∧ row.environmentId = environmentId ∧ row.orderId = orderId ∧
      row.amountMinor = amountMinor ∧ row.currency = currency ∧
        row.status = .succeeded).insertionSort fun left right =>
          right.updatedAt ≤ left.updatedAt).head?).map toExecution

/-- An operation of either repository with its input, and the identifier it draws. -/
inductive RepositoryCall
  | reserve (executionId : JS.Uuid) (input : ReserveRefundExecutionInput)
  | recordOutcome (executionId : String) (status : RefundExecutionStatus)
      (providerRefundId : Option String)
  | findSucceeded (tenantId environmentId orderId : String) (amountMinor : ℤ) (currency : String)
  | findByWorkflowAndPreview (tenantId environmentId workflowId previewId : String)
  | recordProviderRefundEvent (input : RecordProviderRefundEventInput)
  | listPendingProviderRefundEvents (limit : ℕ)
  | markProviderRefundEventDelivered (eventId : String)
  deriving DecidableEq

inductive RepositoryAnswer
  | reservation (reservation : Reservation)
  | execution (execution : Option RefundExecution)
  | recorded (result : RecordEventResult)
  | pending (events : List PendingProviderRefundEvent)
  | done
  | thrown
  deriving DecidableEq, Repr

/-- A transaction that throws leaves the store as it was. -/
def RepositoryAnswer.ofResult {σ α : Type} (answer : α → RepositoryAnswer) (store : σ) :
    Option (α × σ) → RepositoryAnswer × σ
  | some (a, after) => (answer a, after)
  | none => (.thrown, store)

namespace RepositoryCall

def postgres (now : ℤ) (store : Store) : RepositoryCall → RepositoryAnswer × Store
  | reserve executionId input =>
    RepositoryAnswer.ofResult .reservation store (store.reserve executionId.text input)
  | recordOutcome executionId status providerRefundId =>
    RepositoryAnswer.ofResult (.execution ∘ some) store
      (store.recordOutcome executionId status providerRefundId now)
  | findSucceeded tenantId environmentId orderId amountMinor currency =>
    (.execution (store.findSucceeded tenantId environmentId orderId amountMinor currency), store)
  | findByWorkflowAndPreview tenantId environmentId workflowId previewId =>
    (.execution (store.findByWorkflowAndPreview tenantId environmentId workflowId previewId), store)
  | recordProviderRefundEvent input =>
    let (result, after) := store.recordProviderRefundEvent input now
    (.recorded result, after)
  | listPendingProviderRefundEvents limit =>
    (.pending (store.listPendingProviderRefundEvents limit), store)
  | markProviderRefundEventDelivered eventId =>
    (.done, store.markProviderRefundEventDelivered eventId)

def memory (localeLE : String → String → Prop) [DecidableRel localeLE] (now : ℤ)
    (store : MemoryStore) : RepositoryCall → RepositoryAnswer × MemoryStore
  | reserve executionId input =>
    let (reservation, after) := store.reserve executionId.text input
    (.reservation reservation, after)
  | recordOutcome executionId status providerRefundId =>
    RepositoryAnswer.ofResult (.execution ∘ some) store
      (store.recordOutcome executionId status providerRefundId now)
  | findSucceeded tenantId environmentId orderId amountMinor currency =>
    (.execution (store.findSucceeded tenantId environmentId orderId amountMinor currency), store)
  | findByWorkflowAndPreview tenantId environmentId workflowId previewId =>
    (.execution (store.findByWorkflowAndPreview tenantId environmentId workflowId previewId), store)
  | recordProviderRefundEvent input =>
    let (result, after) := store.recordProviderRefundEvent input now
    (.recorded result, after)
  | listPendingProviderRefundEvents limit =>
    (.pending (store.listPendingProviderRefundEvents localeLE limit), store)
  | markProviderRefundEventDelivered eventId =>
    (.done, store.markProviderRefundEventDelivered eventId)

end RepositoryCall

/-- A call, and what the clock shows at it. -/
structure TimedCall where
  call : RepositoryCall
  now : ℤ

/-- Both repositories, called in the same way. -/
def repositories (localeLE : String → String → Prop) [DecidableRel localeLE] :
    Double MemoryStore Store TimedCall RepositoryAnswer where
  memory e store := e.call.memory localeLE e.now store
  database e store := e.call.postgres e.now store

end CSO.Gateway
