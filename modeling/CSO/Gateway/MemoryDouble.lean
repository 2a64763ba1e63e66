import CSO.Gateway.Events
import CSO.Gateway.MemoryRepository

/-! When the repository in memory answers as the Postgres store does. -/
namespace CSO.Gateway
open Transition (Table Machine IsPostgresText)

/-- What `toISOString` writes. -/
def IsInstant (text : String) : Prop :=
  ∃ t, JS.Date.FourDigitYear t ∧ JS.Date.toISOString t = some text

/-- The text that the row is kept under in memory. -/
def ExecutionRow.memoryKey (row : ExecutionRow) : String :=
  row.tenantId ++ ":" ++ row.environmentId ++ ":" ++ row.idempotencyKey

/-- The first of the rows that are found is also the one that was changed last. -/
def Store.FirstIsLatest (store : Store) (found : ExecutionRow → Bool) : Prop :=
  ∀ first ∈ (store.executions.rows.filter found).head?,
    ∀ row ∈ store.executions.rows.filter found, row.updatedAt ≤ first.updatedAt

namespace RepositoryCall

/-- What a call asks of the store so that the memory can do the same. -/
def Kept (store : Store) : RepositoryCall → Prop
  | reserve executionId input =>
    store.executions.find? executionId.text = none ∧ 0 < input.amountMinor ∧
      ∀ row ∈ store.executions.rows, row.memoryKey = input.memoryKey → row.key = input.key
  | recordOutcome executionId _ _ => ∃ uuid : JS.Uuid, uuid.text = executionId
  | findSucceeded tenantId environmentId orderId amountMinor currency =>
    store.FirstIsLatest fun row =>
      row.tenantId = tenantId ∧ row.environmentId = environmentId ∧ row.orderId = orderId ∧
        row.amountMinor = amountMinor ∧ row.currency = currency ∧ row.status = .succeeded
  | findByWorkflowAndPreview tenantId environmentId workflowId previewId =>
    store.FirstIsLatest fun row =>
      row.tenantId = tenantId ∧ row.environmentId = environmentId ∧ row.workflowId = workflowId ∧
        row.previewId = previewId
  | recordProviderRefundEvent input =>
    IsInstant input.occurredAt ∧
      (∀ event, store.providerEvents.find? input.eventId = some event →
        event.deliveryStatus = .pending) ∧
      (store.executions.rows.filter fun row =>
        row.providerRefundId = some input.providerRefundId).length ≤ 1
  | listPendingProviderRefundEvents _ => True
  | markProviderRefundEventDelivered _ => True

/-- The texts of a call. -/
def texts : RepositoryCall → List String
  | reserve _ input => [input.tenantId, input.environmentId, input.idempotencyKey,
      input.workflowId, input.previewId, input.orderId, input.currency]
  | recordOutcome executionId _ providerRefundId => executionId :: providerRefundId.toList
  | findSucceeded tenantId environmentId orderId _ currency =>
    [tenantId, environmentId, orderId, currency]
  | findByWorkflowAndPreview tenantId environmentId workflowId previewId =>
    [tenantId, environmentId, workflowId, previewId]
  | recordProviderRefundEvent input => [input.eventId, input.providerRefundId, input.occurredAt]
  | listPendingProviderRefundEvents _ => []
  | markProviderRefundEventDelivered eventId => [eventId]

end RepositoryCall

/-- A row as it is kept in memory. -/
def ExecutionRow.inMemory (row : ExecutionRow) : MemoryExecution where
  executionId := row.executionId
  status := row.status
  statusEnteredAt := row.statusEnteredAt
  providerRefundId := row.providerRefundId
  key := row.memoryKey
  workflowId := row.workflowId
  previewId := row.previewId
  tenantId := row.tenantId
  environmentId := row.environmentId
  orderId := row.orderId
  amountMinor := row.amountMinor
  currency := row.currency

namespace Store

def pendingEvents (store : Store) : List PendingProviderRefundEvent :=
  store.providerEvents.rows.filterMap store.pendingEvent

/-- The memory holds every execution and the events that are pending. -/
structure InMemory (store : Store) (memory : MemoryStore) : Prop where
  executions : memory.executions.entries =
    store.executions.rows.map fun row => (row.memoryKey, row.inMemory)
  events : memory.providerEvents.entries =
    store.pendingEvents.map fun event => (event.eventId, event)
  referenced : ∀ event ∈ store.providerEvents.rows,
    (store.executions.find? event.executionId).isSome
  instants : ∀ event ∈ store.providerEvents.rows, IsInstant event.occurredAt

variable {store : Store} {memory : MemoryStore}

theorem empty_inMemory : Store.empty.InMemory .empty where
  executions := rfl
  events := rfl
  referenced := fun _ h => absurd h List.not_mem_nil
  instants := fun _ h => absurd h List.not_mem_nil

theorem InMemory.values (h : store.InMemory memory) :
    memory.executions.values = store.executions.rows.map ExecutionRow.inMemory := by
  rw [JS.Map.values, h.executions, List.map_map]
  rfl

/-- Rows that are kept under one text are one row. -/
theorem InMemory.eq_of_memoryKey (h : store.InMemory memory) {row row' : ExecutionRow}
    (hrow : row ∈ store.executions.rows) (hrow' : row' ∈ store.executions.rows)
    (hkey : row.memoryKey = row'.memoryKey) : row = row' := by
  have hunique := memory.executions.unique
  rw [h.executions, List.map_map] at hunique
  exact List.inj_on_of_nodup_map hunique hrow hrow' hkey

theorem InMemory.get_execution (h : store.InMemory memory) {row : ExecutionRow}
    (hrow : row ∈ store.executions.rows) :
    memory.executions.get? row.memoryKey = some row.inMemory := by
  rw [JS.Map.get?_eq_some, h.executions]
  exact List.mem_map.mpr ⟨row, hrow, rfl⟩

theorem InMemory.find_execution (h : store.InMemory memory) (found : ExecutionRow → Bool)
    (foundInMemory : MemoryExecution → Bool)
    (hsame : ∀ row : ExecutionRow, foundInMemory row.inMemory = found row) :
    memory.executions.values.find? foundInMemory =
      (store.executions.rows.find? found).map ExecutionRow.inMemory := by
  rw [h.values, List.find?_map]
  congr 2
  funext row
  exact hsame row

/-- Only the workflow of its execution matters to an event. -/
theorem pendingEvent_congr {after : Store} {event : ProviderEventRow}
    (hworkflow : (after.executions.find? event.executionId).map ExecutionRow.workflowId =
      (store.executions.find? event.executionId).map ExecutionRow.workflowId) :
    after.pendingEvent event = store.pendingEvent event := by
  rw [pendingEvent, pendingEvent]
  by_cases hpending : event.deliveryStatus = .pending
  · rw [if_pos hpending, if_pos hpending]
    cases hafter : after.executions.find? event.executionId with
    | none =>
      rw [hafter, Option.map_none] at hworkflow
      rw [Option.map_eq_none_iff.mp hworkflow.symm]
    | some row =>
      rw [hafter, Option.map_some] at hworkflow
      obtain ⟨other, hother, hsame⟩ := Option.map_eq_some_iff.mp hworkflow.symm
      rw [hother, Option.map_some, Option.map_some, hsame]
  · rw [if_neg hpending, if_neg hpending]

theorem pendingEvents_congr {after : Store}
    (hevents : after.providerEvents.rows = store.providerEvents.rows)
    (hworkflows : ∀ event ∈ store.providerEvents.rows,
      (after.executions.find? event.executionId).map ExecutionRow.workflowId =
        (store.executions.find? event.executionId).map ExecutionRow.workflowId) :
    after.pendingEvents = store.pendingEvents := by
  rw [pendingEvents, hevents]
  exact List.filterMap_congr fun event hevent => pendingEvent_congr (hworkflows event hevent)

/-- A further event is the last one. -/
theorem pendingEvents_concat {after : Store} {new : ProviderEventRow}
    (hevents : after.providerEvents.rows = store.providerEvents.rows ++ [new])
    (hworkflows : ∀ event ∈ store.providerEvents.rows,
      (after.executions.find? event.executionId).map ExecutionRow.workflowId =
        (store.executions.find? event.executionId).map ExecutionRow.workflowId) :
    after.pendingEvents = store.pendingEvents ++ (after.pendingEvent new).toList := by
  rw [pendingEvents, hevents, List.filterMap_append, List.filterMap_congr
    fun event hevent => pendingEvent_congr (hworkflows event hevent)]
  congr 1

theorem enter_workflowId (store : Store) (executionId : String) (status : RefundExecutionStatus)
    (providerRefundId : Option String) (now : ℤ) (id : String) :
    ((store.enter executionId status providerRefundId now).executions.find? id).map
        ExecutionRow.workflowId =
      (store.executions.find? id).map ExecutionRow.workflowId := by
  rw [find_enter]
  split_ifs with hid
  · rw [hid, Option.map_map]
    rfl
  · rfl

/-- A row is changed where it stands, in both. -/
theorem InMemory.enter (h : store.InMemory memory) {row : ExecutionRow}
    (hrow : row ∈ store.executions.rows) {status : RefundExecutionStatus}
    {providerRefundId : Option String} {now : ℤ} {execution : MemoryExecution}
    (hexecution : execution = (row.enter status providerRefundId now).inMemory) :
    (store.enter row.executionId status providerRefundId now).InMemory
      (memory.change execution) := by
  have hget : memory.executions.get? row.memoryKey ≠ none := by
    rw [h.get_execution hrow]
    exact Option.some_ne_none _
  refine ⟨?_, ?_, ?_, h.instants⟩
  · rw [MemoryStore.change, hexecution]
    show (memory.executions.set row.memoryKey _).entries = _
    rw [JS.Map.entries_set_old hget, h.executions, List.map_map]
    show _ = (store.executions.rows.map fun other =>
      if other.executionId = row.executionId then other.enter status providerRefundId now
        else other).map fun row => (row.memoryKey, row.inMemory)
    rw [List.map_map]
    refine List.map_congr_left fun other hother => ?_
    rw [Function.comp_apply, Function.comp_apply]
    by_cases hid : other.executionId = row.executionId
    · have hsame : other = row := Table.eq_of_unique store.executions.unique hother hrow hid
      rw [if_pos hid, hsame]
      exact if_pos rfl
    · rw [if_neg hid]
      refine if_neg fun hkey => hid ?_
      rw [h.eq_of_memoryKey hother hrow hkey]
  · have hpending := @pendingEvents_congr store
      (store.enter row.executionId status providerRefundId now) rfl
      fun event _ => enter_workflowId store _ _ _ _ _
    rw [hpending]
    exact h.events
  · intro event hevent
    have hworkflow := enter_workflowId store row.executionId status providerRefundId now
      event.executionId
    rw [← Option.isSome_map (f := ExecutionRow.workflowId), hworkflow, Option.isSome_map]
    exact h.referenced event hevent

/-! Each call. -/

theorem InMemory.reserve (h : store.InMemory memory) (uuid : JS.Uuid)
    (input : ReserveRefundExecutionInput)
    (hkept : (RepositoryCall.reserve uuid input).Kept store) :
    ∃ reservation after, store.reserve uuid.text input = some (reservation, after) ∧
      (memory.reserve uuid.text input).1 = reservation ∧
        after.InMemory (memory.reserve uuid.text input).2 := by
  obtain ⟨hid, hamount, hkeys⟩ := hkept
  rw [MemoryStore.reserve]
  cases hfind : store.findKey input.key with
  | some row =>
    obtain ⟨hrow, hkey⟩ := findKey_eq_some.mp hfind
    have hmemory : row.memoryKey = input.memoryKey := by
      have hparts := ExecutionKey.mk.inj hkey
      rw [ExecutionRow.memoryKey, ReserveRefundExecutionInput.memoryKey, hparts.1, hparts.2.1,
        hparts.2.2]
    have hget := h.get_execution hrow
    rw [hmemory] at hget
    rw [hget]
    exact ⟨_, store, reserve_of_findKey _ hfind, rfl, h⟩
  | none =>
    have hget : memory.executions.get? input.memoryKey = none := by
      rw [JS.Map.get?_eq_none, h.executions]
      intro entry hentry heq
      obtain ⟨row, hrow, rfl⟩ := List.mem_map.mp hentry
      exact findKey_eq_none.mp hfind row hrow (hkeys row hrow heq)
    rw [hget]
    refine ⟨.reserved uuid.text, store.insert uuid.text input hid hfind, ?_, rfl, ?_⟩
    · rw [Store.reserve]
      split
      · rename_i row hrow
        rw [hfind] at hrow
        cases hrow
      · rw [dif_pos ⟨hid, hamount⟩]
    · have hfound (id : String) (hsome : (store.executions.find? id).isSome) :
          (store.insert uuid.text input hid hfind).executions.find? id =
            store.executions.find? id := by
        rw [find_insert]
        refine if_neg fun heq => ?_
        rw [← heq, hid] at hsome
        cases hsome
      refine ⟨?_, ?_, fun event hevent => ?_, h.instants⟩
      · dsimp only
        rw [JS.Map.entries_set_new hget, h.executions]
        show _ = (store.executions.rows ++ [newRow uuid.text input]).map _
        rw [List.map_append]
        rfl
      · have hpending := @pendingEvents_congr store (store.insert uuid.text input hid hfind) rfl
          fun event hevent => congrArg _ (hfound _ (h.referenced event hevent))
        rw [hpending]
        exact h.events
      · rw [hfound _ (h.referenced event hevent)]
        exact h.referenced event hevent

theorem inMemory_enter (row : ExecutionRow) (status : RefundExecutionStatus)
    (providerRefundId : Option String) (now : ℤ) :
    row.inMemory.enter status providerRefundId now =
      (row.enter status providerRefundId now).inMemory := by
  have hstatus : row.inMemory.status = row.status := rfl
  unfold MemoryExecution.enter
  by_cases hsame : row.status = status
  · have hentered : (row.enter status providerRefundId now).statusEnteredAt =
        row.statusEnteredAt := if_pos hsame
    rw [hstatus, if_neg (not_not_intro hsame), ExecutionRow.inMemory, ExecutionRow.inMemory,
      hentered, ← hsame]
    cases providerRefundId <;> rfl
  · have hentered : (row.enter status providerRefundId now).statusEnteredAt = now := if_neg hsame
    rw [hstatus, if_pos hsame, ExecutionRow.inMemory, ExecutionRow.inMemory, hentered]
    cases providerRefundId <;> rfl

theorem InMemory.recordOutcome (h : store.InMemory memory) (executionId : String)
    (status : RefundExecutionStatus) (providerRefundId : Option String) (now : ℤ) :
    (store.recordOutcome executionId status providerRefundId now = none ∧
        memory.recordOutcome executionId status providerRefundId now = none) ∨
      ∃ execution after memoryAfter,
        store.recordOutcome executionId status providerRefundId now = some (execution, after) ∧
          memory.recordOutcome executionId status providerRefundId now =
            some (execution, memoryAfter) ∧ after.InMemory memoryAfter := by
  have hfind := h.find_execution (fun row => row.executionId = executionId)
    (fun item => item.executionId = executionId) fun _ => rfl
  rw [Store.recordOutcome, MemoryStore.recordOutcome, hfind, ← Table.find?]
  cases hrow : store.executions.find? executionId with
  | none => exact .inl ⟨rfl, rfl⟩
  | some row =>
    have hentered := h.enter (List.mem_of_find?_eq_some hrow)
      (inMemory_enter row status providerRefundId now)
    rw [executionId_of_find hrow] at hentered
    refine .inr ⟨_, _, _, rfl, ?_, hentered⟩
    dsimp only [Option.map_some]
    rw [inMemory_enter]
    rfl

/-- The first in memory is the latest in the store. -/
theorem InMemory.find_first (h : store.InMemory memory) {found : ExecutionRow → Bool}
    {foundInMemory : MemoryExecution → Bool}
    (hsame : ∀ row : ExecutionRow, foundInMemory row.inMemory = found row)
    (hfirst : store.FirstIsLatest found) :
    (memory.executions.values.find? foundInMemory).map MemoryStore.publicExecution =
      (((store.executions.rows.filter found).insertionSort fun left right =>
        right.updatedAt ≤ left.updatedAt).head?).map toExecution := by
  rw [h.find_execution found foundInMemory hsame, ← List.head?_filter, Option.map_map]
  rw [FirstIsLatest] at hfirst
  cases hrows : store.executions.rows.filter found with
  | nil => rfl
  | cons first rest =>
    rw [hrows] at hfirst
    have hlatest := hfirst first rfl
    have hhead : ((first :: rest).insertionSort fun left right =>
        right.updatedAt ≤ left.updatedAt).head? = some first := by
      rw [List.insertionSort_cons_of_forall_rel _ fun row hrow =>
        hlatest row (List.mem_cons_of_mem _ hrow)]
      rfl
    rw [hhead]
    rfl

/-- An event is in memory as long as it is pending. -/
theorem InMemory.get_event (h : store.InMemory memory) (eventId : String)
    (hpending : ∀ event, store.providerEvents.find? eventId = some event →
      event.deliveryStatus = .pending) :
    memory.providerEvents.get? eventId = none ↔ store.providerEvents.find? eventId = none := by
  rw [JS.Map.get?_eq_none, h.events]
  constructor
  · intro hnone
    cases hfind : store.providerEvents.find? eventId with
    | none => rfl
    | some event =>
      obtain ⟨hmem, hid⟩ := (store.providerEvents.find?_eq_some eventId).mp hfind
      obtain ⟨row, hrow⟩ := Option.isSome_iff_exists.mp (h.referenced event hmem)
      have hlisted : store.pendingEvent event = some ⟨event.eventId, row.workflowId,
          event.providerRefundId, event.outcome, event.occurredAt⟩ := by
        rw [pendingEvent, if_pos (hpending event hfind), hrow]
        rfl
      exact absurd hid (hnone _ (List.mem_map.mpr
        ⟨_, List.mem_filterMap.mpr ⟨event, hmem, hlisted⟩, rfl⟩))
  · intro hnone entry hentry heq
    obtain ⟨pending, hlisted, rfl⟩ := List.mem_map.mp hentry
    obtain ⟨event, hmem, hevent⟩ := List.mem_filterMap.mp hlisted
    obtain ⟨-, row, -, rfl⟩ := pendingEvent_eq_some hevent
    exact (store.providerEvents.find?_eq_none eventId).mp hnone event hmem heq

theorem InMemory.recordProviderRefundEvent (h : store.InMemory memory)
    (input : RecordProviderRefundEventInput) (now : ℤ)
    (hkept : (RepositoryCall.recordProviderRefundEvent input).Kept store) :
    (memory.recordProviderRefundEvent input now).1 = (store.recordProviderRefundEvent input now).1 ∧
      (store.recordProviderRefundEvent input now).2.InMemory
        (memory.recordProviderRefundEvent input now).2 := by
  obtain ⟨hinstant, hpending, hone⟩ := hkept
  have hget := h.get_event input.eventId hpending
  rw [MemoryStore.recordProviderRefundEvent]
  by_cases hnew : store.providerEvents.find? input.eventId = none
  swap
  · rw [if_pos fun hnone => hnew (hget.mp hnone)]
    have hduplicate : store.recordProviderRefundEvent input now = (.duplicate, store) := by
      unfold Store.recordProviderRefundEvent
      split
      · rfl
      · rename_i hnone
        exact absurd hnone hnew
    rw [hduplicate]
    exact ⟨rfl, h⟩
  rw [if_neg (not_not_intro (hget.mpr hnew))]
  have hfind := h.find_execution (fun row => row.providerRefundId = some input.providerRefundId)
    (fun item => item.providerRefundId = some input.providerRefundId) fun _ => rfl
  rw [hfind, ← List.head?_filter]
  cases hrows : store.executions.rows.filter fun row =>
      row.providerRefundId = some input.providerRefundId with
  | nil =>
    have hunknown : store.recordProviderRefundEvent input now = (.unknownRefund, store) := by
      unfold Store.recordProviderRefundEvent
      split
      · rename_i event hevent
        rw [hnew] at hevent
        cases hevent
      · rw [hrows]
    rw [hunknown]
    exact ⟨rfl, h⟩
  | cons row rest =>
    rw [hrows, List.length_cons] at hone
    have hrest : rest = [] := List.length_eq_zero_iff.mp (by omega)
    rw [hrest] at hrows
    have hmem : row ∈ store.executions.rows := by
      refine List.mem_of_mem_filter (p := fun row =>
        decide (row.providerRefundId = some input.providerRefundId)) ?_
      rw [hrows]
      exact List.mem_singleton_self row
    have haccepted : store.recordProviderRefundEvent input now = (.accepted,
        { (if row.status.terminal then store
            else store.enter row.executionId input.outcome.terminalStatus none now) with
          providerEvents := store.providerEvents.insert (newEvent input row) hnew }) := by
      unfold Store.recordProviderRefundEvent
      split
      · rename_i event hevent
        rw [hnew] at hevent
        cases hevent
      · rw [hrows]
    rw [haccepted]
    dsimp only [List.head?_cons, Option.map_some]
    have hstatus : row.inMemory.status = row.status := rfl
    have hrow : (store.executions.find? row.executionId).isSome :=
      Option.isSome_iff_exists.mpr ⟨row, mem_rows_iff.mp hmem⟩
    have hinstants : ∀ event ∈ store.providerEvents.rows ++ [newEvent input row],
        IsInstant event.occurredAt := by
      intro event hevent
      rcases List.mem_append.mp hevent with hold | hlast
      · exact h.instants event hold
      · rw [List.mem_singleton.mp hlast]
        exact hinstant
    have hreferenced : ∀ event ∈ store.providerEvents.rows ++ [newEvent input row],
        (store.executions.find? event.executionId).isSome := by
      intro event hevent
      rcases List.mem_append.mp hevent with hold | hlast
      · exact h.referenced event hold
      · rw [List.mem_singleton.mp hlast]
        exact hrow
    rw [hstatus]
    cases hterminal : row.status.terminal with
    | true =>
      refine ⟨rfl, h.executions, ?_, hreferenced, hinstants⟩
      refine h.events.trans (congrArg _ ?_)
      have hdelivered : (newEvent input row).deliveryStatus ≠ .pending := by
        rw [newEvent, if_pos hterminal]
        intro hsame
        cases hsame
      have hpendings := @pendingEvents_concat store
        { store with providerEvents := store.providerEvents.insert (newEvent input row) hnew } _ rfl
        fun event _ => rfl
      rw [pendingEvent, if_neg hdelivered] at hpendings
      exact (hpendings.trans (List.append_nil _)).symm
    | false =>
      have hdiffers : row.inMemory.status ≠ input.outcome.terminalStatus := by
        intro hsame
        rw [hstatus] at hsame
        rw [hsame, terminalStatus_terminal] at hterminal
        cases hterminal
      have hchanged : row.inMemory.enter input.outcome.terminalStatus none now =
          { row.inMemory with
            status := input.outcome.terminalStatus, statusEnteredAt := now } := by
        unfold MemoryExecution.enter
        rw [if_pos hdiffers]
      have hentered := h.enter hmem (inMemory_enter row input.outcome.terminalStatus none now)
      rw [hchanged] at hentered
      refine ⟨rfl, hentered.executions, ?_, fun event hevent => ?_, hinstants⟩
      · have hpendings := @pendingEvents_concat store
          { store.enter row.executionId input.outcome.terminalStatus none now with
            providerEvents := store.providerEvents.insert (newEvent input row) hnew } _ rfl
          fun event _ => enter_workflowId store _ _ _ _ _
        have hpending : (newEvent input row).deliveryStatus = .pending := by
          rw [newEvent, if_neg (by rw [hterminal]; exact Bool.false_ne_true)]
        have hworkflow := enter_workflowId store row.executionId input.outcome.terminalStatus none now
          row.executionId
        rw [mem_rows_iff.mp hmem, Option.map_some] at hworkflow
        obtain ⟨entered, hfound, hsame⟩ := Option.map_eq_some_iff.mp hworkflow
        have hlast : pendingEvent { store.enter row.executionId input.outcome.terminalStatus none now
            with providerEvents := store.providerEvents.insert (newEvent input row) hnew }
              (newEvent input row) = some ⟨input.eventId, row.workflowId, input.providerRefundId,
                input.outcome, input.occurredAt⟩ := by
          rw [pendingEvent, if_pos hpending, ← hsame]
          exact congrArg (Option.map _) hfound
        rw [hlast] at hpendings
        refine (JS.Map.entries_set_new (hget.mpr hnew) _).trans ?_
        rw [h.events]
        refine Eq.trans ?_ (congrArg _ hpendings.symm)
        rw [List.map_append]
        rfl
      · have hworkflow := enter_workflowId store row.executionId input.outcome.terminalStatus none now
          event.executionId
        have hsome := hreferenced event hevent
        rw [← Option.isSome_map (f := ExecutionRow.workflowId)] at hsome ⊢
        exact (congrArg Option.isSome hworkflow).trans hsome

/-- Lists are sorted alike by relations that agree on their elements. -/
theorem insertionSort_congr {α : Type} {r s : α → α → Prop} [DecidableRel r] [DecidableRel s]
    {l : List α} (h : ∀ a ∈ l, ∀ b ∈ l, r a b ↔ s a b) : l.insertionSort r = l.insertionSort s := by
  induction l with
  | nil => rfl
  | cons a l ih =>
    have hrest := ih fun b hb c hc => h b (List.mem_cons_of_mem _ hb) c (List.mem_cons_of_mem _ hc)
    rw [List.insertionSort_cons, List.insertionSort_cons, hrest]
    have hmem : ∀ b ∈ l.insertionSort s, b ∈ l := fun b hb => (List.mem_insertionSort s).mp hb
    generalize l.insertionSort s = sorted at hmem
    clear ih hrest
    induction sorted with
    | nil => rfl
    | cons b sorted ih =>
      have hsame := h a List.mem_cons_self b (List.mem_cons_of_mem _ (hmem b List.mem_cons_self))
      rw [List.orderedInsert_cons, List.orderedInsert_cons]
      by_cases hab : s a b
      · rw [if_pos (hsame.mpr hab), if_pos hab]
      · rw [if_neg fun hr => hab (hsame.mp hr), if_neg hab,
          ih fun c hc => hmem c (List.mem_cons_of_mem _ hc)]

/-- `localeCompare` orders what `toISOString` writes by time. -/
def OrdersInstants (localeLE : String → String → Prop) : Prop :=
  ∀ t u text text', JS.Date.FourDigitYear t → JS.Date.FourDigitYear u →
    JS.Date.toISOString t = some text → JS.Date.toISOString u = some text' →
      (localeLE text text' ↔ t ≤ u)

theorem InMemory.listPending (h : store.InMemory memory) {localeLE : String → String → Prop}
    [DecidableRel localeLE] (hlocale : OrdersInstants localeLE) (limit : ℕ) :
    memory.listPendingProviderRefundEvents localeLE limit =
      store.listPendingProviderRefundEvents limit := by
  have hvalues : memory.providerEvents.values = store.pendingEvents := by
    rw [JS.Map.values, h.events, List.map_map]
    exact List.map_id _
  rw [MemoryStore.listPendingProviderRefundEvents, Store.listPendingProviderRefundEvents, hvalues]
  refine congrArg _ (insertionSort_congr fun left hleft right hright => ?_)
  have hinstant (event : PendingProviderRefundEvent) (hevent : event ∈ store.pendingEvents) :
      IsInstant event.occurredAt := by
    obtain ⟨row, hrow, hpending⟩ := List.mem_filterMap.mp hevent
    obtain ⟨-, execution, -, rfl⟩ := pendingEvent_eq_some hpending
    exact h.instants row hrow
  obtain ⟨t, hyear, htext⟩ := hinstant left hleft
  obtain ⟨u, hyear', htext'⟩ := hinstant right hright
  rw [hlocale t u _ _ hyear hyear' htext htext', JS.Date.parse_toISOString htext,
    JS.Date.parse_toISOString htext']
  rfl

theorem InMemory.markDelivered (h : store.InMemory memory) (eventId : String) :
    (store.markProviderRefundEventDelivered eventId).InMemory
      (memory.markProviderRefundEventDelivered eventId) := by
  refine ⟨h.executions, ?_, ?_, ?_⟩
  · have hpendings : (store.markProviderRefundEventDelivered eventId).pendingEvents =
        store.pendingEvents.filter fun event => event.eventId ≠ eventId := by
      show (store.providerEvents.rows.map fun event => if event.eventId = eventId then
        { event with deliveryStatus := .delivered } else event).filterMap store.pendingEvent = _
      rw [pendingEvents, List.filterMap_map, List.filter_filterMap]
      refine List.filterMap_congr fun event _ => ?_
      rw [Function.comp_apply]
      by_cases hid : event.eventId = eventId
      · rw [if_pos hid]
        have hnone : store.pendingEvent { event with deliveryStatus := .delivered } = none :=
          if_neg nofun
        rw [hnone]
        cases hpending : store.pendingEvent event with
        | none => rfl
        | some pending =>
          obtain ⟨-, execution, -, rfl⟩ := pendingEvent_eq_some hpending
          rw [Option.filter_some, if_neg (by simpa using hid)]
      · rw [if_neg hid]
        cases hpending : store.pendingEvent event with
        | none => rfl
        | some pending =>
          obtain ⟨-, execution, -, rfl⟩ := pendingEvent_eq_some hpending
          rw [Option.filter_some, if_pos (by simpa using hid)]
    rw [hpendings]
    show memory.providerEvents.entries.filter _ = _
    rw [h.events, List.filter_map]
    rfl
  · intro event hevent
    obtain ⟨row, hrow, rfl⟩ := List.mem_map.mp hevent
    have hsome := h.referenced row hrow
    split_ifs <;> exact hsome
  · intro event hevent
    obtain ⟨row, hrow, rfl⟩ := List.mem_map.mp hevent
    have hinstant := h.instants row hrow
    split_ifs <;> exact hinstant

end Store

/-- A call that the memory can do is answered alike, and the memory keeps up. -/
theorem RepositoryCall.Kept.step {localeLE : String → String → Prop} [DecidableRel localeLE]
    (hlocale : Store.OrdersInstants localeLE) {store : Store} {memory : MemoryStore}
    (h : store.InMemory memory) {call : RepositoryCall} (hkept : call.Kept store) (now : ℤ) :
    (call.memory localeLE now memory).1 = (call.postgres now store).1 ∧
      (call.postgres now store).2.InMemory (call.memory localeLE now memory).2 := by
  cases call with
  | reserve uuid input =>
    obtain ⟨reservation, after, hreserve, hsame, hafter⟩ := h.reserve uuid input hkept
    rw [RepositoryCall.memory, RepositoryCall.postgres, hreserve]
    exact ⟨congrArg RepositoryAnswer.reservation hsame, hafter⟩
  | recordOutcome executionId status providerRefundId =>
    rw [RepositoryCall.memory, RepositoryCall.postgres]
    rcases h.recordOutcome executionId status providerRefundId now with
      ⟨hstore, hmemory⟩ | ⟨execution, after, memoryAfter, hstore, hmemory, hafter⟩
    · rw [hstore, hmemory]
      exact ⟨rfl, h⟩
    · rw [hstore, hmemory]
      exact ⟨rfl, hafter⟩
  | findSucceeded tenantId environmentId orderId amountMinor currency =>
    exact ⟨congrArg RepositoryAnswer.execution (h.find_first (fun _ => rfl) hkept), h⟩
  | findByWorkflowAndPreview tenantId environmentId workflowId previewId =>
    exact ⟨congrArg RepositoryAnswer.execution (h.find_first (fun _ => rfl) hkept), h⟩
  | recordProviderRefundEvent input =>
    obtain ⟨hsame, hafter⟩ := h.recordProviderRefundEvent input now hkept
    exact ⟨congrArg RepositoryAnswer.recorded hsame, hafter⟩
  | listPendingProviderRefundEvents limit =>
    exact ⟨congrArg RepositoryAnswer.pending (h.listPending hlocale limit), h⟩
  | markProviderRefundEventDelivered eventId => exact ⟨rfl, h.markDelivered eventId⟩

namespace Sample

def byTime (text text' : String) : Prop :=
  (JS.Date.parse text).getD 0 ≤ (JS.Date.parse text').getD 0

instance : DecidableRel byTime := fun _ _ => inferInstanceAs (Decidable (_ ≤ _))

theorem byTime_orders : Store.OrdersInstants byTime := by
  intro t u text text' _ _ htext htext'
  rw [byTime, JS.Date.parse_toISOString htext, JS.Date.parse_toISOString htext']
  rfl

theorem executionUuid_random : JS.matches? (JS.uuidPattern JS.isLowerHex (· == '4')
    fun c => c == '8' || c == '9' || c == 'a' || c == 'b')
    "0b9f6a52-3c1d-4e7a-8f00-000000000001".toList = true := by decide

def executionUuid : JS.Uuid := ⟨"0b9f6a52-3c1d-4e7a-8f00-000000000001", executionUuid_random⟩

def reservation : ReserveRefundExecutionInput where
  tenantId := "tenant-1"
  environmentId := "production"
  idempotencyKey := "key-1"
  workflowId := "refund-1"
  previewId := "preview-1"
  orderId := "order-1"
  amountMinor := 500
  currency := "USD"
  occurredAt := 0

def completion : RecordProviderRefundEventInput :=
  ⟨"event-1", "provider-refund-1", .completed, "1970-01-01T00:00:00.000Z"⟩

/-- A refund that is submitted and completed by the provider. -/
def completedRefund : List TimedCall := [
  ⟨.reserve executionUuid reservation, 0⟩,
  ⟨.recordOutcome executionUuid.text .submitted (some "provider-refund-1"), 1⟩,
  ⟨.recordProviderRefundEvent completion, 2⟩]

end Sample

end CSO.Gateway
