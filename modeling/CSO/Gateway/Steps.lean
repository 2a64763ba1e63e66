import CSO.Gateway.Machine

/-! What one step of the gateway does to the store, to the calls and to the requests. -/
namespace CSO.Gateway
open Transition (Table Machine)

variable {s t : State} {e : Event} {i j : ℕ} {id : String} {row row' : ExecutionRow}
  {call : ExecutionCall} {payment : CommercePayment}

theorem Commit.end_cases {α : Type} (store : Store) (result : Option (α × Store))
    (commit : Commit) :
    (commit.end store result).2 = store ∨
    ∃ a store', commit ≠ .aborted ∧ result = some (a, store') ∧
      (commit.end store result).2 = store' := by
  cases commit with
  | aborted => exact .inl rfl
  | acknowledged =>
    cases result with
    | none => exact .inl rfl
    | some r => exact .inr ⟨r.1, r.2, nofun, rfl, rfl⟩
  | lost =>
    cases result with
    | none => exact .inl rfl
    | some r => exact .inr ⟨r.1, r.2, nofun, rfl, rfl⟩

theorem Store.recordOutcome_eq_some {store store' : Store} {status : RefundExecutionStatus}
    {providerRefundId : Option String} {now : ℤ} {execution : RefundExecution}
    (h : store.recordOutcome id status providerRefundId now = some (execution, store')) :
    store' = store.enter id status providerRefundId now := by
  unfold Store.recordOutcome at h
  split at h
  · cases h
  · cases h
    rfl

theorem Store.reserve_eq_some {store store' : Store} {input : ReserveRefundExecutionInput}
    {reservation : Reservation} (h : store.reserve id input = some (reservation, store')) :
    (∃ row, store.findKey input.key = some row ∧ reservation = .existing (toExecution row) ∧
      store' = store) ∨
    (reservation = .reserved id ∧ 0 < input.amountMinor ∧
      ∃ hid : store.executions.find? id = none, ∃ hkey : store.findKey input.key = none,
        store' = store.insert id input hid hkey) := by
  unfold Store.reserve at h
  split at h
  · rename_i row hkey
    cases h
    exact .inl ⟨row, hkey, rfl, rfl⟩
  · split_ifs at h with hid
    cases h
    rename_i hkey
    exact .inr ⟨rfl, hid.2, hid.1, hkey, rfl⟩

theorem Store.reserve_of_findKey {store : Store} {input : ReserveRefundExecutionInput}
    (id : String) (h : store.findKey input.key = some row) :
    store.reserve id input = some (.existing (toExecution row), store) := by
  unfold Store.reserve
  split
  · rename_i row' hkey
    rw [h] at hkey
    cases hkey
    rfl
  · rename_i hkey
    rw [h] at hkey
    cases hkey

namespace State

/-- The store is written by a reservation, a recorded outcome or a provider event only. -/
theorem store_cases (h : s.step e = some t) :
    t.store = s.store ∨
    (∃ i id now commit call payment, e = .reserve i id now commit ∧
      s.processes i = .reserving call payment ∧
      ∃ hid : s.store.executions.find? id = none,
        ∃ hkey : s.store.findKey (reserveInput call.access call.request now).key = none,
          t.store =
            s.store.insert id (reserveInput call.access call.request now) hid hkey) ∨
    (∃ i now commit id status providerRefundId, e = .record i now commit ∧ commit ≠ .aborted ∧
      (s.processes i).write = some (id, status, providerRefundId) ∧
      t.store = s.store.enter id status providerRefundId now) ∨
    (∃ input now commit, e = .providerEvent input now commit ∧ commit ≠ .aborted ∧
      t.store = (s.store.recordProviderRefundEvent input now).2) ∨
    ∃ eventId, e = .markDelivered eventId ∧
      t.store = s.store.markProviderRefundEventDelivered eventId := by
  cases e with
  | reserve i id now commit =>
    simp only [step] at h
    split at h
    · rename_i call payment hp
      cases h
      obtain he | ⟨reservation, store', -, hr, he⟩ := commit.end_cases s.store
        (s.store.reserve id (reserveInput call.access call.request now))
      · exact .inl he
      · obtain ⟨row, -, -, rfl⟩ | ⟨-, -, hid, hkey, rfl⟩ := Store.reserve_eq_some hr
        · exact .inl he
        · exact .inr (.inl ⟨i, id, now, commit, call, payment, rfl, hp, hid, hkey, he⟩)
    · cases h
  | record i now commit =>
    simp only [step] at h
    split at h
    · rename_i id status providerRefundId hw
      cases h
      obtain he | ⟨execution, store', hc, hr, he⟩ := commit.end_cases s.store
        (s.store.recordOutcome id status providerRefundId now)
      · exact .inl he
      · rw [Store.recordOutcome_eq_some hr] at he
        exact .inr (.inr (.inl ⟨i, now, commit, id, status, providerRefundId, rfl, hc, hw, he⟩))
    · cases h
  | providerEvent input now commit =>
    simp only [step] at h
    cases h
    obtain he | ⟨result, store', hc, hr, he⟩ := commit.end_cases s.store
      (some (s.store.recordProviderRefundEvent input now))
    · exact .inl he
    · have hstore := congrArg Prod.snd (Option.some.inj hr)
      exact .inr (.inr (.inr (.inl ⟨input, now, commit, rfl, hc, he.trans hstore.symm⟩)))
  | markDelivered eventId =>
    simp only [step] at h
    cases h
    exact .inr (.inr (.inr (.inr ⟨eventId, rfl, rfl⟩)))
  | crash i =>
    simp only [step] at h
    cases h
    exact .inl rfl
  | receiveExecution i configured access body
  | readOrder i read observedAt
  | callProvider i
  | providerAnswers i result
  | receiveReconciliation i access body
  | readRefunds i read
  | findExecution i answers =>
    simp only [step] at h
    split at h
    · cases h
      exact .inl rfl
    · cases h

/-- How a step changes a stored execution. -/
inductive RowStep (s : State) (e : Event) (row : ExecutionRow) : ExecutionRow → Prop
  | kept : RowStep s e row row
  | recorded {i : ℕ} {now : ℤ} {commit : Commit} {status : RefundExecutionStatus}
      {providerRefundId : Option String} (he : e = .record i now commit)
      (hc : commit ≠ .aborted)
      (hw : (s.processes i).write = some (row.executionId, status, providerRefundId)) :
      RowStep s e row (row.enter status providerRefundId now)
  | outcome {input : RecordProviderRefundEventInput} {now : ℤ} {commit : Commit}
      (he : e = .providerEvent input now commit) (hc : commit ≠ .aborted)
      (ht : row.status.terminal = false)
      (hr : row.providerRefundId = some input.providerRefundId) :
      RowStep s e row (row.enter input.outcome.terminalStatus none now)

theorem row_step (h : s.step e = some t) (hr : s.store.executions.find? id = some row) :
    ∃ row', t.store.executions.find? id = some row' ∧ RowStep s e row row' := by
  have hid := Store.executionId_of_find hr
  obtain he | ⟨i, id', now, commit, call, payment, rfl, hp, hnone, hkey, he⟩ |
    ⟨i, now, commit, id', status, providerRefundId, rfl, hc, hw, he⟩ |
    ⟨input, now, commit, rfl, hc, he⟩ | ⟨eventId, rfl, he⟩ := store_cases h
  · rw [he]
    exact ⟨row, hr, .kept⟩
  · rw [he, Store.find_insert]
    have hne : id' ≠ id := by
      rintro rfl
      rw [hr] at hnone
      cases hnone
    exact ⟨row, by rw [if_neg hne]; exact hr, .kept⟩
  · rw [he, Store.find_enter]
    by_cases heq : id = id'
    · subst heq
      rw [if_pos rfl, hr]
      exact ⟨_, rfl, .recorded rfl hc (by rw [hid]; exact hw)⟩
    · rw [if_neg heq]
      exact ⟨row, hr, .kept⟩
  · obtain ⟨-, heq⟩ | ⟨row₀, hmem, href, -, hex⟩ :=
      s.store.recordProviderRefundEvent_cases input now
    · rw [he, heq]
      exact ⟨row, hr, .kept⟩
    · rw [he, hex]
      cases ht : row₀.status.terminal with
      | true => exact ⟨row, hr, .kept⟩
      | false =>
        simp only [Bool.false_eq_true, if_false, Store.find_enter]
        by_cases heq : id = row₀.executionId
        · subst heq
          have hrow := Store.mem_rows_iff.mp hmem
          rw [hr] at hrow
          cases hrow
          rw [if_pos rfl, hr]
          exact ⟨_, rfl, .outcome rfl hc ht href⟩
        · rw [if_neg heq]
          exact ⟨row, hr, .kept⟩
  · rw [he]
    exact ⟨row, hr, .kept⟩

/-- A transaction that commits writes what its request was about to record. -/
theorem record_step {now : ℤ} {commit : Commit} {status : RefundExecutionStatus}
    {providerRefundId : Option String} (h : s.step (.record i now commit) = some t)
    (hw : (s.processes i).write = some (id, status, providerRefundId)) (hc : commit ≠ .aborted)
    (hr : s.store.executions.find? id = some row) :
    t.store.executions.find? id = some (row.enter status providerRefundId now) := by
  have hout : s.store.recordOutcome id status providerRefundId now =
      some (toExecution (row.enter status providerRefundId now),
        s.store.enter id status providerRefundId now) := by
    simp only [Store.recordOutcome, hr]
  have hstore : t.store = s.store.enter id status providerRefundId now := by
    simp only [step, hw] at h
    cases h
    cases commit with
    | aborted => exact absurd rfl hc
    | acknowledged => simp [Commit.end, hout]
    | lost => simp [Commit.end, hout]
  rw [hstore, Store.find_enter, if_pos rfl, hr, Option.map_some]

/-- Only a reservation under a new key adds an execution. -/
theorem row_origin (h : s.step e = some t) (hr : t.store.executions.find? id = some row') :
    (∃ row, s.store.executions.find? id = some row) ∨
    ∃ i now commit call payment, e = .reserve i id now commit ∧
      s.processes i = .reserving call payment ∧ s.store.findKey call.key = none ∧
      row' = Store.newRow id (reserveInput call.access call.request now) := by
  obtain he | ⟨i, id', now, commit, call, payment, rfl, hp, hnone, hkey, he⟩ |
    ⟨i, now, commit, id', status, providerRefundId, rfl, hc, hw, he⟩ |
    ⟨input, now, commit, rfl, hc, he⟩ | ⟨eventId, rfl, he⟩ := store_cases h
  · rw [he] at hr
    exact .inl ⟨row', hr⟩
  · rw [he, Store.find_insert] at hr
    split_ifs at hr with hid
    · subst hid
      cases hr
      exact .inr ⟨i, now, commit, call, payment, rfl, hp, hkey, rfl⟩
    · exact .inl ⟨row', hr⟩
  · rw [he, Store.find_enter] at hr
    split_ifs at hr with hid
    · subst hid
      obtain ⟨row, hrow, -⟩ := Option.map_eq_some_iff.mp hr
      exact .inl ⟨row, hrow⟩
    · exact .inl ⟨row', hr⟩
  · obtain ⟨-, heq⟩ | ⟨row₀, hmem, -, -, hex⟩ :=
      s.store.recordProviderRefundEvent_cases input now
    · rw [he, heq] at hr
      exact .inl ⟨row', hr⟩
    · rw [he, hex] at hr
      split_ifs at hr with ht
      · exact .inl ⟨row', hr⟩
      · rw [Store.find_enter] at hr
        split_ifs at hr with hid
        · subst hid
          exact .inl ⟨row₀, Store.mem_rows_iff.mp hmem⟩
        · exact .inl ⟨row', hr⟩
  · rw [he] at hr
    exact .inl ⟨row', hr⟩

theorem RowStep.request (h : RowStep s e row row') : row'.request = row.request := by
  cases h <;> rfl

theorem RowStep.executionId (h : RowStep s e row row') : row'.executionId = row.executionId := by
  cases h <;> rfl

/-- The provider is called by a request that has reserved its execution, once. -/
theorem calls_cases (h : s.step e = some t) :
    t.calls = s.calls ∨ ∃ i call payment id, e = .callProvider i ∧
      s.processes i = .submitting call payment id ∧
      t.calls = ⟨id, call, providerInput call.request payment⟩ :: s.calls := by
  cases e with
  | callProvider i =>
    simp only [step] at h
    split at h
    · rename_i call payment id hp
      cases h
      exact .inr ⟨i, call, payment, id, rfl, hp, rfl⟩
    · cases h
  | providerEvent input now commit
  | markDelivered eventId
  | crash i =>
    simp only [step] at h
    cases h
    exact .inl rfl
  | receiveExecution i configured access body
  | readOrder i read observedAt
  | reserve i id now commit
  | providerAnswers i result
  | record i now commit
  | receiveReconciliation i access body
  | readRefunds i read
  | findExecution i answers =>
    simp only [step] at h
    split at h
    · cases h
      exact .inl rfl
    · cases h

end State

/-- The request an event is about. -/
def Event.process : Event → Option ℕ
  | .receiveExecution i _ _ _ | .readOrder i _ _ | .reserve i _ _ _ | .callProvider i
  | .providerAnswers i _ | .record i _ _ | .receiveReconciliation i _ _ | .readRefunds i _
  | .findExecution i _ | .crash i => some i
  | .providerEvent _ _ _ | .markDelivered _ => none

namespace State

/-- How an event takes its request from one await to the next. -/
inductive Advance (s : State) : Event → Process → Process → Prop
  | executionRefused {i : ℕ} {configured : Bool} {access : Option OrderAccessContext}
      {body : Option RefundExecutionRequest} {reply : Reply ExecutionResult}
      (h : admitRefundExecution configured access body = .error reply) :
      Advance s (.receiveExecution i configured access body) .idle (.answered reply)
  | executionAdmitted {i : ℕ} {configured : Bool} {access : Option OrderAccessContext}
      {body : Option RefundExecutionRequest} {call : ExecutionCall}
      (h : admitRefundExecution configured access body = .ok (call.access, call.request)) :
      Advance s (.receiveExecution i configured access body) .idle (.readingOrder call)
  | orderUnread {i : ℕ} {call : ExecutionCall} {observedAt : String} :
      Advance s (.readOrder i none observedAt) (.readingOrder call) (.answered .thrown)
  | orderRefused {i : ℕ} {call : ExecutionCall} {order : Option CommerceOrder}
      {observedAt : String} {reply : Reply ExecutionResult}
      (h : checkRefundOrder call.access call.request order observedAt = .error reply) :
      Advance s (.readOrder i (some order) observedAt) (.readingOrder call) (.answered reply)
  | orderEligible {i : ℕ} {call : ExecutionCall} {order : Option CommerceOrder}
      {observedAt : String} {payment : CommercePayment}
      (h : checkRefundOrder call.access call.request order observedAt = .ok payment) :
      Advance s (.readOrder i (some order) observedAt) (.readingOrder call)
        (.reserving call payment)
  | reserveFailed {i : ℕ} {id : String} {now : ℤ} {commit : Commit} {call : ExecutionCall}
      {payment : CommercePayment}
      (h : commit ≠ .acknowledged ∨
        s.store.reserve id (reserveInput call.access call.request now) = none) :
      Advance s (.reserve i id now commit) (.reserving call payment) (.answered .thrown)
  | reserved {i : ℕ} {id : String} {now : ℤ} {call : ExecutionCall} {payment : CommercePayment}
      {store : Store} (h : s.store.reserve id (reserveInput call.access call.request now) =
        some (.reserved id, store)) :
      Advance s (.reserve i id now .acknowledged) (.reserving call payment)
        (.submitting call payment id)
  | existing {i : ℕ} {id : String} {now : ℤ} {call : ExecutionCall} {payment : CommercePayment}
      {row : ExecutionRow} (h : s.store.findKey call.key = some row) :
      Advance s (.reserve i id now .acknowledged) (.reserving call payment)
        (.answered (.sent 200 (existingResponse (toExecution row))))
  | called {i : ℕ} {call : ExecutionCall} {payment : CommercePayment} {id : String} :
      Advance s (.callProvider i) (.submitting call payment id) (.awaitingProvider call id)
  | providerThrew {i : ℕ} {call : ExecutionCall} {id : String} :
      Advance s (.providerAnswers i none) (.awaitingProvider call id) (.escalating id)
  | providerAnswered {i : ℕ} {call : ExecutionCall} {id : String} {result : ProviderRefundResult} :
      Advance s (.providerAnswers i (some result)) (.awaitingProvider call id)
        (.recording id (providerResponse result))
  | recorded {i : ℕ} {now : ℤ} {commit : Commit} {id : String} {response : ExecutionResult} :
      Advance s (.record i now commit) (.recording id response) (.answered (.sent 200 response))
  | recordFailed {i : ℕ} {now : ℤ} {commit : Commit} {id : String} {response : ExecutionResult} :
      Advance s (.record i now commit) (.recording id response) (.escalating id)
  | escalated {i : ℕ} {now : ℤ} {commit : Commit} {id : String} :
      Advance s (.record i now commit) (.escalating id) (.answered (.sent 200 .pending))
  | escalationFailed {i : ℕ} {now : ℤ} {commit : Commit} {id : String} :
      Advance s (.record i now commit) (.escalating id) (.answered .thrown)
  | settled {i : ℕ} {now : ℤ} {commit : Commit} {refund : CommerceRefund} {id : String}
      {status : RefundExecutionStatus} :
      Advance s (.record i now commit) (.settling refund id status)
        (.reported (.sent 200 (reconciliationResponse refund)))
  | settleFailed {i : ℕ} {now : ℤ} {commit : Commit} {refund : CommerceRefund} {id : String}
      {status : RefundExecutionStatus} :
      Advance s (.record i now commit) (.settling refund id status) (.reported .thrown)
  | reconciliationRefused {i : ℕ} {access : Option OrderAccessContext}
      {body : Option RefundReconciliationRequest} {reply : Reply ReconciliationResult}
      (h : admitRefundReconciliation access body = .error reply) :
      Advance s (.receiveReconciliation i access body) .idle (.reported reply)
  | reconciliationAdmitted {i : ℕ} {access : Option OrderAccessContext}
      {body : Option RefundReconciliationRequest} {call : ReconciliationCall}
      (h : admitRefundReconciliation access body = .ok (call.access, call.request)) :
      Advance s (.receiveReconciliation i access body) .idle (.readingRefunds call)
  | refundsUnread {i : ℕ} {call : ReconciliationCall} :
      Advance s (.readRefunds i none) (.readingRefunds call) (.reported .thrown)
  | refundsRefused {i : ℕ} {call : ReconciliationCall} {order : Option CommerceOrder}
      {reply : Reply ReconciliationResult}
      (h : checkReconciliationOrder call.access call.request order = .error reply) :
      Advance s (.readRefunds i (some order)) (.readingRefunds call) (.reported reply)
  | refundMatched {i : ℕ} {call : ReconciliationCall} {order : Option CommerceOrder}
      {refund : CommerceRefund}
      (h : checkReconciliationOrder call.access call.request order = .ok refund) :
      Advance s (.readRefunds i (some order)) (.readingRefunds call) (.finding call refund)
  | findFailed {i : ℕ} {call : ReconciliationCall} {refund : CommerceRefund} :
      Advance s (.findExecution i false) (.finding call refund) (.reported .thrown)
  | nothingToSettle {i : ℕ} {call : ReconciliationCall} {refund : CommerceRefund}
      (h : ∀ execution, s.found call = some execution →
        reconciliationOutcome refund execution = none) :
      Advance s (.findExecution i true) (.finding call refund)
        (.reported (.sent 200 (reconciliationResponse refund)))
  | toSettle {i : ℕ} {call : ReconciliationCall} {refund : CommerceRefund}
      {execution : RefundExecution} {status : RefundExecutionStatus}
      (h : s.found call = some execution)
      (ho : reconciliationOutcome refund execution = some status) :
      Advance s (.findExecution i true) (.finding call refund)
        (.settling refund execution.executionId status)
  | crashed {i : ℕ} {process : Process} : Advance s (.crash i) process .crashed

theorem advance_reserve (s : State) (i : ℕ) (id : String) (now : ℤ) (commit : Commit)
    (call : ExecutionCall) (payment : CommercePayment) :
    Advance s (.reserve i id now commit) (.reserving call payment)
      (afterReserve call payment (commit.end s.store
        (s.store.reserve id (reserveInput call.access call.request now))).1) := by
  cases commit with
  | lost => exact .reserveFailed (.inl nofun)
  | aborted => exact .reserveFailed (.inl nofun)
  | acknowledged =>
    cases hr : s.store.reserve id (reserveInput call.access call.request now) with
    | none => exact .reserveFailed (.inr hr)
    | some result =>
      obtain ⟨reservation, store⟩ := result
      obtain ⟨row, hkey, rfl, -⟩ | ⟨rfl, -⟩ := Store.reserve_eq_some hr
      · exact .existing hkey
      · exact .reserved hr

theorem advance_record (s : State) (i : ℕ) (now : ℤ) (commit : Commit) (process : Process)
    (hw : process.write ≠ none) (recorded : Bool) :
    Advance s (.record i now commit) process (afterRecord process recorded) := by
  cases process with
  | recording id response =>
    cases recorded with
    | true => exact .recorded
    | false => exact .recordFailed
  | escalating id =>
    cases recorded with
    | true => exact .escalated
    | false => exact .escalationFailed
  | settling refund id status =>
    cases recorded with
    | true => exact .settled
    | false => exact .settleFailed
  | _ => exact absurd rfl hw

theorem advance_readOrder (s : State) (i : ℕ) (call : ExecutionCall)
    (read : Option (Option CommerceOrder)) (observedAt : String) :
    Advance s (.readOrder i read observedAt) (.readingOrder call)
      (afterOrderRead call observedAt read) := by
  cases read with
  | none => exact .orderUnread
  | some order =>
    cases hc : checkRefundOrder call.access call.request order observedAt with
    | error reply =>
      simp only [afterOrderRead, hc]
      exact .orderRefused hc
    | ok payment =>
      simp only [afterOrderRead, hc]
      exact .orderEligible hc

theorem advance_readRefunds (s : State) (i : ℕ) (call : ReconciliationCall)
    (read : Option (Option CommerceOrder)) :
    Advance s (.readRefunds i read) (.readingRefunds call) (afterRefundsRead call read) := by
  cases read with
  | none => exact .refundsUnread
  | some order =>
    cases hc : checkReconciliationOrder call.access call.request order with
    | error reply =>
      simp only [afterRefundsRead, hc]
      exact .refundsRefused hc
    | ok refund =>
      simp only [afterRefundsRead, hc]
      exact .refundMatched hc

theorem advance_findExecution (s : State) (i : ℕ) (call : ReconciliationCall)
    (refund : CommerceRefund) (answers : Bool) :
    Advance s (.findExecution i answers) (.finding call refund)
      (if answers then afterFind refund (s.found call) else .reported .thrown) := by
  cases answers with
  | false => exact .findFailed
  | true =>
    rw [if_pos rfl]
    cases hf : s.found call with
    | none => exact .nothingToSettle (by simp [hf])
    | some execution =>
      cases ho : reconciliationOutcome refund execution with
      | none =>
        simp only [afterFind, ho]
        exact .nothingToSettle (by simp [hf, ho])
      | some status =>
        simp only [afterFind, ho]
        exact .toSettle hf ho

theorem step_of_process (h : s.step e = some t) (he : e.process = some i) :
    ∃ p, t.processes = (s.set i p).processes ∧ Advance s e (s.processes i) p := by
  cases e with
  | providerEvent input now commit
  | markDelivered eventId => cases he
  | crash i' =>
    cases he
    simp only [step] at h
    cases h
    exact ⟨_, rfl, .crashed⟩
  | record i' now commit =>
    cases he
    simp only [step] at h
    split at h
    · rename_i hw
      cases h
      exact ⟨_, rfl, advance_record s i now commit _ (by simp [hw]) _⟩
    · cases h
  | receiveExecution i' configured access body =>
    cases he
    simp only [step] at h
    split at h
    · rename_i hp
      rw [hp]
      cases h
      refine ⟨_, rfl, ?_⟩
      cases ha : admitRefundExecution configured access body with
      | error reply => exact .executionRefused ha
      | ok admitted => exact .executionAdmitted ha
    · cases h
  | receiveReconciliation i' access body =>
    cases he
    simp only [step] at h
    split at h
    · rename_i hp
      rw [hp]
      cases h
      refine ⟨_, rfl, ?_⟩
      cases ha : admitRefundReconciliation access body with
      | error reply => exact .reconciliationRefused ha
      | ok admitted => exact .reconciliationAdmitted ha
    · cases h
  | providerAnswers i' result =>
    cases he
    simp only [step] at h
    split at h
    · rename_i hp
      rw [hp]
      cases h
      refine ⟨_, rfl, ?_⟩
      cases result with
      | none => exact .providerThrew
      | some result => exact .providerAnswered
    · cases h
  | readOrder i' read observedAt =>
    cases he
    simp only [step] at h
    split at h
    · rename_i hp
      rw [hp]
      cases h
      exact ⟨_, rfl, advance_readOrder ..⟩
    · cases h
  | reserve i' id now commit =>
    cases he
    simp only [step] at h
    split at h
    · rename_i hp
      rw [hp]
      cases h
      exact ⟨_, rfl, advance_reserve ..⟩
    · cases h
  | callProvider i' =>
    cases he
    simp only [step] at h
    split at h
    · rename_i hp
      rw [hp]
      cases h
      exact ⟨_, rfl, .called⟩
    · cases h
  | readRefunds i' read =>
    cases he
    simp only [step] at h
    split at h
    · rename_i hp
      rw [hp]
      cases h
      exact ⟨_, rfl, advance_readRefunds ..⟩
    · cases h
  | findExecution i' answers =>
    cases he
    simp only [step] at h
    split at h
    · rename_i hp
      rw [hp]
      cases h
      exact ⟨_, rfl, advance_findExecution ..⟩
    · cases h

theorem processes_of_none (h : s.step e = some t) (he : e.process = none) :
    t.processes = s.processes := by
  cases e with
  | providerEvent input now commit
  | markDelivered eventId =>
    simp only [step] at h
    cases h
    rfl
  | _ => cases he

/-- A request stays where it is, or the event is about it. -/
theorem process_cases (h : s.step e = some t) (j : ℕ) :
    (e.process ≠ some j ∧ t.processes j = s.processes j) ∨
    (e.process = some j ∧ Advance s e (s.processes j) (t.processes j)) := by
  cases he : e.process with
  | none => exact .inl ⟨nofun, congrFun (processes_of_none h he) j⟩
  | some i =>
    obtain ⟨p, hp, ha⟩ := step_of_process h he
    by_cases hj : j = i
    · subst hj
      rw [hp, set_processes_self]
      exact .inr ⟨rfl, ha⟩
    · rw [hp, set_processes_of_ne s p hj]
      exact .inl ⟨fun hi => hj (Option.some.inj hi).symm, rfl⟩

theorem row_persists (h : s.step e = some t) (hr : row ∈ s.store.executions.rows) :
    ∃ row' ∈ t.store.executions.rows, row'.executionId = row.executionId ∧
      row'.request = row.request := by
  obtain ⟨row', hr', hs⟩ := row_step h (Store.mem_rows_iff.mp hr)
  rw [← hs.executionId] at hr'
  exact ⟨row', Store.mem_rows_iff.mpr hr', hs.executionId, hs.request⟩

/-- A request is about to call the provider once its own reservation has inserted the
execution. -/
theorem submitting_origin (h : s.step e = some t)
    (hp : t.processes j = .submitting call payment id) :
    (e.process ≠ some j ∧ s.processes j = .submitting call payment id) ∨
    ∃ now, e = .reserve j id now .acknowledged ∧ s.processes j = .reserving call payment ∧
      ∃ hid : s.store.executions.find? id = none,
        ∃ hkey : s.store.findKey (reserveInput call.access call.request now).key = none,
          t.store = s.store.insert id (reserveInput call.access call.request now) hid hkey := by
  obtain ⟨hne, heq⟩ | ⟨he, ha⟩ := process_cases h j
  · exact .inl ⟨hne, heq ▸ hp⟩
  · rw [hp] at ha
    generalize hq : s.processes j = q at ha
    cases ha with
    | reserved hr =>
      rename_i i now store
      cases he
      obtain ⟨row, -, hres, -⟩ | ⟨-, -, hid, hkey, hstore⟩ := Store.reserve_eq_some hr
      · cases hres
      · refine .inr ⟨now, rfl, rfl, hid, hkey, ?_⟩
        rw [← hstore]
        simp only [step, hq] at h
        cases h
        simp [Commit.end, hr]

end State
end CSO.Gateway
