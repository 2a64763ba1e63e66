import CSO.Gateway.Steps

/-! A key is charged once: every call of the provider belongs to an execution of its own, and
an execution belongs to one key. -/
namespace CSO.Gateway
open Transition (Machine)

variable {s t : State} {e : Event} {i j : ℕ} {id : String} {row : ExecutionRow}
  {call call' : ExecutionCall} {payment payment' : CommercePayment}

/-- The execution under an identifier belongs to a key. -/
def State.Owns (s : State) (id : String) (key : ExecutionKey) : Prop :=
  ∃ row ∈ s.store.executions.rows, row.executionId = id ∧ row.key = key

/-- Requests about to call the provider and calls made have reserved executions, each its own. -/
structure State.Reserved (s : State) : Prop where
  calls : ∀ c ∈ s.calls, s.Owns c.executionId c.key
  once : (s.calls.map ProviderCall.executionId).Nodup
  submitting : ∀ i call payment id, s.processes i = .submitting call payment id →
    s.Owns id call.key
  uncalled : ∀ i call payment id, s.processes i = .submitting call payment id →
    ∀ c ∈ s.calls, c.executionId ≠ id
  apart : ∀ i j call call' payment payment' id, s.processes i = .submitting call payment id →
    s.processes j = .submitting call' payment' id → i = j

namespace State

theorem Owns.step {key : ExecutionKey} (ho : s.Owns id key) (h : s.step e = some t) :
    t.Owns id key := by
  obtain ⟨row, hm, rfl, rfl⟩ := ho
  obtain ⟨row', hm', hid, hreq⟩ := row_persists h hm
  exact ⟨row', hm', hid, congrArg ReserveRefundExecutionInput.key hreq⟩

theorem Owns.find_ne_none {key : ExecutionKey} (ho : s.Owns id key) :
    s.store.executions.find? id ≠ none := by
  obtain ⟨row, hm, rfl, -⟩ := ho
  rw [Store.mem_rows_iff.mp hm]
  exact nofun

/-- Executions under one key are one execution. -/
theorem Owns.unique {id' : String} {key : ExecutionKey} (ho : s.Owns id key)
    (ho' : s.Owns id' key) : id = id' := by
  obtain ⟨row, hm, rfl, rfl⟩ := ho
  obtain ⟨row', hm', rfl, hkey⟩ := ho'
  rw [Store.eq_of_key hm hm' hkey.symm]

theorem owns_insert {store : Store} {input : ReserveRefundExecutionInput}
    {hid : store.executions.find? id = none} {hkey : store.findKey input.key = none}
    (h : t.store = store.insert id input hid hkey) : t.Owns id input.key := by
  refine ⟨Store.newRow id input, ?_, rfl, rfl⟩
  rw [Store.mem_rows_iff, h, Store.find_insert]
  exact if_pos rfl

theorem reserved_starting (h : Starting s) : s.Reserved := by
  obtain ⟨hp, hc⟩ := h
  constructor
  · simp [hc]
  · simp [hc]
  · simp [hp]
  · simp [hp]
  · simp [hp]

/-- A request's own call takes it out of the requests about to call. -/
theorem submitting_of_call (h : s.step (.callProvider i) = some t)
    (hp : t.processes j = .submitting call payment id) :
    j ≠ i ∧ s.processes j = .submitting call payment id := by
  obtain ⟨hne, hs⟩ | ⟨now, he, -⟩ := submitting_origin h hp
  · exact ⟨fun hj => hne (by rw [hj]; rfl), hs⟩
  · cases he

theorem reserved_calls_step (hr : s.Reserved) (h : s.step e = some t) :
    ∀ c ∈ t.calls, t.Owns c.executionId c.key := by
  intro c hc
  obtain heq | ⟨i, call, payment, id, -, hp, heq⟩ := calls_cases h
  · exact (hr.calls c (heq ▸ hc)).step h
  · rw [heq, List.mem_cons] at hc
    obtain rfl | hc := hc
    · exact (hr.submitting i call payment id hp).step h
    · exact (hr.calls c hc).step h

theorem reserved_once_step (hr : s.Reserved) (h : s.step e = some t) :
    (t.calls.map ProviderCall.executionId).Nodup := by
  obtain heq | ⟨i, call, payment, id, -, hp, heq⟩ := calls_cases h
  · rw [heq]
    exact hr.once
  · rw [heq, List.map_cons, List.nodup_cons]
    refine ⟨?_, hr.once⟩
    intro hm
    obtain ⟨c, hc, hid⟩ := List.mem_map.mp hm
    exact hr.uncalled i call payment id hp c hc hid

theorem reserved_submitting_step (hr : s.Reserved) (h : s.step e = some t)
    (hp : t.processes j = .submitting call payment id) : t.Owns id call.key := by
  obtain ⟨-, hs⟩ | ⟨now, -, -, hid, hkey, hstore⟩ := submitting_origin h hp
  · exact (hr.submitting j call payment id hs).step h
  · exact owns_insert hstore

theorem reserved_uncalled_step (hr : s.Reserved) (h : s.step e = some t)
    (hp : t.processes j = .submitting call payment id) :
    ∀ c ∈ t.calls, c.executionId ≠ id := by
  intro c hc
  obtain heq | ⟨i, call', payment', id', rfl, hi, heq⟩ := calls_cases h
  · rw [heq] at hc
    obtain ⟨-, hs⟩ | ⟨now, -, -, hid, -⟩ := submitting_origin h hp
    · exact hr.uncalled j call payment id hs c hc
    · intro hce
      exact (hr.calls c hc).find_ne_none (hce ▸ hid)
  · obtain ⟨hji, hs⟩ := submitting_of_call h hp
    rw [heq, List.mem_cons] at hc
    obtain rfl | hc := hc
    · rintro rfl
      exact hji (hr.apart _ _ _ _ _ _ _ hs hi)
    · exact hr.uncalled j call payment id hs c hc

theorem reserved_apart_step (hr : s.Reserved) (h : s.step e = some t)
    (hi : t.processes i = .submitting call payment id)
    (hj : t.processes j = .submitting call' payment' id) : i = j := by
  obtain ⟨-, hi'⟩ | ⟨now, he, -, hid, -⟩ := submitting_origin h hi
  · obtain ⟨-, hj'⟩ | ⟨now, -, -, hid, -⟩ := submitting_origin h hj
    · exact hr.apart i j _ _ _ _ id hi' hj'
    · exact absurd hid (hr.submitting i _ _ _ hi').find_ne_none
  · obtain ⟨-, hj'⟩ | ⟨now', he', -⟩ := submitting_origin h hj
    · exact absurd hid (hr.submitting j _ _ _ hj').find_ne_none
    · rw [he] at he'
      cases he'
      rfl

theorem reserved_step (s : State) (e : Event) (t : State) (hr : s.Reserved)
    (h : machine.step s e = some t) : t.Reserved where
  calls := reserved_calls_step hr h
  once := reserved_once_step hr h
  submitting _ _ _ _ hp := reserved_submitting_step hr h hp
  uncalled _ _ _ _ hp := reserved_uncalled_step hr h hp
  apart _ _ _ _ _ _ _ hi hj := reserved_apart_step hr h hi hj

theorem reserved_reachable (h : machine.Reachable Starting s) : s.Reserved :=
  h.invariant (fun _ => reserved_starting) reserved_step

/-- Calls under one key are calls for one execution, of which there is one. -/
theorem Reserved.keys_nodup (hr : s.Reserved) : (s.calls.map ProviderCall.key).Nodup := by
  have honce := List.pairwise_map.mp hr.once
  refine List.pairwise_map.mpr (honce.imp_of_mem ?_)
  intro a b ha hb hne hkey
  exact hne ((hr.calls a ha).unique (hkey ▸ hr.calls b hb))

end State

/-- The request finds its key reserved by an execution that is not settled yet. -/
def FindsUnsettled (s : State) (i : ℕ) : Prop :=
  ∃ call payment row, s.processes i = .reserving call payment ∧
    s.store.findKey call.key = some row ∧
    (row.status = .inProgress ∨ row.status = .pendingReconciliation)

theorem finds_unsettled_step {now : ℤ} {commit : Commit} (hf : FindsUnsettled s i)
    (h : s.step (.reserve i id now commit) = some t) :
    t.processes i =
      .answered (if commit = .acknowledged then .sent 200 .pending else .thrown) := by
  obtain ⟨call, payment, row, hp, hkey, hst⟩ := hf
  obtain ⟨hne, -⟩ | ⟨-, ha⟩ := State.process_cases h i
  · exact absurd rfl hne
  · rw [hp] at ha
    generalize ht : t.processes i = q at ha
    cases ha with
    | reserveFailed hfail =>
      obtain hc | hnone := hfail
      · rw [if_neg hc]
      · rw [Store.reserve_of_findKey id hkey] at hnone
        cases hnone
    | reserved hres =>
      rw [Store.reserve_of_findKey id hkey] at hres
      cases hres
    | existing hrow =>
      rw [hkey] at hrow
      cases hrow
      have hex : existingResponse (toExecution row) = .pending := by
        obtain hst | hst := hst
        · simp [existingResponse, toExecution, hst]
        · simp [existingResponse, toExecution, hst]
      rw [hex, if_pos rfl]

/-- No schedule of requests, crashes, reconciliations and provider events charges a key twice,
and a request that finds its key unsettled says so. -/
theorem provider_called_once_per_key (h : machine.Reachable Starting s) :
    (s.calls.map ProviderCall.key).Nodup ∧
    ∀ i id now commit t, FindsUnsettled s i →
      machine.step s (.reserve i id now commit) = some t →
      t.processes i =
        .answered (if commit = .acknowledged then .sent 200 .pending else .thrown) :=
  ⟨(State.reserved_reachable h).keys_nodup, fun _ _ _ _ _ => finds_unsettled_step⟩

namespace Sample

def access : OrderAccessContext := ⟨"refund-1", "tenant-1", "test", "customer-1"⟩

def request : RefundExecutionRequest where
  orderId := "order-1"
  reasonCode := "DAMAGED"
  amount := ⟨2000, "USD"⟩
  selection := ⟨.selectedItems, ["line-1"]⟩
  idempotencyKey := "refund:refund-1:preview-1"
  previewId := "preview-1"

def fullRequest : RefundExecutionRequest :=
  { request with amount := ⟨5000, "USD"⟩, selection := ⟨.fullOrder, []⟩ }

def executionCall : ExecutionCall := ⟨access, request⟩

def order (refunds : List CommerceRefund) : CommerceOrder where
  source := ⟨"vendure", "order-1"⟩
  active := false
  customer := some "customer-1"
  total := ⟨5000, "USD"⟩
  items := [⟨"line-1", ⟨2000, "USD"⟩⟩, ⟨"line-2", ⟨3000, "USD"⟩⟩]
  payments := [⟨"payment-1", "Settled", ⟨5000, "USD"⟩, refunds⟩]

/-- A request is received and finds its order eligible. -/
def arrives (i : ℕ) (request : RefundExecutionRequest) (refunds : List CommerceRefund) :
    List Event :=
  [.receiveExecution i true (some access) (some request),
    .readOrder i (some (some (order refunds))) "2026-01-01T00:00:00.000Z"]

end Sample

/-- Two requests with one key, the first between its call and the provider's answer. -/
def Sample.duplicates : List Event :=
  Sample.arrives 0 Sample.request [] ++ Sample.arrives 1 Sample.request [] ++
    [.reserve 0 "execution-1" 0 .acknowledged, .callProvider 0]

theorem duplicate_requests_call_once :
    ∃ s, machine.run .initial Sample.duplicates = some s ∧ s.calls.length = 1 ∧
      (s.calls.map ProviderCall.key).Nodup ∧ FindsUnsettled s 1 ∧
      ∀ now t, machine.step s (.reserve 1 "execution-2" now .acknowledged) = some t →
        t.processes 1 = .answered (.sent 200 .pending) := by
  obtain ⟨s, hs, hlen, hp, row, hrow, hst⟩ : ∃ s, machine.run .initial Sample.duplicates = some s ∧
      s.calls.length = 1 ∧ s.processes 1 = .reserving Sample.executionCall
        ⟨"payment-1", "Settled", ⟨5000, "USD"⟩, []⟩ ∧
      ∃ row, s.store.findKey Sample.executionCall.key = some row ∧ row.status = .inProgress :=
    ⟨_, rfl, rfl, rfl, _, rfl, rfl⟩
  have hfinds : FindsUnsettled s 1 := ⟨_, _, row, hp, hrow, .inl hst⟩
  obtain ⟨hnodup, hanswer⟩ :=
    provider_called_once_per_key ⟨.initial, Sample.duplicates, ⟨fun _ => rfl, rfl⟩, hs⟩
  exact ⟨s, hs, hlen, hnodup, hfinds, fun now t => hanswer 1 _ now .acknowledged t hfinds⟩

end CSO.Gateway
