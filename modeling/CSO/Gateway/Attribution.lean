import CSO.Gateway.Provider

/-! Which refund an execution and a reconciliation of it speak about. A refund is attributed to
an execution when the provider made it for the execution's call. -/
namespace CSO.Gateway
open Transition (Machine)

variable {s t : State} {e : Event} {w w' : World} {we : WorldEvent} {i j : ℕ} {id r : String}

theorem Store.find_row {store : Store} {tenantId environmentId workflowId previewId : String}
    {execution : RefundExecution} (h : store.findByWorkflowAndPreview tenantId environmentId
      workflowId previewId = some execution) :
    ∃ row, store.executions.find? execution.executionId = some row ∧
      toExecution row = execution := by
  obtain ⟨row, hrow, rfl⟩ := Option.map_eq_some_iff.mp h
  have hsorted := List.mem_of_mem_head? hrow
  rw [List.mem_insertionSort] at hsorted
  exact ⟨row, Store.mem_rows_iff.mp (List.mem_of_mem_filter hsorted), rfl⟩

theorem admitRefundReconciliation_ne_sent {access : Option OrderAccessContext}
    {body : Option RefundReconciliationRequest} {status : ℕ} {answer : ReconciliationResult} :
    admitRefundReconciliation access body ≠ .error (.sent status answer) := by
  unfold admitRefundReconciliation
  split
  · exact nofun
  · exact nofun
  · exact nofun

/-- Only a listing without a refund of the amount is answered before the store is read. -/
theorem checkReconciliationOrder_sent {access : OrderAccessContext}
    {request : RefundReconciliationRequest} {order : Option CommerceOrder} {status : ℕ}
    {answer : ReconciliationResult}
    (h : checkReconciliationOrder access request order = .error (.sent status answer)) :
    ∃ o, order = some o ∧ o.customer = some access.subjectCustomerId ∧
      matchingRefund o request.amount = none ∧ answer = ⟨.notFound, none⟩ := by
  unfold checkReconciliationOrder at h
  split at h
  · cases h
  · rename_i o
    split_ifs at h with hc
    · split at h
      · cases h
      · rename_i hm
        cases h
        exact ⟨o, rfl, hc, hm, rfl⟩
    · cases h

namespace State

/-- A refund on an execution was there before or has just been recorded. -/
theorem refund_origin (h : s.step e = some t) {row' : ExecutionRow}
    (hm : row' ∈ t.store.executions.rows) (hr : row'.providerRefundId = some r) :
    (∃ row ∈ s.store.executions.rows, row.executionId = row'.executionId ∧
      row.providerRefundId = some r) ∨
    ∃ i status, (s.processes i).write = some (row'.executionId, status, some r) := by
  have hfind := Store.mem_rows_iff.mp hm
  obtain ⟨row, hrow⟩ | ⟨i, now, commit, call, payment, -, -, -, hnew⟩ := row_origin h hfind
  · obtain ⟨row'', hrow'', hstep⟩ := row_step h hrow
    rw [hfind] at hrow''
    cases hrow''
    have hid := Store.executionId_of_find hrow
    have hmem : row ∈ s.store.executions.rows := Store.mem_rows_iff.mpr (by rw [hid]; exact hrow)
    cases hstep with
    | kept => exact .inl ⟨_, hmem, rfl, hr⟩
    | outcome he hc ht href => exact .inl ⟨row, hmem, rfl, by simpa [ExecutionRow.enter] using hr⟩
    | recorded he hc hw =>
      rename_i providerRefundId
      cases providerRefundId with
      | none => exact .inl ⟨row, hmem, rfl, by simpa [ExecutionRow.enter] using hr⟩
      | some r' =>
        have heq : r' = r := by simpa [ExecutionRow.enter] using hr
        exact .inr ⟨_, _, by rw [← heq]; exact hw⟩
  · rw [hnew] at hr
    cases hr

theorem recording_origin (h : s.step e = some t) {response : ExecutionResult}
    (hp : t.processes j = .recording id response) :
    s.processes j = .recording id response ∨
    ∃ call result, e = .providerAnswers j (some result) ∧
      s.processes j = .awaitingProvider call id ∧ response = providerResponse result := by
  obtain ⟨-, heq⟩ | ⟨he, ha⟩ := process_cases h j
  · exact .inl (heq ▸ hp)
  · rw [hp] at ha
    generalize hq : s.processes j = q at ha
    cases ha with
    | providerAnswered =>
      cases he
      exact .inr ⟨_, _, rfl, rfl, rfl⟩

theorem settling_origin (h : s.step e = some t) {refund : CommerceRefund}
    {status : RefundExecutionStatus} (hp : t.processes j = .settling refund id status) :
    s.processes j = .settling refund id status ∨
    ∃ call execution, e = .findExecution j true ∧ s.processes j = .finding call refund ∧
      s.found call = some execution ∧ id = execution.executionId := by
  obtain ⟨-, heq⟩ | ⟨he, ha⟩ := process_cases h j
  · exact .inl (heq ▸ hp)
  · rw [hp] at ha
    generalize hq : s.processes j = q at ha
    cases ha with
    | toSettle hf ho =>
      cases he
      exact .inr ⟨_, _, rfl, rfl, hf, rfl⟩

/-- The stored execution that a reconciliation is about. -/
def subject (s : State) : Process → Option RefundExecution
  | .readingRefunds call | .finding call _ => s.found call
  | .settling _ executionId _ => (s.store.executions.find? executionId).map toExecution
  | _ => none

end State

/-- The refund that a reconciliation has read. -/
def Process.refund : Process → Option CommerceRefund
  | .finding _ refund | .settling refund _ _ => some refund
  | _ => none

namespace World

/-- The answer speaks about the refund of the execution, with the outcome of its status; an
answer without a refund is given only for an execution that has none. -/
def Concerns (w : World) (process : Process) (body : ReconciliationResult) : Prop :=
  match body.providerRefundId with
  | none => ∀ execution, w.gateway.subject process = some execution →
      execution.providerRefundId = none
  | some r => ∃ refund execution, process.refund = some refund ∧ refund.id = r ∧
      body.status = reconciliationStatus refund ∧
      w.gateway.subject process = some execution ∧ w.Created r execution.executionId ∧
      ∀ r', execution.providerRefundId = some r' → r' = r

/-- Every reconciliation that the step answers concerns its own refund. -/
def AnswersOwn (w : World) (_ : WorldEvent) (w' : World) : Prop :=
  ∀ i status body, w'.gateway.processes i = .reported (.sent status body) →
    w.gateway.processes i ≠ .reported (.sent status body) →
    w.Concerns (w.gateway.processes i) body

/-- A listing without a refund of the amount is read only while none is recorded, and the first
refund of the amount is the one made for the execution that is looked up. -/
def ListsOwn (w : World) : WorldEvent → World → Prop
  | .gateway (.readRefunds i (some (some order))), _ =>
    match w.gateway.processes i with
    | .readingRefunds call =>
      order.customer = some call.access.subjectCustomerId →
        matchingRefund order call.request.amount = none →
        ∀ execution, w.gateway.found call = some execution → execution.providerRefundId = none
    | _ => True
  | .gateway (.findExecution i true), _ =>
    match w.gateway.processes i with
    | .finding call refund => ∃ execution, w.gateway.found call = some execution ∧
        w.Created refund.id execution.executionId
    | _ => True
  | _, _ => True

/-- Refunds recorded on executions, and those about to be, were made for these executions. -/
structure Attributed (w : World) : Prop where
  refundIds : (w.created.map Creation.refundId).Nodup
  executionIds : (w.created.map Creation.executionId).Nodup
  rows : ∀ row ∈ w.gateway.store.executions.rows, ∀ r, row.providerRefundId = some r →
    w.Created r row.executionId
  recording : ∀ i id response r, w.gateway.processes i = .recording id response →
    response.providerRefundId = some r → w.Created r id
  settling : ∀ i refund id status, w.gateway.processes i = .settling refund id status →
    w.Created refund.id id ∧ ∃ row, w.gateway.store.executions.find? id = some row

theorem created_step (hc : w.Created r id) (h : w.step we = some w') : w'.Created r id := by
  obtain ⟨creation, hm, hr, hid⟩ := hc
  cases we with
  | gateway e =>
    obtain ⟨-, -, -, heq⟩ := gateway_step h
    exact ⟨creation, heq ▸ hm, hr, hid⟩
  | createRefund call refundId state =>
    obtain ⟨-, -, -, heq⟩ := createRefund_step h
    exact ⟨creation, heq ▸ List.mem_cons_of_mem _ hm, hr, hid⟩
  | evolve orders =>
    obtain ⟨-, -, -, heq⟩ := evolve_step h
    exact ⟨creation, heq ▸ hm, hr, hid⟩

theorem Attributed.refund_unique {id' : String} (ha : w.Attributed) (h : w.Created r id)
    (h' : w.Created r id') : id = id' := by
  obtain ⟨a, hma, hra, rfl⟩ := h
  obtain ⟨b, hmb, hrb, rfl⟩ := h'
  rw [Transition.Table.eq_of_unique ha.refundIds hma hmb (hra.trans hrb.symm)]

theorem Attributed.execution_unique {r' : String} (ha : w.Attributed) (h : w.Created r id)
    (h' : w.Created r' id) : r = r' := by
  obtain ⟨a, hma, rfl, hia⟩ := h
  obtain ⟨b, hmb, rfl, hib⟩ := h'
  rw [Transition.Table.eq_of_unique ha.executionIds hma hmb (hia.trans hib.symm)]

theorem Attributed.write_created {status : RefundExecutionStatus} (ha : w.Attributed)
    (hw : (w.gateway.processes i).write = some (id, status, some r)) : w.Created r id := by
  cases hp : w.gateway.processes i with
  | recording executionId response =>
    rw [hp] at hw
    simp only [Process.write, Option.some.injEq, Prod.mk.injEq] at hw
    obtain ⟨rfl, -, hr⟩ := hw
    exact ha.recording i _ response r hp hr
  | settling refund executionId status' =>
    rw [hp] at hw
    simp only [Process.write, Option.some.injEq, Prod.mk.injEq] at hw
    obtain ⟨rfl, -, rfl⟩ := hw
    exact (ha.settling i refund _ status' hp).1
  | _ =>
    rw [hp] at hw
    simp [Process.write] at hw

theorem truthful_answer {result : ProviderRefundResult} {call : ExecutionCall}
    (h : w.truthful (.providerAnswers j (some result)) = true)
    (hp : w.gateway.processes j = .awaitingProvider call id)
    (hr : result.providerRefundId = some r) : w.Created r id := by
  simpa [truthful, hp, hr] using h

theorem nodup_step (ha : w.Attributed) (h : w.step we = some w') :
    (w'.created.map Creation.refundId).Nodup ∧ (w'.created.map Creation.executionId).Nodup := by
  cases we with
  | gateway e =>
    obtain ⟨-, -, -, heq⟩ := gateway_step h
    exact heq ▸ ⟨ha.refundIds, ha.executionIds⟩
  | evolve orders =>
    obtain ⟨-, -, -, heq⟩ := evolve_step h
    exact heq ▸ ⟨ha.refundIds, ha.executionIds⟩
  | createRefund call refundId state =>
    obtain ⟨⟨-, hnew, -⟩, -, -, heq⟩ := createRefund_step h
    rw [heq, List.map_cons, List.map_cons, List.nodup_cons, List.nodup_cons]
    refine ⟨⟨?_, ha.refundIds⟩, ?_, ha.executionIds⟩
    · intro hm
      obtain ⟨c, hc, hid⟩ := List.mem_map.mp hm
      exact (hnew c hc).1 hid
    · intro hm
      obtain ⟨c, hc, hid⟩ := List.mem_map.mp hm
      exact (hnew c hc).2 hid

theorem attributed_gateway_step (ha : w.Attributed) (h : w.step (.gateway e) = some w')
    (hl : ListsOwn w (.gateway e) w') : w'.Attributed := by
  obtain ⟨ht, hg, -, -⟩ := gateway_step h
  obtain ⟨hrefunds, hexecutions⟩ := nodup_step ha h
  refine ⟨hrefunds, hexecutions, ?_, ?_, ?_⟩
  · intro row' hm r hr
    obtain ⟨row, hrow, hid, hrr⟩ | ⟨i, status, hw⟩ := State.refund_origin hg hm hr
    · rw [← hid]
      exact created_step (ha.rows row hrow r hrr) h
    · exact created_step (ha.write_created hw) h
  · intro i id response r hp hr
    obtain hs | ⟨call, result, rfl, hs, rfl⟩ := State.recording_origin hg hp
    · exact created_step (ha.recording i id response r hs hr) h
    · have hresult : result.providerRefundId = some r := by
        cases hst : result.status with
        | failed => simp [providerResponse, hst] at hr
        | submitted => simpa [providerResponse, hst] using hr
        | succeeded => simpa [providerResponse, hst] using hr
      exact created_step (truthful_answer ht hs hresult) h
  · intro i refund id status hp
    obtain hs | ⟨call, execution, rfl, hs, hfound, rfl⟩ := State.settling_origin hg hp
    · obtain ⟨hc, row, hrow⟩ := ha.settling i refund id status hs
      obtain ⟨row', hrow', -⟩ := State.row_step hg hrow
      exact ⟨created_step hc h, row', hrow'⟩
    · simp only [ListsOwn, hs] at hl
      obtain ⟨execution', hfound', hc⟩ := hl
      rw [hfound] at hfound'
      cases hfound'
      obtain ⟨row, hrow, -⟩ := Store.find_row hfound
      obtain ⟨row', hrow', -⟩ := State.row_step hg hrow
      exact ⟨created_step hc h, row', hrow'⟩

theorem attributed_step (w : World) (we : WorldEvent) (w' : World) (ha : w.Attributed)
    (h : world.step w we = some w') (hl : ListsOwn w we w') : w'.Attributed := by
  change w.step we = some w' at h
  have hprovider : w'.gateway = w.gateway → w'.Attributed := by
    intro heq
    obtain ⟨hrefunds, hexecutions⟩ := nodup_step ha h
    refine ⟨hrefunds, hexecutions, ?_, ?_, ?_⟩
    · intro row hm r hr
      exact created_step (ha.rows row (heq ▸ hm) r hr) h
    · intro i id response r hp hr
      exact created_step (ha.recording i id response r (heq ▸ hp) hr) h
    · intro i refund id status hp
      obtain ⟨hc, row, hrow⟩ := ha.settling i refund id status (heq ▸ hp)
      exact ⟨created_step hc h, row, heq ▸ hrow⟩
  cases we with
  | gateway e => exact attributed_gateway_step ha h hl
  | createRefund call refundId state => exact hprovider (createRefund_step h).2.1
  | evolve orders => exact hprovider (evolve_step h).2.1

theorem answersOwn_gateway_step (ha : w.Attributed) (h : w.step (.gateway e) = some w')
    (hl : ListsOwn w (.gateway e) w') : AnswersOwn w (.gateway e) w' := by
  obtain ⟨-, hg, -, -⟩ := gateway_step h
  intro i status body hp hne
  obtain ⟨-, heq⟩ | ⟨he, hadv⟩ := State.process_cases hg i
  · exact absurd (heq ▸ hp) hne
  · rw [hp] at hadv
    generalize hq : w.gateway.processes i = q at hadv
    cases hadv with
    | reconciliationRefused hadmit => exact absurd hadmit admitRefundReconciliation_ne_sent
    | refundsRefused hcheck =>
      cases he
      obtain ⟨order, rfl, hcust, hmatch, rfl⟩ := checkReconciliationOrder_sent hcheck
      simp only [ListsOwn, hq] at hl
      exact hl hcust hmatch
    | nothingToSettle hnone =>
      cases he
      simp only [ListsOwn, hq] at hl
      obtain ⟨execution, hfound, hc⟩ := hl
      obtain ⟨row, hrow, rfl⟩ := Store.find_row hfound
      have hmem : row ∈ w.gateway.store.executions.rows := Store.mem_rows_iff.mpr hrow
      refine ⟨_, _, rfl, rfl, rfl, hfound, hc, ?_⟩
      intro r' hr'
      exact ha.execution_unique (ha.rows row hmem r' hr') hc
    | settled =>
      rename_i _ _ refund id status
      obtain ⟨hc, row, hrow⟩ := ha.settling i refund id status hq
      have hid := Store.executionId_of_find hrow
      have hmem : row ∈ w.gateway.store.executions.rows :=
        Store.mem_rows_iff.mpr (by rw [hid]; exact hrow)
      refine ⟨refund, toExecution row, rfl, rfl, rfl, ?_, by rw [← hid] at hc; exact hc, ?_⟩
      · simp only [State.subject, hrow, Option.map_some]
      · intro r' hr'
        have hc' := ha.rows row hmem r' hr'
        rw [hid] at hc'
        exact ha.execution_unique hc' hc

theorem answersOwn_step (w : World) (we : WorldEvent) (w' : World) (ha : w.Attributed)
    (h : world.step w we = some w') (hl : ListsOwn w we w') : AnswersOwn w we w' := by
  change w.step we = some w' at h
  cases we with
  | gateway e => exact answersOwn_gateway_step ha h hl
  | createRefund call refundId state =>
    intro i status body hp hne
    rw [(createRefund_step h).2.1] at hp
    exact absurd hp hne
  | evolve orders =>
    intro i status body hp hne
    rw [(evolve_step h).2.1] at hp
    exact absurd hp hne

/-- No refund is recorded on two executions. -/
theorem Attributed.recorded_once (ha : w.Attributed) {row row' : ExecutionRow}
    (hm : row ∈ w.gateway.store.executions.rows) (hm' : row' ∈ w.gateway.store.executions.rows)
    (hr : row.providerRefundId = some r) (hr' : row'.providerRefundId = some r) : row = row' :=
  Transition.Table.eq_of_unique w.gateway.store.executions.unique hm hm'
    (ha.refund_unique (ha.rows row hm r hr) (ha.rows row' hm' r hr'))

theorem attributed_starting (h : w.Starting)
    (hrows : ∀ row ∈ w.gateway.store.executions.rows, ∀ r, row.providerRefundId = some r →
      w.Created r row.executionId) : w.Attributed := by
  have hidle := h.gateway.1
  refine ⟨h.refundIds, h.executionIds, hrows, ?_, ?_⟩
  · intro i id response r hp
    rw [hidle] at hp
    cases hp
  · intro i refund id status hp
    rw [hidle] at hp
    cases hp

end World

/-- While reconciliations find their own refund listed first, their answers concern it, no
refund is recorded twice, and the event of a recorded refund is known. -/
theorem reconciliations_own {w₀ w : World} {es : List WorldEvent} (h₀ : w₀.Starting)
    (hrows : ∀ row ∈ w₀.gateway.store.executions.rows, ∀ r, row.providerRefundId = some r →
      w₀.Created r row.executionId)
    (hl : world.Along World.ListsOwn w₀ es) (hrun : world.run w₀ es = some w) :
    world.Along World.AnswersOwn w₀ es ∧
    ∀ row ∈ w.gateway.store.executions.rows, ∀ r, row.providerRefundId = some r →
      (∀ row' ∈ w.gateway.store.executions.rows, row'.providerRefundId = some r → row' = row) ∧
      ∀ input now, input.providerRefundId = r →
        (w.gateway.store.recordProviderRefundEvent input now).1 ≠ .unknownRefund := by
  have ha₀ := World.attributed_starting h₀ hrows
  refine ⟨Machine.along_of_along World.attributed_step World.answersOwn_step ha₀ hl, ?_⟩
  have ha : w.Attributed := Machine.run_invariant_along World.attributed_step ha₀ hl hrun
  intro row hm r hr
  have huniq : ∀ row' ∈ w.gateway.store.executions.rows, row'.providerRefundId = some r →
      row' = row := fun row' hm' hr' => ha.recorded_once hm' hm hr' hr
  refine ⟨huniq, ?_⟩
  rintro input now rfl
  exact Store.recordProviderRefundEvent_known input now hm hr fun row' hm' hr' =>
    huniq row' hm' (hr'.trans hr)

/-- The request is submitted, and its reconciliation has read a listing in which `refunds` come
before its own. -/
def Sample.submittedAndRead (refunds : List VendureRefund) : List WorldEvent :=
  reserves 0 request "execution-1" refunds ++ calls 0 ++ submits 0 request "execution-1" "refund-1" ++
    [.gateway (.receiveReconciliation 1 (some access) (some reconciliation))]

def Sample.readAndFound (refunds : List VendureRefund) : List WorldEvent :=
  [.gateway (.readRefunds 1 (some (some (toCommerceOrder
      (vendureOrder (refunds ++ [⟨"refund-1", "Pending", 2000, []⟩])))))),
    .gateway (.findExecution 1 true)]

theorem own_refund_reconciled :
    ∃ w, world.run (Sample.worldOf []) (Sample.submittedAndRead [] ++ Sample.readAndFound []) =
        some w ∧
      w.gateway.processes 1 = .reported (.sent 200 ⟨.processing, some "refund-1"⟩) ∧
      world.Along World.AnswersOwn (Sample.worldOf [])
        (Sample.submittedAndRead [] ++ Sample.readAndFound []) ∧
      ∀ row ∈ w.gateway.store.executions.rows, ∀ r, row.providerRefundId = some r →
        (∀ row' ∈ w.gateway.store.executions.rows, row'.providerRefundId = some r → row' = row) ∧
        ∀ input now, input.providerRefundId = r →
          (w.gateway.store.recordProviderRefundEvent input now).1 ≠ .unknownRefund := by
  obtain ⟨w, hrun, hp⟩ : ∃ w, world.run (Sample.worldOf [])
      (Sample.submittedAndRead [] ++ Sample.readAndFound []) = some w ∧
      w.gateway.processes 1 = .reported (.sent 200 ⟨.processing, some "refund-1"⟩) :=
    ⟨_, rfl, rfl⟩
  have hl : world.Along World.ListsOwn (Sample.worldOf [])
      (Sample.submittedAndRead [] ++ Sample.readAndFound []) := by
    refine (Machine.along_append rfl).mpr ⟨Machine.along_of_forall ?_, ?_⟩
    · simp [Sample.submittedAndRead, Sample.reserves, Sample.calls, Sample.submits,
        World.ListsOwn]
    · refine (Machine.along_cons_of_step rfl).mpr ⟨?_, ?_⟩
      · intro _ hnone
        cases hnone
      · refine (Machine.along_cons_of_step rfl).mpr ⟨?_, trivial⟩
        exact ⟨_, rfl, _, List.mem_singleton.mpr rfl, rfl, rfl⟩
  have hstart := Sample.worldOf_starting []
  exact ⟨w, hrun, hp, reconciliations_own hstart nofun hl hrun⟩

/-- A refund of the same amount that the order had before. -/
def Sample.earlier : List VendureRefund := [⟨"refund-0", "Settled", 2000, []⟩]

theorem earlier_refund_reported :
    (∃ w row, world.run (Sample.worldOf Sample.earlier) (Sample.submittedAndRead Sample.earlier ++
        Sample.readAndFound Sample.earlier ++ [.gateway (.record 1 9 .acknowledged)]) = some w ∧
      w.gateway.processes 1 = .reported (.sent 200 ⟨.succeeded, some "refund-0"⟩) ∧
      w.gateway.store.executions.rows = [row] ∧ row.providerRefundId = some "refund-0" ∧
      (w.gateway.store.recordProviderRefundEvent
        ⟨"event-1", "refund-1", .failed, "2026-01-01T00:00:02.000Z"⟩ 10).1 = .unknownRefund) ∧
    ¬ ∀ es, world.Along World.AnswersOwn (Sample.worldOf Sample.earlier) es := by
  refine ⟨⟨_, _, rfl, rfl, rfl, rfl, rfl⟩, ?_⟩
  intro hall
  obtain ⟨w, w', hrun, hstep, hp, hp', hcreated⟩ : ∃ w w',
      world.run (Sample.worldOf Sample.earlier) (Sample.submittedAndRead Sample.earlier ++
        Sample.readAndFound Sample.earlier) = some w ∧
      world.step w (.gateway (.record 1 9 .acknowledged)) = some w' ∧
      w.gateway.processes 1 = .settling ⟨"refund-0", "Settled", ⟨2000, "USD"⟩, []⟩ "execution-1"
        .succeeded ∧
      w'.gateway.processes 1 = .reported (.sent 200 ⟨.succeeded, some "refund-0"⟩) ∧
      w.created = [⟨"refund-1", Sample.providerCall Sample.request "execution-1"⟩] :=
    ⟨_, _, rfl, rfl, rfl, rfl, rfl⟩
  have hown := Machine.Along.step (hall (Sample.submittedAndRead Sample.earlier ++
    Sample.readAndFound Sample.earlier ++ [.gateway (.record 1 9 .acknowledged)])) hrun hstep
  obtain ⟨refund, execution, -, -, -, -, ⟨creation, hm, hr, -⟩, -⟩ :=
    hown 1 200 _ hp' (by rw [hp]; exact nofun)
  rw [hcreated, List.mem_singleton] at hm
  rw [hm] at hr
  exact absurd hr (by decide)

end CSO.Gateway
