import CSO.Workers.Offering

/-! The collection of photo evidence, read off the history, and what follows it. -/
namespace CSO.Workers

def Occurrence.snapshot : Occurrence → Option EvidenceSnapshot
  | .completed (.evidence snapshot) => some snapshot
  | _ => none

def Activity.opensEvidence : Activity → Bool
  | .openRefundEvidence _ => true
  | _ => false

def Occurrence.polls : Occurrence → Bool
  | .scheduled (.readRefundEvidence _) => true
  | _ => false

/-- When the evidence was opened first. -/
def openedAt : List HistoryEvent → Option ℤ
  | [] => none
  | e :: past => (openedAt past).or
      (if e.occurrence.snapshot.isSome ∧ (pendingActivity past).any Activity.opensEvidence then
        some e.time
      else none)

/-- When accepted evidence was seen first. -/
def acceptedAt : List HistoryEvent → Option ℤ
  | [] => none
  | e :: past => (acceptedAt past).or
      (if (e.occurrence.snapshot.bind EvidenceSnapshot.accepted).isSome then some e.time else none)

/-- How often the evidence has been read. -/
def pollCount (h : List HistoryEvent) : ℕ := h.countP fun e => e.occurrence.polls

/-- The deadline that the first opening fixes. -/
def evidenceDeadline (h : List HistoryEvent) : Option ℤ :=
  (openedAt h).map (· + evidenceCollectionPeriod)

/-- Accepted evidence has been seen before the deadline. -/
def InTime (h : List HistoryEvent) : Prop :=
  ∃ deadline seen, evidenceDeadline h = some deadline ∧ acceptedAt h = some seen ∧ seen < deadline

section Projections
variable {e : HistoryEvent} {h : List HistoryEvent}

theorem openedAt_quiet (he : e.occurrence.snapshot = none ∨
    (pendingActivity h).any Activity.opensEvidence = false) : openedAt (e :: h) = openedAt h := by
  unfold openedAt
  rw [if_neg ?_, Option.or_none]
  · cases h <;> rfl
  · rintro ⟨hsome, hopens⟩
    rcases he with he | he
    · rw [he] at hsome
      cases hsome
    · rw [he] at hopens
      cases hopens

theorem openedAt_stays {t : ℤ} (ht : openedAt h = some t) : openedAt (e :: h) = some t := by
  unfold openedAt
  rw [ht]
  rfl

theorem acceptedAt_quiet (he : e.occurrence.snapshot.bind EvidenceSnapshot.accepted = none) :
    acceptedAt (e :: h) = acceptedAt h := by
  unfold acceptedAt
  rw [he, if_neg (by simp), Option.or_none]
  cases h <;> rfl

theorem acceptedAt_stays {t : ℤ} (ht : acceptedAt h = some t) : acceptedAt (e :: h) = some t := by
  unfold acceptedAt
  rw [ht]
  rfl

theorem acceptedAt_none_of_cons (ht : acceptedAt (e :: h) = none) : acceptedAt h = none :=
  (Option.or_eq_none_iff.mp ht).1

theorem pollCount_cons :
    pollCount (e :: h) = pollCount h + if e.occurrence.polls then 1 else 0 := by
  unfold pollCount
  rw [List.countP_cons]

theorem openedAt_append {t : ℤ} {es : List HistoryEvent} (ht : openedAt h = some t) :
    openedAt (es ++ h) = some t := by
  induction es with
  | nil => exact ht
  | cons e es ih => exact openedAt_stays ih

theorem InTime.cons (ht : InTime h) : InTime (e :: h) := by
  obtain ⟨deadline, seen, hdeadline, hseen, hlt⟩ := ht
  obtain ⟨opened, hopened, heq⟩ := Option.map_eq_some_iff.mp hdeadline
  refine ⟨deadline, seen, ?_, acceptedAt_stays hseen, hlt⟩
  unfold evidenceDeadline
  rw [openedAt_stays hopened, Option.map_some, heq]

end Projections

/-! What follows the collection neither reads evidence in order to collect it nor opens any. -/

/-- The awaits up to the end of the collection. -/
def Control.collects : Control → Bool
  | .refreshingContext | .evaluatingPolicy .. | .openingEvidence .. | .sleepingBeforePoll .. |
    .readingEvidence .. | .closingExpiredEvidence .. => true
  | _ => false

def Control.readsEvidence : Control → Bool
  | .readingTakeoverEvidence .. | .readingExecutionEvidence .. => true
  | _ => false

/-- The history has grown by events that show no evidence. -/
def Run.Grows (run run' : Run) : Prop :=
  ∃ es : List HistoryEvent, run'.history = es ++ run.history ∧
    ∀ e ∈ es, e.occurrence.snapshot = none

structure Run.Extends (run run' : Run) : Prop where
  grows : run.Grows run'
  recovery : run'.request.evidenceRecovery = run.request.evidenceRecovery

/-- The run is past the collection. -/
structure Run.Beyond (run : Run) : Prop where
  control : run.control.collects = false
  reads : run.control.readsEvidence = true →
    (pendingActivity run.history).any Activity.opensEvidence = false

structure Run.Leads (run run' : Run) : Prop where
  extended : run.Extends run'
  beyond : run'.Beyond

namespace Run
variable {run run' : Run}

theorem Grows.of_cons {e : HistoryEvent} (h : run'.history = e :: run.history)
    (he : e.occurrence.snapshot = none) : run.Grows run' :=
  ⟨[e], h, fun f hf => by rwa [List.mem_singleton.mp hf]⟩

theorem Grows.trans {r : Run} (h : run.Grows r) (h' : r.Grows run') : run.Grows run' := by
  obtain ⟨es, hes, hnone⟩ := h
  obtain ⟨fs, hfs, hnone'⟩ := h'
  refine ⟨fs ++ es, by rw [hfs, hes, List.append_assoc], ?_⟩
  intro e he
  rcases List.mem_append.mp he with he | he
  · exact hnone' e he
  · exact hnone e he

theorem Extends.of_eq (hhistory : run'.history = run.history)
    (hrequest : run'.request = run.request) : run.Extends run' :=
  ⟨⟨[], hhistory, by simp⟩, by rw [hrequest]⟩

theorem Extends.refl (run : Run) : run.Extends run := .of_eq rfl rfl

theorem Extends.trans {r : Run} (h : run.Extends r) (h' : r.Extends run') :
    run.Extends run' :=
  ⟨h.grows.trans h'.grows, h'.recovery.trans h.recovery⟩

theorem Extends.log {o : Occurrence} (ho : o.snapshot = none) : run.Extends (run.log o) := by
  refine ⟨⟨[⟨run.now, o⟩], rfl, ?_⟩, rfl⟩
  intro e he
  rw [List.mem_singleton.mp he]
  exact ho

theorem Extends.dispatchBuffered : run.Extends run.dispatchBuffered := by
  refine dispatchBuffered_invariant (I := run.Extends) ?_ ?_ (Extends.refl run)
  · intro r signal t hr ht
    refine hr.trans ⟨⟨[⟨r.now, .handled signal⟩], by rw [handle_frame ht]; rfl, ?_⟩, ?_⟩
    · intro e he
      rw [List.mem_singleton.mp he]
      rfl
    · rw [handle_frame ht]
  · exact fun r _ hr => ⟨hr.grows, hr.recovery⟩

theorem Extends.leads {r : Run} (h : run.Extends r) (h' : r.Leads run') : run.Leads run' :=
  ⟨h.trans h'.extended, h'.beyond⟩

theorem leads_schedule {activity : Activity} {control : Control} (hc : control.collects = false)
    (ha : control.readsEvidence = true → activity.opensEvidence = false) :
    run.Leads (run.schedule activity control) :=
  ⟨⟨(Extends.log rfl).grows, rfl⟩, ⟨hc, fun hreads => ha hreads⟩⟩

theorem leads_quiet {activity : Activity} {control : Control} (hc : control.collects = false)
    (hr : control.readsEvidence = false) : run.Leads (run.schedule activity control) :=
  leads_schedule hc fun hreads => absurd (hr.symm.trans hreads) Bool.false_ne_true

theorem leads_sleep {milliseconds : ℤ} {control : ℤ → Control}
    (hc : (control (run.now + milliseconds)).collects = false)
    (hr : (control (run.now + milliseconds)).readsEvidence = false) :
    run.Leads (run.sleep milliseconds control) :=
  ⟨⟨(Extends.log rfl).grows, rfl⟩,
    ⟨hc, fun hreads => absurd (hr.symm.trans hreads) Bool.false_ne_true⟩⟩

theorem Extends.setState {state : RefundWorkflowState} : run.Extends (run.setState state) :=
  .of_eq rfl rfl

theorem leads_reconcilePendingRefund {decision : RefundPolicyDecision} {preview : RefundPreview}
    {attemptsInRun : ℕ} :
    run.Leads (run.reconcilePendingRefund decision preview attemptsInRun) :=
  leads_quiet rfl rfl

theorem leads_finish {state : RefundWorkflowState} : run.Leads (run.finish state) :=
  ⟨⟨⟨[], rfl, by simp⟩, rfl⟩, ⟨rfl, fun h => by cases h⟩⟩

theorem leads_declineOffer {offer : Offer} (refusal : Refusal) :
    run.Leads (run.declineOffer offer refusal) := by
  unfold declineOffer
  split
  · split_ifs
    · exact leads_quiet rfl rfl
    · exact leads_finish
  · exact leads_finish

theorem leads_openMonetaryCase {evidence : Option EvidenceSnapshot} {input : OpenHumanCaseInput}
    {control : Control} (hc : control.collects = false) (hr : control.readsEvidence = false) :
    run.Leads (run.openMonetaryCase evidence input control) := by
  unfold openMonetaryCase
  split <;> exact leads_quiet hc hr

theorem leads_executeAuthorizedRefund {offer : Offer} :
    run.Leads (run.executeAuthorizedRefund offer) := by
  unfold executeAuthorizedRefund
  split_ifs
  · exact leads_schedule rfl fun _ => rfl
  · exact leads_quiet rfl rfl

theorem leads_afterObservation {offer : Offer} {confirmation : RefundCustomerConfirmation} :
    run.Leads (run.afterObservation offer confirmation) := by
  unfold afterObservation
  split_ifs
  · split
    · exact leads_openMonetaryCase rfl rfl
    · exact leads_executeAuthorizedRefund
    · exact leads_executeAuthorizedRefund
  · exact leads_declineOffer _

theorem leads_afterConfirmation {offer : Offer}
    {confirmation : Option RefundCustomerConfirmation} :
    run.Leads (run.afterConfirmation offer confirmation) := by
  cases confirmation with
  | none => exact leads_declineOffer _
  | some c =>
    unfold afterConfirmation observeRefundConfirmation
    split_ifs
    · exact leads_quiet rfl rfl
    · exact leads_afterObservation

theorem leads_awaitConfirmation {offer : Offer} {wait : ConfirmationWait} :
    run.Leads (run.awaitConfirmation offer wait) := by
  unfold awaitConfirmation
  split_ifs
  · split
    · split_ifs
      · exact leads_afterConfirmation
      · exact leads_sleep rfl rfl
    · exact leads_afterConfirmation
  · exact ⟨⟨⟨[], rfl, by simp⟩, rfl⟩, ⟨rfl, fun h => by cases h⟩⟩
  · exact leads_afterConfirmation

theorem leads_offerPreview {branch : Branch} {evidence : Option EvidenceSnapshot}
    {decision : RefundPolicyDecision} {preview : RefundPreview} :
    run.Leads (run.offerPreview branch evidence decision preview) := by
  unfold offerPreview waitForRefundConfirmation
  refine Extends.leads (Extends.trans ?_ Extends.dispatchBuffered) leads_awaitConfirmation
  exact .of_eq rfl rfl

theorem leads_installReview {review : HumanReview} {control : Control}
    (hc : control.collects = false) (hr : control.readsEvidence = false) :
    run.Leads (run.installReview review control) := by
  have hi : run.Extends { run with review := some review } := .of_eq rfl rfl
  have hi := hi.trans Extends.dispatchBuffered
  exact ⟨⟨hi.grows, hi.recovery⟩,
    ⟨hc, fun hreads => absurd (hr.symm.trans hreads) Bool.false_ne_true⟩⟩

theorem leads_selectBranch {evidence : Option EvidenceSnapshot} {refundContext : RefundContext}
    {decision : RefundPolicyDecision} :
    run.Leads (run.selectBranch evidence refundContext decision) := by
  have hl : run.Extends (run.log (.selected decision.effect)) := Extends.log rfl
  unfold selectBranch
  simp only
  split
  · exact hl.leads leads_finish
  · exact hl.leads leads_finish
  · exact hl.leads (leads_quiet rfl rfl)
  · exact hl.leads (leads_openMonetaryCase rfl rfl)
  · exact hl.leads (leads_quiet rfl rfl)

theorem leads_afterReviewedPolicy {evidence : EvidenceSnapshot} {refundContext : RefundContext}
    {decision : RefundPolicyDecision} :
    run.Leads (run.afterReviewedPolicy evidence refundContext decision) := by
  unfold afterReviewedPolicy
  split
  · exact leads_quiet rfl rfl
  · exact leads_quiet rfl rfl
  · exact leads_quiet rfl rfl
  · exact leads_selectBranch
  · exact leads_selectBranch

theorem leads_afterExecution {offer : Offer} {result : Gateway.ExecutionResult} :
    run.Leads (run.afterExecution offer result) := by
  unfold afterExecution
  split
  · exact leads_finish
  · let told : Run := run.setState (processingState offer.decision offer.preview
      result.providerRefundId .refundProcessing)
    let waiting : Run := { told with outcomeWait := some ⟨result.providerRefundId, none⟩ }
    have hw : run.Extends waiting := .of_eq rfl rfl
    exact (hw.trans Extends.dispatchBuffered).leads (leads_quiet rfl rfl)
  · exact Extends.setState.leads leads_reconcilePendingRefund
  · exact leads_finish

theorem leads_afterPendingReconciliation {decision : RefundPolicyDecision}
    {preview : RefundPreview} {attemptsInRun : ℕ} {result : Gateway.ReconciliationResult} :
    run.Leads (run.afterPendingReconciliation decision preview attemptsInRun result) := by
  unfold afterPendingReconciliation
  split
  · exact leads_finish
  · exact leads_finish
  · exact leads_sleep rfl rfl
  · exact leads_sleep rfl rfl

theorem leads_afterProcessingReconciliation {decision : RefundPolicyDecision}
    {preview : RefundPreview} {wait : OutcomeWait} {result : Gateway.ReconciliationResult} :
    run.Leads (run.afterProcessingReconciliation decision preview wait result) := by
  have hw : run.Extends { run with outcomeWait := some { wait with
      providerRefundId := wait.providerRefundId.or result.providerRefundId } } := .of_eq rfl rfl
  unfold afterProcessingReconciliation
  simp only
  split_ifs
  · exact hw.leads leads_finish
  · exact hw.leads leads_finish
  · exact hw.leads (Extends.setState.leads (leads_sleep rfl rfl))

theorem leads_afterPendingSleep {decision : RefundPolicyDecision} {preview : RefundPreview}
    {attemptsInRun : ℕ} : run.Leads (run.afterPendingSleep decision preview attemptsInRun) := by
  unfold afterPendingSleep
  split_ifs
  · have hl : run.Extends (run.log (.continuedAsNew { run.request with
        recovery := some ⟨decision, preview, 0⟩ })) := Extends.log rfl
    let next : Run := { run.log (.continuedAsNew { run.request with
        recovery := some ⟨decision, preview, 0⟩ }) with
      request := { run.request with recovery := some ⟨decision, preview, 0⟩ }
      state := processingState decision preview none .pendingReconciliation
      confirmationWait := none
      review := none
      humanDecision := none
      outcomeWait := none
      buffered := [] }
    have hn : run.Extends next := ⟨hl.grows, rfl⟩
    exact hn.leads leads_reconcilePendingRefund
  · exact leads_reconcilePendingRefund

/-- Past the collection every return stays past it. -/
theorem Returns.leads {control : Control} {result : ActivityResult}
    (hr : run.Returns control result run') (hc : control.collects = false) :
    run.Leads run' := by
  cases hr with
  | refreshingReviewedContext => exact leads_quiet rfl rfl
  | evaluatingReviewedPolicy => exact leads_afterReviewedPolicy
  | closingReviewedEvidence => exact leads_selectBranch
  | creatingPreview => exact leads_offerPreview
  | closingUnacceptedEvidence => exact leads_finish
  | observingConfirmation => exact leads_afterObservation
  | openingApproval => exact Extends.setState.leads (leads_installReview rfl rfl)
  | closingApproval =>
    unfold afterApprovalClosed
    split_ifs
    · exact leads_finish
    · exact leads_executeAuthorizedRefund
  | openingTakeover => exact Extends.setState.leads (leads_installReview rfl rfl)
  | closingTakeover =>
    unfold afterTakeoverClosed
    split
    · exact leads_quiet rfl rfl
    · exact leads_finish
    · exact leads_finish
    · exact leads_finish
  | refreshingTakeoverContext =>
    unfold afterTakeoverContext
    split_ifs
    · exact leads_schedule rfl fun _ => rfl
    · exact leads_quiet rfl rfl
  | readingTakeoverEvidence =>
    unfold afterTakeoverEvidence
    split_ifs
    · exact leads_quiet rfl rfl
    · exact leads_finish
  | evaluatingTakeover =>
    unfold afterTakeoverEvaluated
    split
    · exact leads_finish
    · exact leads_finish
    · exact leads_quiet rfl rfl
    · exact leads_quiet rfl rfl
    · exact leads_quiet rfl rfl
  | readingExecutionEvidence =>
    unfold afterExecutionEvidence
    split_ifs
    · exact leads_quiet rfl rfl
    · exact leads_finish
  | refreshingExecutionContext =>
    unfold afterExecutionContext
    split_ifs
    · exact leads_quiet rfl rfl
    · exact leads_finish
  | executing => exact leads_afterExecution
  | reconcilingProcessing => exact leads_afterProcessingReconciliation
  | reconcilingPending => exact leads_afterPendingReconciliation
  | _ => cases hc

theorem Wakes.leads {control : Control} (hw : run.Wakes control run')
    (hc : control.collects = false) : run.Leads run' := by
  cases hw with
  | confirmation => exact leads_afterConfirmation
  | approvalDecided => exact leads_quiet rfl rfl
  | takeoverDecided => exact leads_quiet rfl rfl
  | outcome => exact leads_quiet rfl rfl
  | sleptPending => exact leads_afterPendingSleep
  | sleptBeforePoll => cases hc

/-! A history only grows, and only activities that return show evidence. -/

theorem Leads.grows (h : run.Leads run') : run.Grows run' := h.extended.grows

theorem Grows.acceptedAt (h : run.Grows run') :
    acceptedAt run'.history = acceptedAt run.history := by
  obtain ⟨es, hes, hnone⟩ := h
  rw [hes]
  clear hes
  induction es with
  | nil => rfl
  | cons e es ih =>
    refine (acceptedAt_quiet ?_).trans (ih fun f hf => hnone f (List.mem_cons_of_mem e hf))
    rw [hnone e List.mem_cons_self]
    rfl

theorem grows_schedule {activity : Activity} {control : Control} :
    run.Grows (run.schedule activity control) := .of_cons rfl rfl

theorem grows_start : run.Grows run.start := by
  unfold start
  split
  · exact .of_cons rfl rfl
  · exact .of_cons rfl rfl

theorem grows_awaitEvidence {evidence : EvidenceSnapshot} {decision : RefundPolicyDecision}
    {deadline : ℤ} {polls : ℕ} :
    run.Grows (run.awaitEvidence evidence decision deadline polls) := by
  unfold awaitEvidence
  split
  · split_ifs
    · exact grows_schedule
    · exact .of_cons rfl rfl
  · split_ifs
    · exact grows_schedule
    · exact grows_schedule

theorem grows_continueAsNew {request : RefundWorkflowRequest} :
    run.Grows (run.continueAsNew request) := by
  let next : Run := { run.log (.continuedAsNew request) with
    request
    confirmationWait := none
    review := none
    humanDecision := none
    outcomeWait := none
    buffered := [] }
  have hl : run.Grows (run.log (.continuedAsNew request)) := .of_cons rfl rfl
  have hn : next.Grows next.start := grows_start
  exact hl.trans hn

theorem grows_afterEvidenceRead {evidence : EvidenceSnapshot} {decision : RefundPolicyDecision}
    {deadline : ℤ} {polls : ℕ} :
    run.Grows (run.afterEvidenceRead decision deadline polls evidence) := by
  unfold afterEvidenceRead
  split_ifs
  · exact grows_continueAsNew
  · exact grows_awaitEvidence

theorem grows_afterPolicy {refundContext : RefundContext} {decision : RefundPolicyDecision} :
    run.Grows (run.afterPolicy refundContext decision) := by
  unfold afterPolicy
  split_ifs
  · exact grows_schedule
  · exact leads_selectBranch.grows

theorem Returns.grows {control : Control} {result : ActivityResult}
    (hr : run.Returns control result run') : run.Grows run' := by
  by_cases hc : control.collects = true
  · cases hr with
    | refreshingContext =>
      unfold afterContext
      split
      · exact grows_afterPolicy
      · exact grows_schedule
    | evaluatingPolicy => exact grows_afterPolicy
    | openingEvidence => exact grows_awaitEvidence
    | readingEvidence => exact grows_afterEvidenceRead
    | closingExpiredEvidence => exact leads_finish.grows
    | _ => cases hc
  · exact (hr.leads (by simpa using hc)).grows

theorem Wakes.grows {control : Control} (hw : run.Wakes control run') : run.Grows run' := by
  by_cases hc : control.collects = true
  · cases hw with
    | sleptBeforePoll => exact grows_schedule
    | _ => cases hc
  · exact (hw.leads (by simpa using hc)).grows

theorem history_step {e : RunEvent} (hs : workflow.step run e = some run') :
    ∃ es : List HistoryEvent, run'.history = es ++ run.history := by
  refine workflow_step_cases (P := fun r => ∃ es : List HistoryEvent, r.history = es ++ run.history)
    ?_ ?_ ?_ ?_ ?_ ?_ hs
  · exact fun _ => ⟨[], rfl⟩
  · intro signal r hr
    exact ⟨[⟨run.now, .handled signal⟩], by rw [handle_frame hr]; rfl⟩
  · exact fun _ => ⟨[], rfl⟩
  · exact ⟨[], rfl⟩
  · rintro result r - hr
    obtain ⟨es, hes, -⟩ := hr.grows
    exact ⟨es ++ [⟨run.now, .completed result⟩], by rw [hes, List.append_assoc]; rfl⟩
  · intro r hw
    obtain ⟨es, hes, -⟩ := hw.grows
    exact ⟨es, hes⟩

end Run
end CSO.Workers
