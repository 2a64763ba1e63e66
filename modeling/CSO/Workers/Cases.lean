import CSO.Workers.Deadline

/-! The case of a refund: how it is opened, moved on and closed. -/
namespace CSO.Workers
open Transition (Machine Always)

/-- Where the case of a refund is. -/
inductive CaseStatus
  | unopened
  | evidence
  | monetary
  | closed
  deriving DecidableEq, Repr

namespace Activity

def opensCase : Activity → Bool
  | .openRefundEvidence _ | .openHumanCase _ => true
  | _ => false

def closesCase : Activity → Bool
  | .closeRefundEvidence .. | .closeHumanCase _ => true
  | _ => false

/-- A case with a refund before a human, as it is opened. -/
def monetary : Activity → Option OpenHumanCaseInput
  | .openHumanCase input | .transitionRefundEvidence input _ => some input
  | _ => none

/-- The activities that leave every case alone. -/
def Idle (activity : Activity) : Prop :=
  activity.opensCase = false ∧ activity.closesCase = false ∧ activity.monetary = none

end Activity

/-- What a scheduled activity makes of a case; nothing is made of it out of turn. -/
def CaseStatus.after : CaseStatus → Activity → Option CaseStatus
  | .unopened, .openRefundEvidence _ | .evidence, .openRefundEvidence _ => some .evidence
  | .unopened, .openHumanCase _ | .evidence, .transitionRefundEvidence .. => some .monetary
  | .evidence, .closeRefundEvidence .. | .monetary, .closeHumanCase _ => some .closed
  | status, activity =>
    if activity.opensCase ∨ activity.closesCase ∨ activity.monetary.isSome then none
    else some status

/-- The status that the history leaves the case in. -/
def caseStatus : List HistoryEvent → Option CaseStatus
  | [] => some .unopened
  | e :: past => match e.occurrence.activity with
    | some activity => (caseStatus past).bind (·.after activity)
    | none => caseStatus past

def Opened (h : List HistoryEvent) : Prop :=
  ∃ e ∈ h, ∃ activity, e.occurrence.activity = some activity ∧ activity.opensCase = true

/-- How often a case has been closed. -/
def closings (h : List HistoryEvent) : ℕ :=
  h.countP fun e => e.occurrence.activity.any Activity.closesCase

/-- The monetary case that was opened last. -/
def monetaryCase (h : List HistoryEvent) : Option OpenHumanCaseInput :=
  h.findSome? fun e => e.occurrence.activity.bind Activity.monetary

def Occurrence.humanCase : Occurrence → Option String
  | .completed (.humanCase caseId) => some caseId
  | _ => none

/-- The case that an opening returned last. -/
def returnedCase (h : List HistoryEvent) : Option String :=
  h.findSome? fun e => e.occurrence.humanCase

def HumanReview.caseType : HumanReview → HumanCaseType
  | .approval => .refundApproval
  | .takeover => .refundTakeover

/-- The outcome that a decision determines. -/
def HumanReview.outcome (review : HumanReview) (humanDecision : RefundHumanDecision) :
    CloseOutcome :=
  match review with
  | .approval => if humanDecision.decision = .reject then .rejected else .approved
  | .takeover => Run.takeoverOutcome humanDecision

/-- The close of a monetary case follows the first admissible decision on it. -/
def Determined (input : CloseHumanCaseInput) (past : List HistoryEvent) : Prop :=
  ∃ review opening d, monetaryCase past = some opening ∧ opening.caseType = review.caseType ∧
    firstAdmissible review past = some d ∧ returnedCase past = some input.caseId ∧
    input.decision = d ∧ input.outcome = review.outcome d

/-- A close names the case that was last seen. -/
def ClosesRightly (e : HistoryEvent) (past : List HistoryEvent) : Prop :=
  match e.occurrence with
  | .scheduled (.closeRefundEvidence _ caseId _) => collectedCase past = some caseId
  | .scheduled (.closeHumanCase input) => Determined input past
  | _ => True

section Projections
variable {e : HistoryEvent} {h : List HistoryEvent} {status : CaseStatus} {activity : Activity}

theorem CaseStatus.after_idle (hi : activity.Idle) : status.after activity = some status := by
  obtain ⟨hopens, hcloses, hmonetary⟩ := hi
  cases activity with
  | openHumanCase => cases hopens
  | closeHumanCase => cases hcloses
  | openRefundEvidence => cases hopens
  | transitionRefundEvidence => cases hmonetary
  | closeRefundEvidence => cases hcloses
  | _ => cases status <;> rfl

theorem caseStatus_cons : caseStatus (e :: h) = match e.occurrence.activity with
    | some activity => (caseStatus h).bind (·.after activity)
    | none => caseStatus h := rfl

theorem caseStatus_quiet (he : ∀ activity, e.occurrence.activity = some activity →
    activity.Idle) : caseStatus (e :: h) = caseStatus h := by
  rw [caseStatus_cons]
  cases hactivity : e.occurrence.activity with
  | none => rfl
  | some activity =>
    cases hstatus : caseStatus h with
    | none => rfl
    | some status => exact CaseStatus.after_idle (he activity hactivity)

theorem closesRightly_quiet (he : ∀ activity, e.occurrence.activity = some activity →
    activity.Idle) : ClosesRightly e h := by
  unfold ClosesRightly
  split
  · rename_i heq
    have hcloses := (he _ (by rw [heq]; rfl)).2.1
    cases hcloses
  · rename_i heq
    have hcloses := (he _ (by rw [heq]; rfl)).2.1
    cases hcloses
  · trivial

theorem closings_cons : closings (e :: h) =
    closings h + if e.occurrence.activity.any Activity.closesCase then 1 else 0 := by
  unfold closings
  rw [List.countP_cons]

theorem monetaryCase_cons : monetaryCase (e :: h) =
    (e.occurrence.activity.bind Activity.monetary).or (monetaryCase h) := by
  unfold monetaryCase
  rw [List.findSome?_cons]
  cases e.occurrence.activity.bind Activity.monetary <;> rfl

theorem opened_cons : Opened (e :: h) ↔
    e.occurrence.activity.any Activity.opensCase = true ∨ Opened h := by
  unfold Opened
  constructor
  · rintro ⟨f, hf, activity, hactivity, hopens⟩
    rcases List.mem_cons.mp hf with rfl | hf
    · left
      rw [hactivity]
      exact hopens
    · exact .inr ⟨f, hf, activity, hactivity, hopens⟩
  · rintro (hopens | ⟨f, hf, hrest⟩)
    · obtain ⟨activity, hactivity, hopens⟩ := (Option.any_eq_true _ _).mp hopens
      exact ⟨e, List.mem_cons_self, activity, hactivity, hopens⟩
    · exact ⟨f, List.mem_cons_of_mem e hf, hrest⟩

/-- What the status of a case says of its history. -/
def CaseStatus.Shows (h : List HistoryEvent) : CaseStatus → Prop
  | .unopened => ¬Opened h ∧ closings h = 0 ∧ monetaryCase h = none
  | .evidence => Opened h ∧ closings h = 0 ∧ monetaryCase h = none
  | .monetary => Opened h ∧ closings h = 0
  | .closed => Opened h ∧ closings h = 1

theorem caseStatus_shows (hs : caseStatus h = some status) : status.Shows h := by
  induction h generalizing status with
  | nil =>
    cases hs
    exact ⟨fun ⟨_, he, _⟩ => (List.not_mem_nil he).elim, rfl, rfl⟩
  | cons e past ih =>
    rw [caseStatus_cons] at hs
    cases hactivity : e.occurrence.activity with
    | none =>
      rw [hactivity] at hs
      have hpast := ih hs
      have hopened : Opened (e :: past) ↔ Opened past := by simp [opened_cons, hactivity]
      have hclosings : closings (e :: past) = closings past := by simp [closings_cons, hactivity]
      have hmonetary : monetaryCase (e :: past) = monetaryCase past := by
        simp [monetaryCase_cons, hactivity]
      unfold CaseStatus.Shows at hpast ⊢
      rwa [hopened, hclosings, hmonetary]
    | some activity =>
      rw [hactivity] at hs
      obtain ⟨before, hbefore, hafter⟩ := Option.bind_eq_some_iff.mp hs
      have hpast := ih hbefore
      unfold CaseStatus.Shows at hpast ⊢
      rw [opened_cons, closings_cons, monetaryCase_cons, hactivity]
      cases before <;> cases activity <;> cases hafter <;>
        simp only at hpast <;>
        simp [Activity.opensCase, Activity.closesCase, Activity.monetary, hpast]

/-- Once an activity has been out of turn, the history shows no status any more. -/
theorem caseStatus_append {later : List HistoryEvent}
    (hs : (caseStatus (later ++ h)).isSome) : (caseStatus h).isSome := by
  induction later with
  | nil => exact hs
  | cons e later ih =>
    apply ih
    rw [List.cons_append, caseStatus_cons] at hs
    cases hstatus : caseStatus (later ++ h) with
    | some status => rfl
    | none =>
      rw [hstatus] at hs
      cases hactivity : e.occurrence.activity <;> rw [hactivity] at hs <;> cases hs

/-- What the case was when an activity was scheduled in turn. -/
theorem caseStatus_before {t : ℤ} (hs : (caseStatus (⟨t, .scheduled activity⟩ :: h)).isSome) :
    ∃ before, caseStatus h = some before ∧ (before.after activity).isSome := by
  obtain ⟨status, hstatus⟩ := Option.isSome_iff_exists.mp hs
  obtain ⟨before, hbefore, hafter⟩ := Option.bind_eq_some_iff.mp (caseStatus_cons.symm.trans hstatus)
  exact ⟨before, hbefore, Option.isSome_of_eq_some hafter⟩

end Projections

/-! The controls that have no case left to close. -/

def Control.caseDone : Control → Bool
  | .closingExpiredEvidence .. | .closingUnacceptedEvidence .. | .closingApproval .. |
    .closingTakeover .. | .refreshingTakeoverContext .. | .readingTakeoverEvidence .. |
    .evaluatingTakeover .. | .readingExecutionEvidence .. | .refreshingExecutionContext .. |
    .executing .. | .reconcilingProcessing .. | .awaitingOutcome .. | .reconcilingPending .. |
    .sleepingPending .. | .finished | .failed => true
  | .creatingPreview branch .. => branch != .approval
  | .awaitingConfirmation offer _ | .observingConfirmation offer _ => offer.branch != .approval
  | _ => false

/-- The history has grown and no case was touched. -/
def Run.Rests (run run' : Run) : Prop :=
  ∃ es : List HistoryEvent, run'.history = es ++ run.history ∧
    ∀ e ∈ es, ∀ activity, e.occurrence.activity = some activity → activity.Idle

structure Run.Passes (run run' : Run) : Prop where
  rests : run.Rests run'
  done : run'.control.caseDone = true

namespace Run
variable {run run' : Run} {offer : Offer}

theorem Rests.of_eq (h : run'.history = run.history) : run.Rests run' :=
  ⟨[], h, fun _ he => (List.not_mem_nil he).elim⟩

theorem Rests.of_cons {e : HistoryEvent} (h : run'.history = e :: run.history)
    (he : ∀ activity, e.occurrence.activity = some activity → activity.Idle) :
    run.Rests run' :=
  ⟨[e], h, fun f hf => by rwa [List.mem_singleton.mp hf]⟩

theorem Rests.trans {r : Run} (h : run.Rests r) (h' : r.Rests run') : run.Rests run' := by
  obtain ⟨es, hes, hidle⟩ := h
  obtain ⟨fs, hfs, hidle'⟩ := h'
  refine ⟨fs ++ es, by rw [hfs, hes, List.append_assoc], ?_⟩
  intro e he
  rcases List.mem_append.mp he with he | he
  · exact hidle' e he
  · exact hidle e he

theorem Rests.dispatchBuffered : run.Rests run.dispatchBuffered := by
  refine dispatchBuffered_invariant (I := run.Rests) ?_ (fun _ _ h => h) (.of_eq rfl)
  intro r signal t hr ht
  refine hr.trans (.of_cons (e := ⟨r.now, .handled signal⟩) (by rw [handle_frame ht]) ?_)
  intro activity hactivity
  cases hactivity

theorem Rests.passes {r : Run} (h : run.Rests r) (h' : r.Passes run') : run.Passes run' :=
  ⟨h.trans h'.rests, h'.done⟩

theorem passes_schedule {activity : Activity} {control : Control} (hi : activity.Idle)
    (hc : control.caseDone = true) : run.Passes (run.schedule activity control) := by
  refine ⟨.of_cons rfl ?_, hc⟩
  intro scheduled heq
  cases heq
  exact hi

theorem passes_sleep {milliseconds : ℤ} {control : ℤ → Control}
    (hc : (control (run.now + milliseconds)).caseDone = true) :
    run.Passes (run.sleep milliseconds control) := by
  refine ⟨.of_cons rfl ?_, hc⟩
  intro scheduled heq
  cases heq

theorem passes_finish {state : RefundWorkflowState} : run.Passes (run.finish state) :=
  ⟨.of_eq rfl, rfl⟩

theorem passes_declineOffer (hb : offer.branch ≠ .approval) (refusal : Refusal) :
    run.Passes (run.declineOffer offer refusal) := by
  unfold declineOffer
  split
  · rename_i heq _
    exact absurd heq hb
  · exact passes_finish

theorem passes_executeAuthorizedRefund : run.Passes (run.executeAuthorizedRefund offer) := by
  unfold executeAuthorizedRefund
  split_ifs
  · exact passes_schedule ⟨rfl, rfl, rfl⟩ rfl
  · exact passes_schedule ⟨rfl, rfl, rfl⟩ rfl

theorem passes_afterObservation (hb : offer.branch ≠ .approval)
    {confirmation : RefundCustomerConfirmation} :
    run.Passes (run.afterObservation offer confirmation) := by
  unfold afterObservation
  split_ifs
  · split
    · rename_i heq
      exact absurd heq hb
    · exact passes_executeAuthorizedRefund
    · exact passes_executeAuthorizedRefund
  · exact passes_declineOffer hb _

theorem passes_afterConfirmation (hb : offer.branch ≠ .approval)
    {confirmation : Option RefundCustomerConfirmation} :
    run.Passes (run.afterConfirmation offer confirmation) := by
  cases confirmation with
  | none => exact passes_declineOffer hb _
  | some c =>
    unfold afterConfirmation observeRefundConfirmation
    split_ifs
    · exact passes_schedule ⟨rfl, rfl, rfl⟩ (bne_iff_ne.mpr hb)
    · exact passes_afterObservation hb

theorem passes_awaitConfirmation (hb : offer.branch ≠ .approval) {wait : ConfirmationWait} :
    run.Passes (run.awaitConfirmation offer wait) := by
  unfold awaitConfirmation
  split_ifs
  · split
    · split_ifs
      · exact passes_afterConfirmation hb
      · exact passes_sleep (bne_iff_ne.mpr hb)
    · exact passes_afterConfirmation hb
  · exact ⟨.of_eq rfl, bne_iff_ne.mpr hb⟩
  · exact passes_afterConfirmation hb

theorem passes_offerPreview {branch : Branch} {evidence : Option EvidenceSnapshot}
    {decision : RefundPolicyDecision} {preview : RefundPreview} (hb : branch ≠ .approval) :
    run.Passes (run.offerPreview branch evidence decision preview) := by
  unfold offerPreview waitForRefundConfirmation
  refine Rests.passes (Rests.trans ?_ Rests.dispatchBuffered) (passes_awaitConfirmation hb)
  exact .of_eq rfl

theorem passes_reconcilePendingRefund {decision : RefundPolicyDecision} {preview : RefundPreview}
    {attemptsInRun : ℕ} :
    run.Passes (run.reconcilePendingRefund decision preview attemptsInRun) :=
  passes_schedule ⟨rfl, rfl, rfl⟩ rfl

theorem passes_afterExecution {result : Gateway.ExecutionResult} :
    run.Passes (run.afterExecution offer result) := by
  unfold afterExecution
  split
  · exact passes_finish
  · let told : Run := run.setState (processingState offer.decision offer.preview
      result.providerRefundId .refundProcessing)
    let waiting : Run := { told with outcomeWait := some ⟨result.providerRefundId, none⟩ }
    have hw : run.Rests waiting := .of_eq rfl
    exact (hw.trans Rests.dispatchBuffered).passes (passes_schedule ⟨rfl, rfl, rfl⟩ rfl)
  · have hs : run.Rests (run.setState (processingState offer.decision offer.preview none
        .pendingReconciliation)) := .of_eq rfl
    exact hs.passes passes_reconcilePendingRefund
  · exact passes_finish

theorem passes_afterPendingReconciliation {decision : RefundPolicyDecision}
    {preview : RefundPreview} {attemptsInRun : ℕ} {result : Gateway.ReconciliationResult} :
    run.Passes (run.afterPendingReconciliation decision preview attemptsInRun result) := by
  unfold afterPendingReconciliation
  split
  · exact passes_finish
  · exact passes_finish
  · exact passes_sleep rfl
  · exact passes_sleep rfl

theorem passes_afterProcessingReconciliation {decision : RefundPolicyDecision}
    {preview : RefundPreview} {wait : OutcomeWait} {result : Gateway.ReconciliationResult} :
    run.Passes (run.afterProcessingReconciliation decision preview wait result) := by
  let told : Run := { run with outcomeWait := some { wait with
    providerRefundId := wait.providerRefundId.or result.providerRefundId } }
  have hw : run.Rests told := .of_eq rfl
  have hs : run.Rests (told.setState (processingState decision preview
    (wait.providerRefundId.or result.providerRefundId) .refundProcessing)) := .of_eq rfl
  unfold afterProcessingReconciliation
  simp only
  split_ifs
  · exact hw.passes passes_finish
  · exact hw.passes passes_finish
  · exact hs.passes (passes_sleep rfl)

theorem passes_afterPendingSleep {decision : RefundPolicyDecision} {preview : RefundPreview}
    {attemptsInRun : ℕ} : run.Passes (run.afterPendingSleep decision preview attemptsInRun) := by
  unfold afterPendingSleep
  split_ifs
  · let continued : Occurrence := .continuedAsNew { run.request with
      recovery := some ⟨decision, preview, 0⟩ }
    let next : Run := { run.log continued with
      request := { run.request with recovery := some ⟨decision, preview, 0⟩ }
      state := processingState decision preview none .pendingReconciliation
      confirmationWait := none
      review := none
      humanDecision := none
      outcomeWait := none
      buffered := [] }
    have hn : run.Rests next := by
      refine .of_cons (e := ⟨run.now, continued⟩) rfl ?_
      intro activity hactivity
      cases hactivity
    exact hn.passes passes_reconcilePendingRefund
  · exact passes_reconcilePendingRefund

/-- Where no case is left every return leaves it so. -/
theorem Returns.passes {control : Control} {result : ActivityResult}
    (hr : run.Returns control result run') (hc : control.caseDone = true) :
    run.Passes run' := by
  cases hr with
  | closingExpiredEvidence => exact passes_finish
  | creatingPreview => exact passes_offerPreview (bne_iff_ne.mp hc)
  | closingUnacceptedEvidence => exact passes_finish
  | observingConfirmation => exact passes_afterObservation (bne_iff_ne.mp hc)
  | closingApproval =>
    unfold afterApprovalClosed
    split_ifs
    · exact passes_finish
    · exact passes_executeAuthorizedRefund
  | closingTakeover =>
    unfold afterTakeoverClosed
    split
    · exact passes_schedule ⟨rfl, rfl, rfl⟩ rfl
    · exact passes_finish
    · exact passes_finish
    · exact passes_finish
  | refreshingTakeoverContext =>
    unfold afterTakeoverContext
    split_ifs
    · exact passes_schedule ⟨rfl, rfl, rfl⟩ rfl
    · exact passes_schedule ⟨rfl, rfl, rfl⟩ rfl
  | readingTakeoverEvidence =>
    unfold afterTakeoverEvidence
    split_ifs
    · exact passes_schedule ⟨rfl, rfl, rfl⟩ rfl
    · exact passes_finish
  | evaluatingTakeover =>
    unfold afterTakeoverEvaluated
    split
    · exact passes_finish
    · exact passes_finish
    · exact passes_schedule ⟨rfl, rfl, rfl⟩ rfl
    · exact passes_schedule ⟨rfl, rfl, rfl⟩ rfl
    · exact passes_schedule ⟨rfl, rfl, rfl⟩ rfl
  | readingExecutionEvidence =>
    unfold afterExecutionEvidence
    split_ifs
    · exact passes_schedule ⟨rfl, rfl, rfl⟩ rfl
    · exact passes_finish
  | refreshingExecutionContext =>
    unfold afterExecutionContext
    split_ifs
    · exact passes_schedule ⟨rfl, rfl, rfl⟩ rfl
    · exact passes_finish
  | executing => exact passes_afterExecution
  | reconcilingProcessing => exact passes_afterProcessingReconciliation
  | reconcilingPending => exact passes_afterPendingReconciliation
  | _ => cases hc

theorem Wakes.passes {control : Control} (hw : run.Wakes control run')
    (hc : control.caseDone = true) : run.Passes run' := by
  cases hw with
  | confirmation => exact passes_afterConfirmation (bne_iff_ne.mp hc)
  | outcome => exact passes_schedule ⟨rfl, rfl, rfl⟩ rfl
  | sleptPending => exact passes_afterPendingSleep
  | _ => cases hc

end Run
end CSO.Workers
