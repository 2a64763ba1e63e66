import CSO.Workers.Authorisation

/-! Every step of the refund workflow keeps what its awaits rely on, so that every refund it
executes is authorised. -/
namespace CSO.Workers
open Transition (Machine Always always_cons always_iff)
open View

/-- A run of today has both changes to the expiry of a preview. -/
def Patches.Expiring (patches : Patches) : Prop :=
  patches.expiryTimer = true ∧ patches.expiryConfirmation = true

/-- The history of a run justifies the refunds it has executed. -/
structure Grounded (run : Run) : Prop where
  patched : run.patches.Expiring
  justified : Always Justified run.history

structure Sound (run : Run) : Prop extends Grounded run where
  inv : run.control.Inv run.view

theorem Grounded.log {run : Run} (h : Grounded run) {o : Occurrence} (ho : o.execution = none) :
    Grounded (run.log o) := ⟨h.patched, justified_of_quiet ho, h.justified⟩

/-! Signals. -/

theorem handle_observes {run run' : Run} {signal : Signal}
    (hp : run.patches.expiryConfirmation = true) (h : run.handle signal = some run') :
    Observes run.view run'.view := by
  unfold Run.handle at h
  cases signal with
  | confirmRefund received =>
    obtain ⟨wait, hwait, rfl⟩ := Option.map_eq_some_iff.mp h
    rw [hp]
    exact .confirm received hwait
  | decideRefund received =>
    obtain ⟨review, hreview, rfl⟩ := Option.map_eq_some_iff.mp h
    exact .decide received hreview
  | recordProviderRefundOutcome received =>
    obtain ⟨wait, -, rfl⟩ := Option.map_eq_some_iff.mp h
    exact .quiet (o := .handled (.recordProviderRefundOutcome received)) ⟨rfl, rfl, rfl, rfl⟩

theorem Grounded.handle {run run' : Run} {signal : Signal} (h : Grounded run)
    (hs : run.handle signal = some run') : Grounded run' := by
  rw [Run.handle_frame hs]
  exact ⟨h.patched, justified_of_quiet rfl, h.justified⟩

/-- The signals that waited for a handler keep what is kept of a view. -/
theorem Grounded.dispatchBuffered {run : Run} {P : View → Prop} (h : Grounded run)
    (hP : Kept P) (hv : P run.view) :
    Grounded run.dispatchBuffered ∧ P run.dispatchBuffered.view := by
  refine Run.dispatchBuffered_invariant (I := fun r => Grounded r ∧ P r.view) ?_ ?_ ⟨h, hv⟩
  · rintro r s t ⟨hr, hrv⟩ ht
    exact ⟨hr.handle ht, hP _ _ hrv (handle_observes hr.patched.2 ht)⟩
  · rintro r buffered ⟨hr, hrv⟩
    exact ⟨⟨hr.patched, hr.justified⟩, hrv⟩

/-! From one await to the next. -/

section Steps
variable {run : Run} {offer : Offer} (h : Grounded run)
include h

theorem Grounded.finish (state : RefundWorkflowState) : Sound (run.finish state) :=
  ⟨⟨h.patched, h.justified⟩, trivial⟩

theorem Grounded.schedule {activity : Activity} {control : Control}
    (hq : (Occurrence.scheduled activity).Quiet) (hi : control.Inv run.view) :
    Sound (run.schedule activity control) :=
  ⟨⟨h.patched, justified_of_quiet hq.1, h.justified⟩, control.inv_kept _ _ hi (.quiet hq)⟩

theorem Grounded.sleep {milliseconds : ℤ} {control : ℤ → Control}
    (hi : (control (run.now + milliseconds)).Inv run.view) :
    Sound (run.sleep milliseconds control) :=
  ⟨⟨h.patched, justified_of_quiet rfl, h.justified⟩,
    Control.inv_kept _ _ _ hi (.quiet ⟨rfl, rfl, rfl, rfl⟩)⟩

theorem Grounded.setState (state : RefundWorkflowState) : Grounded (run.setState state) :=
  ⟨h.patched, h.justified⟩

theorem Grounded.declineOffer (refusal : Refusal) : Sound (run.declineOffer offer refusal) := by
  unfold Run.declineOffer
  split
  · split_ifs
    · exact h.schedule ⟨rfl, rfl, rfl, rfl⟩ trivial
    · exact h.finish _
  · exact h.finish _

theorem Grounded.refreshForExecution (hc : Cleared offer run.view) :
    Sound (run.refreshForExecution offer) :=
  h.schedule ⟨rfl, rfl, rfl, rfl⟩ hc

theorem Grounded.executeAuthorizedRefund (hc : Cleared offer run.view) :
    Sound (run.executeAuthorizedRefund offer) := by
  unfold Run.executeAuthorizedRefund
  split_ifs
  · exact h.schedule ⟨rfl, rfl, rfl, rfl⟩ hc
  · exact h.refreshForExecution hc

theorem Grounded.afterExecutionEvidence (hc : Cleared offer run.view)
    (current : EvidenceSnapshot) : Sound (run.afterExecutionEvidence offer current) := by
  unfold Run.afterExecutionEvidence
  split_ifs
  · exact h.refreshForExecution hc
  · exact h.finish _

theorem Grounded.openMonetaryCase {evidence : Option EvidenceSnapshot}
    {input : OpenHumanCaseInput} {control : Control} (hi : control.Inv run.view) :
    Sound (run.openMonetaryCase evidence input control) := by
  unfold Run.openMonetaryCase
  split
  · exact h.schedule ⟨rfl, rfl, rfl, rfl⟩ hi
  · exact h.schedule ⟨rfl, rfl, rfl, rfl⟩ hi

theorem Grounded.afterObservation {confirmation : RefundCustomerConfirmation}
    (ho : Offered offer run.view) (hr : Ready offer.branch run.view)
    (hc : confirmation.accepted = true → Confirmed offer.preview run.history) :
    Sound (run.afterObservation offer confirmation) := by
  unfold Run.afterObservation
  split_ifs with haccepted
  · have haccept : Accepted offer run.view := ⟨ho, hc haccepted⟩
    cases hbranch : offer.branch with
    | approval =>
      rw [hbranch] at hr
      exact h.openMonetaryCase ⟨haccept, hbranch, hr⟩
    | allow =>
      refine h.executeAuthorizedRefund ⟨haccept, ?_⟩
      rw [hbranch]
      trivial
    | exceptional =>
      rw [hbranch] at hr
      refine h.executeAuthorizedRefund ⟨haccept, ?_⟩
      rw [hbranch]
      exact hr
  · exact h.declineOffer _

theorem Grounded.afterConfirmation {confirmation : Option RefundCustomerConfirmation}
    (ho : Offered offer run.view) (hr : Ready offer.branch run.view)
    (hc : ∀ c, confirmation = some c → c.accepted = true →
      Confirmed offer.preview run.history) :
    Sound (run.afterConfirmation offer confirmation) := by
  cases confirmation with
  | none => exact h.declineOffer _
  | some c =>
    unfold Run.afterConfirmation Run.observeRefundConfirmation
    split_ifs
    · exact h.schedule ⟨rfl, rfl, rfl, rfl⟩ ⟨⟨ho, hr⟩, hc c rfl⟩
    · exact h.afterObservation ho hr (hc c rfl)

omit h in
/-- What the wait holds is the first timely confirmation of the preview on offer. -/
theorem confirmed_of_wait {v : View} {wait : ConfirmationWait}
    {c : RefundCustomerConfirmation} (ho : Offered offer v)
    (hw : v.confirmationWait = some wait) (hc : wait.confirmation = some c)
    (ha : c.accepted = true) : Confirmed offer.preview v.history := by
  obtain ⟨found, hfound, hpreview⟩ := ho.waits
  rw [hw] at hfound
  cases hfound
  have hconsistent := ho.deciding.handled.confirmation
  rw [hw] at hconsistent
  have hfirst := hconsistent.first
  rw [hc, hpreview] at hfirst
  obtain ⟨timed, htimed, rfl⟩ := Option.map_eq_some_iff.mp hfirst.symm
  exact ⟨timed, htimed, ha⟩

theorem Grounded.waitForRefundConfirmation (hd : Deciding offer.branch.effect run.view)
    (hcreated : Created offer.preview run.history) (hnone : run.confirmationWait = none)
    (hr : Ready offer.branch run.view) : Sound (run.waitForRefundConfirmation offer) := by
  obtain ⟨hhandled, hexecutions, hselections⟩ := hd
  have hconfirmation : confirmations run.history = [] := hhandled.unconfirmed hnone
  have hdecision := hhandled.decision
  let waiting : Run := { run with confirmationWait := some ⟨offer.preview, none, false⟩ }
  have hwaiting : Grounded waiting := ⟨h.patched, h.justified⟩
  have hinv : (Control.awaitingConfirmation offer none).Inv waiting.view := by
    refine ⟨⟨⟨⟨⟨?_, ?_⟩, hdecision⟩, hexecutions, hselections⟩, hcreated, _, rfl, rfl⟩, ?_⟩
    · change none = (firstTimely offer.preview run.history).map Prod.snd
      unfold firstTimely
      rw [hconfirmation]
      rfl
    · intro hexpired
      cases hexpired
    · cases hbranch : offer.branch with
      | allow => trivial
      | approval =>
        rw [hbranch] at hr
        exact hr
      | exceptional =>
        rw [hbranch] at hr
        exact hr
  obtain ⟨hg, ho, hready⟩ := hwaiting.dispatchBuffered (Control.inv_kept _) hinv
  obtain ⟨wait, hwait, hpreview⟩ := ho.waits
  have hcw : waiting.dispatchBuffered.confirmationWait = some wait := hwait
  change Sound (waiting.dispatchBuffered.awaitConfirmation offer
    (waiting.dispatchBuffered.confirmationWait.getD _))
  rw [hcw, Option.getD_some]
  unfold Run.awaitConfirmation
  split_ifs
  · split
    · split_ifs
      · exact hg.afterConfirmation ho hready (by simp)
      · exact hg.sleep ⟨ho, hready⟩
    · exact hg.afterConfirmation ho hready (by simp)
  · exact ⟨⟨hg.patched, hg.justified⟩, ho, hready⟩
  · exact hg.afterConfirmation ho hready fun c hc ha => confirmed_of_wait ho hwait hc ha

theorem Grounded.requestPreview {branch : Branch} {evidence : Option EvidenceSnapshot}
    {refundContext : RefundContext} {decision : RefundPolicyDecision}
    {authorization : Option RefundPreviewAuthorization}
    (hi : (Control.creatingPreview branch evidence decision).Inv run.view) :
    Sound (run.requestPreview branch evidence refundContext decision authorization) :=
  h.schedule ⟨rfl, rfl, rfl, rfl⟩ hi

/-- Installing the handler of a review, when no human decision has been handled yet. -/
theorem Grounded.installReview {review : HumanReview} {control : Control}
    (hnone : run.review = none) (hh : Handled run.view)
    (hi : Handled { run.view with review := some review } →
      control.Inv { run.view with review := some review }) :
    Sound (run.installReview review control) := by
  have hconfirmation := hh.confirmation
  have hdecision : humanDecisions run.history = [] ∧ run.humanDecision = none :=
    hh.unreviewed hnone
  have hinstalled : Handled { run.view with review := some review } := by
    refine ⟨hconfirmation, ?_⟩
    change run.humanDecision = firstAdmissible review run.history
    unfold firstAdmissible
    rw [hdecision.1, hdecision.2]
    rfl
  have hg : Grounded { run with review := some review } := ⟨h.patched, h.justified⟩
  obtain ⟨hgd, hinv⟩ := hg.dispatchBuffered control.inv_kept (hi hinstalled)
  exact ⟨⟨hgd.patched, hgd.justified⟩, hinv⟩

theorem Grounded.afterApprovalOpened {caseId : String} (ha : Approving offer none run.view) :
    Sound (run.afterApprovalOpened offer caseId) := by
  obtain ⟨⟨⟨hd, hcreated, hwaits⟩, hconfirmed⟩, hbranch, hreview⟩ := ha
  refine (h.setState _).installReview hreview hd.handled fun hinstalled => ?_
  exact ⟨⟨⟨⟨hinstalled, hd.executions, hd.selections⟩, hcreated, hwaits⟩, hconfirmed⟩, hbranch,
    rfl⟩

theorem Grounded.afterApprovalClosed {humanDecision : RefundHumanDecision}
    (ha : Approving offer (some .approval) run.view)
    (hd : run.humanDecision = some humanDecision) :
    Sound (run.afterApprovalClosed offer humanDecision) := by
  unfold Run.afterApprovalClosed
  split_ifs with hreject
  · exact h.finish _
  · obtain ⟨haccepted, hbranch, hreview⟩ := ha
    have hfirst := haccepted.deciding.handled.decision
    rw [hreview] at hfirst
    change run.humanDecision = firstAdmissible .approval run.history at hfirst
    rw [hd] at hfirst
    refine h.executeAuthorizedRefund ⟨haccepted, ?_⟩
    rw [hbranch]
    refine ⟨humanDecision, hfirst.symm, ?_⟩
    -- an approval admits two decisions only, and this is not the rejection
    have hadmits := List.find?_some hfirst.symm
    simp only [HumanReview.admits, HumanReview.allowedActions, List.contains_cons,
      List.contains_nil, Bool.or_false, Bool.or_eq_true, beq_iff_eq] at hadmits
    exact hadmits.resolve_right hreject

theorem Grounded.openTakeover {evidence : Option EvidenceSnapshot}
    {decision : RefundPolicyDecision} (ht : TakingOver none run.view) :
    Sound (run.openTakeover evidence decision) := h.openMonetaryCase ht

theorem Grounded.afterTakeoverOpened {evidence : Option EvidenceSnapshot}
    {decision : RefundPolicyDecision} {caseId : String} (ht : TakingOver none run.view) :
    Sound (run.afterTakeoverOpened evidence decision caseId) := by
  obtain ⟨hd, hwait, hreview⟩ := ht
  refine (h.setState _).installReview hreview hd.handled fun hinstalled => ?_
  exact ⟨⟨hinstalled, hd.executions, hd.selections⟩, hwait, rfl⟩

theorem Grounded.afterTakeoverClosed {evidence : Option EvidenceSnapshot}
    {decision : RefundPolicyDecision} {caseId : String} {humanDecision : RefundHumanDecision}
    (ht : TakingOver (some .takeover) run.view) (hd : run.humanDecision = some humanDecision) :
    Sound (run.afterTakeoverClosed evidence decision caseId humanDecision) := by
  unfold Run.afterTakeoverClosed
  split
  · rename_i happroved
    obtain ⟨hdeciding, hwait, hreview⟩ := ht
    have hfirst := hdeciding.handled.decision
    rw [hreview] at hfirst
    change run.humanDecision = firstAdmissible .takeover run.history at hfirst
    rw [hd] at hfirst
    exact h.schedule ⟨rfl, rfl, rfl, rfl⟩
      ⟨hdeciding, hwait, humanDecision, hfirst.symm, happroved⟩
  · exact h.finish _
  · exact h.finish _
  · exact h.finish _

theorem Grounded.afterTakeoverContext {evidence : Option EvidenceSnapshot}
    {decision : RefundPolicyDecision} {caseId : String} {refreshedContext : RefundContext}
    (hi : (Control.refreshingTakeoverContext evidence decision caseId).Inv run.view) :
    Sound (run.afterTakeoverContext evidence decision caseId refreshedContext) := by
  unfold Run.afterTakeoverContext
  split_ifs
  · exact h.schedule ⟨rfl, rfl, rfl, rfl⟩ hi
  · exact h.requestPreview hi

theorem Grounded.afterTakeoverEvidence {evidence : Option EvidenceSnapshot}
    {decision : RefundPolicyDecision} {caseId : String} {refreshedContext : RefundContext}
    {current : EvidenceSnapshot}
    (hi : (Control.refreshingTakeoverContext evidence decision caseId).Inv run.view) :
    Sound (run.afterTakeoverEvidence evidence decision caseId refreshedContext current) := by
  unfold Run.afterTakeoverEvidence
  split_ifs
  · exact h.schedule ⟨rfl, rfl, rfl, rfl⟩ hi
  · exact h.finish _

theorem Grounded.afterTakeoverEvaluated {evidence : Option EvidenceSnapshot}
    {decision : RefundPolicyDecision} {caseId : String} {refreshedContext : RefundContext}
    (hi : (Control.evaluatingTakeover evidence caseId refreshedContext).Inv run.view) :
    Sound (run.afterTakeoverEvaluated evidence caseId refreshedContext decision) := by
  unfold Run.afterTakeoverEvaluated
  split
  · exact h.finish _
  · exact h.finish _
  · exact h.requestPreview hi
  · exact h.requestPreview hi
  · exact h.requestPreview hi

/-- The switch: from here on the run is deciding on the effect it has selected. -/
theorem Grounded.selectBranch {evidence : Option EvidenceSnapshot} {refundContext : RefundContext}
    {decision : RefundPolicyDecision} (hc : Collecting run.view) :
    Sound (run.selectBranch evidence refundContext decision) := by
  have hg : Grounded (run.log (.selected decision.effect)) := h.log rfl
  have hd : Deciding decision.effect (run.log (.selected decision.effect)).view := by
    refine ⟨handled_of_idle hc.confirmationWait hc.review hc.humanDecisions.2 ?_ ?_, ?_, ?_⟩
    · exact confirmations_cons.trans (List.append_eq_nil_iff.mpr ⟨hc.confirmations, rfl⟩)
    · exact humanDecisions_cons.trans (List.append_eq_nil_iff.mpr ⟨hc.humanDecisions.1, rfl⟩)
    · exact executions_cons.trans (List.append_eq_nil_iff.mpr ⟨rfl, hc.executions⟩)
    · exact selections_cons.trans (congrArg (decision.effect :: ·) hc.selections)
  have hwait : (run.log (.selected decision.effect)).confirmationWait = none := hc.confirmationWait
  have hreview : (run.log (.selected decision.effect)).review = none := hc.review
  unfold Run.selectBranch
  cases heffect : decision.effect with
  | needsFacts =>
    rw [heffect] at hg
    exact hg.finish _
  | deny =>
    rw [heffect] at hg
    exact hg.finish _
  | approvalRequired =>
    rw [heffect] at hg hd hwait hreview
    exact hg.requestPreview ⟨hd, hwait, hreview⟩
  | takeoverRequired =>
    rw [heffect] at hg hd hwait hreview
    exact hg.openTakeover ⟨hd, hwait, hreview⟩
  | allow =>
    rw [heffect] at hg hd hwait
    exact hg.requestPreview ⟨hd, hwait, trivial⟩

theorem Grounded.awaitEvidence {evidence : EvidenceSnapshot} {decision : RefundPolicyDecision}
    {deadline : ℤ} {polls : ℕ} (hc : Collecting run.view) :
    Sound (run.awaitEvidence evidence decision deadline polls) := by
  unfold Run.awaitEvidence Run.closeExpiredEvidence
  split
  · split_ifs
    · exact h.schedule ⟨rfl, rfl, rfl, rfl⟩ trivial
    · exact (h.setState _).sleep hc
  · split_ifs
    · exact h.schedule ⟨rfl, rfl, rfl, rfl⟩ trivial
    · exact h.schedule ⟨rfl, rfl, rfl, rfl⟩ hc

theorem Grounded.start (hc : run.request.recovery = none → Collecting run.view) :
    Sound run.start := by
  unfold Run.start
  split
  · exact (h.setState _).schedule ⟨rfl, rfl, rfl, rfl⟩ trivial
  · rename_i hnone
    exact (h.setState _).schedule ⟨rfl, rfl, rfl, rfl⟩ (hc hnone)

/-- The next run of the chain collects again, unless it recovers an execution. -/
theorem Grounded.continueAsNew {request : RefundWorkflowRequest}
    (hc : request.recovery = none → Collecting run.view) : Sound (run.continueAsNew request) := by
  have hlog : Grounded (run.log (.continuedAsNew request)) := h.log rfl
  refine Grounded.start ⟨hlog.patched, hlog.justified⟩ fun hnone => ?_
  have hcollecting := hc hnone
  refine ⟨handled_of_idle rfl rfl rfl ?_ ?_, ?_, ?_, rfl, rfl⟩
  · exact confirmations_cons.trans (List.append_eq_nil_iff.mpr ⟨hcollecting.confirmations, rfl⟩)
  · exact humanDecisions_cons.trans (List.append_eq_nil_iff.mpr ⟨hcollecting.humanDecisions.1, rfl⟩)
  · exact executions_cons.trans (List.append_eq_nil_iff.mpr ⟨rfl, hcollecting.executions⟩)
  · exact selections_cons.trans (List.append_eq_nil_iff.mpr ⟨rfl, hcollecting.selections⟩)

theorem Grounded.afterEvidenceRead {evidence : EvidenceSnapshot} {decision : RefundPolicyDecision}
    {deadline : ℤ} {polls : ℕ} (hc : Collecting run.view) :
    Sound (run.afterEvidenceRead decision deadline polls evidence) := by
  unfold Run.afterEvidenceRead
  split_ifs
  · exact h.continueAsNew fun _ => hc
  · exact h.awaitEvidence hc

theorem Grounded.afterReviewedPolicy {evidence : EvidenceSnapshot} {refundContext : RefundContext}
    {decision : RefundPolicyDecision} (hc : Collecting run.view) :
    Sound (run.afterReviewedPolicy evidence refundContext decision) := by
  unfold Run.afterReviewedPolicy
  split
  · exact h.schedule ⟨rfl, rfl, rfl, rfl⟩ hc
  · exact h.schedule ⟨rfl, rfl, rfl, rfl⟩ hc
  · exact h.schedule ⟨rfl, rfl, rfl, rfl⟩ hc
  · exact h.selectBranch hc
  · exact h.selectBranch hc

theorem Grounded.afterPolicy {refundContext : RefundContext} {decision : RefundPolicyDecision}
    (hc : Collecting run.view) : Sound (run.afterPolicy refundContext decision) := by
  unfold Run.afterPolicy
  split_ifs
  · exact h.schedule ⟨rfl, rfl, rfl, rfl⟩ hc
  · exact h.selectBranch hc

theorem Grounded.afterContext {refundContext : RefundContext} (hc : Collecting run.view) :
    Sound (run.afterContext refundContext) := by
  unfold Run.afterContext
  split
  · exact h.afterPolicy hc
  · exact h.schedule ⟨rfl, rfl, rfl, rfl⟩ hc

theorem Grounded.reconcile (preview : RefundPreview) {control : Control}
    (hi : control.Inv run.view) : Sound (run.reconcile preview control) :=
  h.schedule ⟨rfl, rfl, rfl, rfl⟩ hi

theorem Grounded.awaitProviderRefundOutcome {decision : RefundPolicyDecision}
    {preview : RefundPreview} {providerRefundId : Option String} :
    Sound (run.awaitProviderRefundOutcome decision preview providerRefundId) := by
  have hg : Grounded { run with outcomeWait := some ⟨providerRefundId, none⟩ } :=
    ⟨h.patched, h.justified⟩
  obtain ⟨hgd, -⟩ := hg.dispatchBuffered (kept_const True) trivial
  exact hgd.reconcile preview trivial

theorem Grounded.afterExecution (result : Gateway.ExecutionResult) :
    Sound (run.afterExecution offer result) := by
  unfold Run.afterExecution
  split
  · exact h.finish _
  · exact (h.setState _).awaitProviderRefundOutcome
  · exact (h.setState _).reconcile _ trivial
  · exact h.finish _

theorem Grounded.afterProcessingReconciliation {decision : RefundPolicyDecision}
    {preview : RefundPreview} {wait : OutcomeWait} {result : Gateway.ReconciliationResult} :
    Sound (run.afterProcessingReconciliation decision preview wait result) := by
  unfold Run.afterProcessingReconciliation
  have hg : Grounded { run with outcomeWait := some { wait with
      providerRefundId := wait.providerRefundId.or result.providerRefundId } } :=
    ⟨h.patched, h.justified⟩
  simp only
  split_ifs
  · exact hg.finish _
  · exact hg.finish _
  · exact (hg.setState _).sleep trivial

theorem Grounded.afterPendingReconciliation {decision : RefundPolicyDecision}
    {preview : RefundPreview} {attemptsInRun : ℕ} {result : Gateway.ReconciliationResult} :
    Sound (run.afterPendingReconciliation decision preview attemptsInRun result) := by
  unfold Run.afterPendingReconciliation
  split
  · exact h.finish _
  · exact h.finish _
  · exact h.sleep trivial
  · exact h.sleep trivial

theorem Grounded.afterPendingSleep {decision : RefundPolicyDecision} {preview : RefundPreview}
    {attemptsInRun : ℕ} : Sound (run.afterPendingSleep decision preview attemptsInRun) := by
  unfold Run.afterPendingSleep
  split_ifs
  · exact h.continueAsNew (by simp)
  · exact h.reconcile _ trivial

end Steps

/-- The refund is executed on facts just read, so everything it needs is there. -/
theorem Grounded.afterExecutionContext {run : Run} {offer : Offer} {refreshed : RefundContext}
    (h : Grounded run) (hc : Cleared offer run.view) :
    Sound ((run.log (.completed (.refundContext refreshed))).afterExecutionContext offer
      refreshed) := by
  have hg : Grounded (run.log (.completed (.refundContext refreshed))) := h.log rfl
  unfold Run.afterExecutionContext
  split_ifs with havailable
  · refine ⟨⟨hg.patched, ?_, hg.justified⟩, trivial⟩
    intro input hinput
    cases hinput
    have hkept := (kept_cleared offer) _ _ hc
      (.quiet (o := .completed (.refundContext refreshed)) ⟨rfl, rfl, rfl, rfl⟩)
    refine ⟨hkept.deciding.executions, hkept.created,
      ⟨_, hkept.deciding.selections, hkept.reviewed⟩, ?_⟩
    exact ⟨[], run.now, refreshed, run.history, rfl, havailable, hc.confirmed⟩
  · exact hg.finish _

theorem Grounded.offerPreview {run : Run} {branch : Branch} {evidence : Option EvidenceSnapshot}
    {decision : RefundPolicyDecision} {preview : RefundPreview} (h : Grounded run)
    (hi : (Control.creatingPreview branch evidence decision).Inv run.view)
    (hcreated : Created preview run.history) :
    Sound (run.offerPreview branch evidence decision preview) :=
  (h.setState _).waitForRefundConfirmation hi.1 hcreated hi.2.1 hi.2.2

theorem Sound.returns {run run' : Run} {result : ActivityResult} (h : Sound run)
    (hr : (run.log (.completed result)).Returns run.control result run') : Sound run' := by
  have hg : Grounded (run.log (.completed result)) := h.toGrounded.log rfl
  have hi : run.control.Inv (run.log (.completed result)).view :=
    run.control.inv_kept _ _ h.inv (.quiet ⟨rfl, rfl, rfl, rfl⟩)
  have hinv := h.inv
  generalize run.control = control at hr hi hinv
  cases hr with
  | refreshingContext => exact hg.afterContext hi
  | evaluatingPolicy => exact hg.afterPolicy hi
  | openingEvidence => exact hg.awaitEvidence hi
  | readingEvidence => exact hg.afterEvidenceRead hi
  | closingExpiredEvidence => exact hg.finish _
  | refreshingReviewedContext => exact hg.schedule ⟨rfl, rfl, rfl, rfl⟩ hi
  | evaluatingReviewedPolicy => exact hg.afterReviewedPolicy hi
  | closingReviewedEvidence => exact hg.selectBranch hi
  | creatingPreview => exact hg.offerPreview hi ⟨_, List.mem_cons_self⟩
  | closingUnacceptedEvidence => exact hg.finish _
  | observingConfirmation => exact hg.afterObservation hi.1.1 hi.1.2 hi.2
  | openingApproval => exact hg.afterApprovalOpened hi
  | closingApproval => exact hg.afterApprovalClosed hi.1 hi.2
  | openingTakeover => exact hg.afterTakeoverOpened hi
  | closingTakeover => exact hg.afterTakeoverClosed hi.1 hi.2
  | refreshingTakeoverContext => exact hg.afterTakeoverContext hi
  | readingTakeoverEvidence => exact hg.afterTakeoverEvidence hi
  | evaluatingTakeover => exact hg.afterTakeoverEvaluated hi
  | readingExecutionEvidence => exact hg.afterExecutionEvidence hi _
  | refreshingExecutionContext => exact h.toGrounded.afterExecutionContext hinv
  | executing => exact hg.afterExecution _
  | reconcilingProcessing => exact hg.afterProcessingReconciliation
  | reconcilingPending => exact hg.afterPendingReconciliation

theorem Sound.wakes {run run' : Run} (h : Sound run) (hw : run.Wakes run.control run') :
    Sound run' := by
  have hi := h.inv
  generalize run.control = control at hw hi
  cases hw with
  | sleptBeforePoll => exact h.schedule ⟨rfl, rfl, rfl, rfl⟩ hi
  | confirmation offer =>
    refine h.afterConfirmation hi.1 hi.2 fun c hc ha => ?_
    obtain ⟨wait, hwait, hc⟩ := Option.bind_eq_some_iff.mp hc
    exact confirmed_of_wait hi.1 hwait hc ha
  | approvalDecided offer caseId d hd => exact h.schedule ⟨rfl, rfl, rfl, rfl⟩ ⟨hi, hd⟩
  | takeoverDecided evidence decision caseId d hd =>
    exact h.schedule ⟨rfl, rfl, rfl, rfl⟩ ⟨hi, hd⟩
  | outcome => exact h.reconcile _ trivial
  | sleptPending => exact h.afterPendingSleep

theorem sound_step (run : Run) (e : RunEvent) (run' : Run) (h : Sound run)
    (hs : workflow.step run e = some run') : Sound run' := by
  refine workflow_step_cases ?_ ?_ ?_ ?_ (fun _ _ _ => h.returns) (fun _ => h.wakes) hs
  · intro milliseconds
    exact ⟨⟨h.patched, h.justified⟩, run.control.inv_kept _ _ h.inv (.advance milliseconds)⟩
  · intro signal r hr
    have hinv := run.control.inv_kept _ _ h.inv (handle_observes h.patched.2 hr)
    have hcontrol : r.control = run.control := by rw [Run.handle_frame hr]
    exact ⟨h.toGrounded.handle hr, by rwa [hcontrol]⟩
  · intro buffered
    exact ⟨⟨h.patched, h.justified⟩, h.inv⟩
  · exact ⟨⟨h.patched, h.justified⟩, trivial⟩

theorem Run.start_patches (run : Run) : run.start.patches = run.patches := by
  unfold Run.start
  split <;> rfl

def Run.StartingPatched (run : Run) : Prop := run.Starting ∧ run.patches.Expiring

theorem sound_starting {run : Run} (h : run.StartingPatched) : Sound run := by
  obtain ⟨⟨request, workflowId, patches, now, rfl⟩, hpatched⟩ := h
  rw [Run.start_patches] at hpatched
  have hg : Grounded (Run.blank request workflowId patches now) := ⟨hpatched, trivial⟩
  exact hg.start fun _ => ⟨handled_of_idle rfl rfl rfl rfl rfl, rfl, rfl, rfl, rfl⟩

/-- In every chain of runs the refund is executed at most once, and only when it is authorised. -/
theorem executed_once_when_authorised {run : Run}
    (h : workflow.Reachable Run.StartingPatched run) :
    (executions run.history).length ≤ 1 ∧
      ∀ later t input past,
        run.history = later ++ ⟨t, .scheduled (.executeRefund input)⟩ :: past →
          Authorised input.preview past := by
  have hsound : Sound run := h.invariant (fun _ => sound_starting) sound_step
  refine ⟨executions_length_le_one hsound.justified, ?_⟩
  intro later t input past heq
  exact (always_iff.mp hsound.justified later _ past heq input rfl).2

/-! A refund that the policy allows, accepted by the customer. -/
namespace Sample

def proposal : RefundProposal where
  proposalId := "proposal-1"
  intent := ⟨"order-1", "DEFECTIVE", .fullOrder, [], some ⟨5000, "USD"⟩⟩

def journey : WorkflowJourneyAccess := ⟨"tenant-1", "production", "customer-1", "request-1", "trace-1"⟩

def request : RefundWorkflowRequest :=
  ⟨none, proposal, "refund-policy-v1", journey, none, none⟩

def context : RefundContext where
  observationId := "observation-1"
  observedAt := "2026-08-08T12:00:00.000Z"
  source := ⟨"vendure", "order-1", "facts-1"⟩
  selection := ⟨.fullOrder, []⟩
  facts := ⟨true, true, true, 0, ⟨5000, "USD"⟩, "ORIGINAL_PAYMENT_METHOD"⟩

def decision (effect : PolicyEffect) : RefundPolicyDecision where
  decisionId := "decision-1"
  effect
  policyVersion := "refund-policy-v1"
  inputFactsHash := "sha256:facts"
  factRefs := []
  reasonCodes := []
  obligations := []
  missingFacts := []
  decidedAt := "2026-08-08T12:00:00.000Z"
  validUntil := "2026-08-08T12:15:00.000Z"

def preview : RefundPreview where
  previewId := "preview-1"
  createdAt := "2026-08-08T12:00:00.000Z"
  proposalId := "proposal-1"
  orderId := "order-1"
  selection := ⟨.fullOrder, []⟩
  requestedAmount := ⟨5000, "USD"⟩
  refundDestination := "ORIGINAL_PAYMENT_METHOD"
  policyVersion := "refund-policy-v1"
  decisionId := "decision-1"
  inputFactsHash := "sha256:facts"
  validUntil := "2026-08-08T12:15:00.000Z"

/-- A new run at noon. -/
def noon : Run := (Run.blank request "refund-1" ⟨true, true, true⟩ 1786190400000).start

def accepts : RunEvent :=
  .signal (.confirmRefund ⟨"preview-1", true, "2026-08-08T12:01:00.000Z"⟩)

/-- From the first refresh of the facts to the scheduled execution. -/
def executes : List RunEvent :=
  [.complete (.refundContext context), .complete (.decision (decision .allow)),
    .complete (.preview preview), .advance 60000, accepts, .resume, .complete .done,
    .complete (.refundContext context)]

theorem noon_starting : noon.StartingPatched := ⟨⟨_, _, _, _, rfl⟩, rfl, rfl⟩

end Sample

/-- The accepted refund is executed. -/
theorem accepted_refund_executed : ∃ run, workflow.Reachable Run.StartingPatched run ∧
    executions run.history = [run.refundInput Sample.preview] ∧
    ∀ later t input past,
      run.history = later ++ ⟨t, .scheduled (.executeRefund input)⟩ :: past →
        Authorised input.preview past := by
  obtain ⟨run, hrun, hexecuted⟩ : ∃ run, workflow.run Sample.noon Sample.executes = some run ∧
      executions run.history = [run.refundInput Sample.preview] :=
    Machine.exists_run (by decide +kernel)
  have hreachable : workflow.Reachable Run.StartingPatched run :=
    ⟨Sample.noon, Sample.executes, Sample.noon_starting, hrun⟩
  exact ⟨run, hreachable, hexecuted, (executed_once_when_authorised hreachable).2⟩

end CSO.Workers
