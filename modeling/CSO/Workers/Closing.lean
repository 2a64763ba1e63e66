import CSO.Workers.Cases

/-! A refund that has ended leaves no case open. -/
namespace CSO.Workers
open Transition (Machine Always dispatch_invariant)

/-! What a run knows of its case. -/

namespace Run

/-- Nobody has reviewed the refund yet. -/
structure Unreviewed (run : Run) : Prop where
  review : run.review = none
  humanDecision : run.humanDecision = none
  humanDecisions : humanDecisions run.history = []

/-- No case is open. -/
def CaseDone (run : Run) : Prop :=
  caseStatus run.history = some .unopened ∨ caseStatus run.history = some .closed

/-- The run is on its way to an approval. Evidence has an open case from its collection. -/
structure Approving (run : Run) (evidence : Option EvidenceSnapshot) : Prop where
  unreviewed : run.Unreviewed
  status : match acceptedEvidence evidence with
    | none => caseStatus run.history = some .unopened
    | some _ => caseStatus run.history = some .evidence ∧
        collectedCase run.history = evidence.map EvidenceSnapshot.caseId

/-- A monetary case is open. -/
structure Monetary (run : Run) (review : HumanReview) : Prop where
  status : caseStatus run.history = some .monetary
  opening : ∃ opening, monetaryCase run.history = some opening ∧
    opening.caseType = review.caseType

/-- A monetary case is before a human. -/
structure Reviewing (run : Run) (review : HumanReview) (caseId : String) : Prop where
  monetary : run.Monetary review
  installed : run.review = some review
  humanDecision : run.humanDecision = firstAdmissible review run.history
  returned : returnedCase run.history = some caseId

/-- Evidence is being collected. -/
structure InCollection (run : Run) (status : CaseStatus) : Prop where
  unreviewed : run.Unreviewed
  recovery : run.request.recovery = none
  status : caseStatus run.history = some status

end Run

/-- The effects that the review of evidence ends with. -/
def PolicyEffect.endsReview : PolicyEffect → Bool
  | .allow | .deny | .needsFacts => true
  | .approvalRequired | .takeoverRequired => false

def Control.Cased (run : Run) : Control → Prop
  | .refreshingContext =>
    (run.InCollection .unopened ∧ run.request.evidenceRecovery = none) ∨
    (run.InCollection .evidence ∧ ∃ recovery,
      run.request.evidenceRecovery = some recovery ∧ run.needsDamagePhoto recovery.decision)
  | .evaluatingPolicy _ => run.InCollection .unopened
  | .openingEvidence decision | .sleepingBeforePoll decision .. |
    .readingEvidence decision .. =>
    run.InCollection .evidence ∧ run.needsDamagePhoto decision
  | .refreshingReviewedContext evidence | .evaluatingReviewedPolicy evidence _ =>
    evidence.accepted.isSome ∧ run.Approving (some evidence)
  | .closingReviewedEvidence _ _ decision =>
    caseStatus run.history = some .closed ∧ decision.effect.endsReview = true
  | .creatingPreview .approval evidence _ => run.Approving evidence
  | .awaitingConfirmation offer _ | .observingConfirmation offer _ =>
    if offer.branch = .approval then run.Approving offer.evidence else run.CaseDone
  | .openingApproval _ => run.Unreviewed ∧ run.Monetary .approval
  | .awaitingApproval _ caseId => run.Reviewing .approval caseId
  | .openingTakeover .. => run.Unreviewed ∧ run.Monetary .takeover
  | .awaitingTakeover _ _ caseId => run.Reviewing .takeover caseId
  | .failed => True
  | _ => run.CaseDone

/-- Every activity of the case was in turn, and every close was right. -/
structure Run.Ledger (run : Run) : Prop where
  ordered : (caseStatus run.history).isSome
  rightly : Always ClosesRightly run.history

structure Run.Cased (run : Run) : Prop where
  ledger : run.Ledger
  control : run.control.Cased run

namespace Run
variable {run run' : Run}

theorem Approving.collection {evidence : EvidenceSnapshot} (h : run.InCollection .evidence)
    (hcase : collectedCase run.history = some evidence.caseId)
    (haccepted : evidence.accepted.isSome) : run.Approving (some evidence) := by
  obtain ⟨accepted, hsome⟩ := Option.isSome_iff_exists.mp haccepted
  refine ⟨h.unreviewed, ?_⟩
  rw [show acceptedEvidence (some evidence) = some accepted from hsome]
  exact ⟨h.status, hcase⟩

theorem CaseDone.cased (h : run.CaseDone) {control : Control} (hc : control.caseDone = true) :
    control.Cased run := by
  cases control with
  | creatingPreview branch evidence decision =>
    cases branch with
    | approval => cases hc
    | allow => exact h
    | exceptional => exact h
  | awaitingConfirmation offer due =>
    have hb : offer.branch ≠ .approval := bne_iff_ne.mp hc
    change if offer.branch = .approval then _ else _
    rwa [if_neg hb]
  | observingConfirmation offer confirmation =>
    have hb : offer.branch ≠ .approval := bne_iff_ne.mp hc
    change if offer.branch = .approval then _ else _
    rwa [if_neg hb]
  | failed => trivial
  | refreshingContext => cases hc
  | evaluatingPolicy => cases hc
  | openingEvidence => cases hc
  | sleepingBeforePoll => cases hc
  | readingEvidence => cases hc
  | refreshingReviewedContext => cases hc
  | evaluatingReviewedPolicy => cases hc
  | closingReviewedEvidence => cases hc
  | openingApproval => cases hc
  | awaitingApproval => cases hc
  | openingTakeover => cases hc
  | awaitingTakeover => cases hc
  | _ => exact h

/-- What touches no case keeps its ledger. -/
theorem Rests.ledger (h : run.Rests run') (hl : run.Ledger) :
    caseStatus run'.history = caseStatus run.history ∧ run'.Ledger := by
  obtain ⟨es, hes, hidle⟩ := h
  have hboth : caseStatus (es ++ run.history) = caseStatus run.history ∧
      Always ClosesRightly (es ++ run.history) := by
    clear hes
    induction es with
    | nil => exact ⟨rfl, hl.rightly⟩
    | cons e es ih =>
      obtain ⟨hstatus, halways⟩ := ih fun f hf => hidle f (List.mem_cons_of_mem e hf)
      have he := hidle e List.mem_cons_self
      exact ⟨(caseStatus_quiet he).trans hstatus, closesRightly_quiet he, halways⟩
  rw [← hes] at hboth
  exact ⟨hboth.1, by rw [hboth.1]; exact hl.ordered, hboth.2⟩

theorem Passes.cased (h : run.Passes run') (hl : run.Ledger) (hd : run.CaseDone) :
    run'.Cased := by
  obtain ⟨hstatus, hledger⟩ := h.rests.ledger hl
  have hdone : run'.CaseDone := by
    unfold CaseDone
    rwa [hstatus]
  exact ⟨hledger, hdone.cased h.done⟩

theorem Ledger.log {o : Occurrence} (h : run.Ledger) {status : CaseStatus}
    (hs : caseStatus (run.log o).history = some status)
    (hr : ClosesRightly ⟨run.now, o⟩ run.history) : (run.log o).Ledger :=
  ⟨Option.isSome_of_eq_some hs, hr, h.rightly⟩

/-! The clock and the signals. -/

theorem Unreviewed.handle {signal : Signal} (h : run.Unreviewed)
    (hs : run.handle signal = some run') : run'.Unreviewed := by
  obtain ⟨hreview, hdecision, hdecisions⟩ := h
  unfold Run.handle at hs
  cases signal with
  | confirmRefund received =>
    obtain ⟨-, -, rfl⟩ := Option.map_eq_some_iff.mp hs
    exact ⟨hreview, hdecision, (humanDecisions_cons).trans (by rw [hdecisions]; rfl)⟩
  | decideRefund received =>
    rw [hreview] at hs
    cases hs
  | recordProviderRefundOutcome received =>
    obtain ⟨-, -, rfl⟩ := Option.map_eq_some_iff.mp hs
    exact ⟨hreview, hdecision, (humanDecisions_cons).trans (by rw [hdecisions]; rfl)⟩

/-- A handled signal is no activity of a case. -/
theorem handled_case {signal : Signal} (hs : run.handle signal = some run') :
    caseStatus run'.history = caseStatus run.history ∧
      collectedCase run'.history = collectedCase run.history ∧
      monetaryCase run'.history = monetaryCase run.history ∧
      returnedCase run'.history = returnedCase run.history := by
  rw [handle_frame hs]
  exact ⟨caseStatus_quiet (by rintro activity ⟨⟩), rfl, rfl, rfl⟩

theorem InCollection.handle {signal : Signal} {status : CaseStatus} (h : run.InCollection status)
    (hs : run.handle signal = some run') : run'.InCollection status := by
  refine ⟨h.unreviewed.handle hs, ?_, (handled_case hs).1.trans h.status⟩
  rw [handle_frame hs]
  exact h.recovery

theorem CaseDone.handle {signal : Signal} (h : run.CaseDone)
    (hs : run.handle signal = some run') : run'.CaseDone := by
  unfold CaseDone
  rwa [(handled_case hs).1]

theorem Approving.handle {signal : Signal} {evidence : Option EvidenceSnapshot}
    (h : run.Approving evidence) (hs : run.handle signal = some run') :
    run'.Approving evidence := by
  obtain ⟨hunreviewed, hstatus⟩ := h
  obtain ⟨hsame, hcollected, -⟩ := handled_case hs
  refine ⟨hunreviewed.handle hs, ?_⟩
  rwa [hsame, hcollected]

theorem Monetary.handle {signal : Signal} {review : HumanReview} (h : run.Monetary review)
    (hs : run.handle signal = some run') : run'.Monetary review := by
  obtain ⟨hsame, -, hmonetary, -⟩ := handled_case hs
  exact ⟨hsame.trans h.status, hmonetary ▸ h.opening⟩

theorem Reviewing.handle {signal : Signal} {review : HumanReview} {caseId : String}
    (h : run.Reviewing review caseId) (hs : run.handle signal = some run') :
    run'.Reviewing review caseId := by
  refine ⟨h.monetary.handle hs, ?_, ?_, (handled_case hs).2.2.2.trans h.returned⟩
  · rw [handle_frame hs]
    exact h.installed
  · unfold Run.handle at hs
    cases signal with
    | confirmRefund received =>
      obtain ⟨-, -, rfl⟩ := Option.map_eq_some_iff.mp hs
      refine h.humanDecision.trans (Eq.symm (firstAdmissible_cons.trans ?_))
      exact Option.or_none
    | decideRefund received =>
      rw [h.installed] at hs
      cases hs
      refine Eq.trans ?_ (Eq.symm firstAdmissible_cons)
      change run.humanDecision.or _ = _
      rw [h.humanDecision]
      cases hadmits : review.admits received <;> simp [Occurrence.humanDecision, hadmits]
    | recordProviderRefundOutcome received =>
      obtain ⟨-, -, rfl⟩ := Option.map_eq_some_iff.mp hs
      refine h.humanDecision.trans (Eq.symm (firstAdmissible_cons.trans ?_))
      exact Option.or_none

theorem Cased.handle_control {control : Control} {signal : Signal} (h : control.Cased run)
    (hs : run.handle signal = some run') : control.Cased run' := by
  have hrequest : run'.request = run.request := by rw [handle_frame hs]
  have hphoto : ∀ decision, run.needsDamagePhoto decision → run'.needsDamagePhoto decision := by
    intro decision hd
    unfold needsDamagePhoto
    rwa [hrequest]
  cases control with
  | refreshingContext =>
    rcases h with ⟨hfresh, hnone⟩ | ⟨hcollecting, recovery, hrecovery, hd⟩
    · exact .inl ⟨hfresh.handle hs, hrequest ▸ hnone⟩
    · exact .inr ⟨hcollecting.handle hs, recovery, hrequest ▸ hrecovery, hphoto _ hd⟩
  | evaluatingPolicy => exact InCollection.handle h hs
  | openingEvidence => exact ⟨h.1.handle hs, hphoto _ h.2⟩
  | sleepingBeforePoll => exact ⟨h.1.handle hs, hphoto _ h.2⟩
  | readingEvidence => exact ⟨h.1.handle hs, hphoto _ h.2⟩
  | refreshingReviewedContext => exact ⟨h.1, h.2.handle hs⟩
  | evaluatingReviewedPolicy => exact ⟨h.1, h.2.handle hs⟩
  | closingReviewedEvidence => exact ⟨(handled_case hs).1.trans h.1, h.2⟩
  | creatingPreview branch =>
    cases branch with
    | approval => exact Approving.handle h hs
    | allow => exact CaseDone.handle h hs
    | exceptional => exact CaseDone.handle h hs
  | awaitingConfirmation offer due =>
    by_cases hb : offer.branch = .approval
    · simp only [Control.Cased, hb, if_true] at h ⊢
      exact h.handle hs
    · simp only [Control.Cased, hb, if_false] at h ⊢
      exact h.handle hs
  | observingConfirmation offer confirmation =>
    by_cases hb : offer.branch = .approval
    · simp only [Control.Cased, hb, if_true] at h ⊢
      exact h.handle hs
    · simp only [Control.Cased, hb, if_false] at h ⊢
      exact h.handle hs
  | openingApproval => exact ⟨h.1.handle hs, h.2.handle hs⟩
  | openingTakeover => exact ⟨h.1.handle hs, h.2.handle hs⟩
  | awaitingApproval => exact Reviewing.handle h hs
  | awaitingTakeover => exact Reviewing.handle h hs
  | failed => trivial
  | _ => exact CaseDone.handle h hs

theorem Ledger.handle {signal : Signal} (h : run.Ledger) (hs : run.handle signal = some run') :
    run'.Ledger := by
  have hr : run.Rests run' := by
    refine .of_cons (e := ⟨run.now, .handled signal⟩) (by rw [handle_frame hs]) ?_
    intro activity hactivity
    cases hactivity
  exact (hr.ledger h).2

theorem Cased.handle {signal : Signal} (h : run.Cased) (hs : run.handle signal = some run') :
    run'.Cased := by
  have hcontrol : run'.control = run.control := by rw [handle_frame hs]
  refine ⟨h.ledger.handle hs, ?_⟩
  rw [hcontrol]
  exact Cased.handle_control h.control hs

/-- Neither the clock, the state of the refund, its waits nor the buffer matter. -/
theorem Cased.control_of_eq {control : Control} (h : control.Cased run)
    (hrequest : run'.request = run.request) (hreview : run'.review = run.review)
    (hdecision : run'.humanDecision = run.humanDecision) (hhistory : run'.history = run.history) :
    control.Cased run' := by
  obtain ⟨request, workflowId, patches, now, control', state, wait, review, humanDecision,
    outcomeWait, buffered, history⟩ := run
  obtain ⟨request', workflowId', patches', now', control'', state', wait', review',
    humanDecision', outcomeWait', buffered', history'⟩ := run'
  cases hrequest
  cases hreview
  cases hdecision
  cases hhistory
  have hcollection : ∀ status, InCollection ⟨request, workflowId, patches, now, control', state,
      wait, review, humanDecision, outcomeWait, buffered, history⟩ status →
      InCollection ⟨request, workflowId', patches', now', control'', state', wait', review,
        humanDecision, outcomeWait', buffered', history⟩ status :=
    fun _ h => ⟨⟨h.1.1, h.1.2, h.1.3⟩, h.2, h.3⟩
  have happroving : ∀ evidence, Approving ⟨request, workflowId, patches, now, control', state,
      wait, review, humanDecision, outcomeWait, buffered, history⟩ evidence →
      Approving ⟨request, workflowId', patches', now', control'', state', wait', review,
        humanDecision, outcomeWait', buffered', history⟩ evidence :=
    fun _ h => ⟨⟨h.1.1, h.1.2, h.1.3⟩, h.2⟩
  cases control with
  | refreshingContext => exact h.imp (.imp_left (hcollection _)) (.imp_left (hcollection _))
  | evaluatingPolicy => exact hcollection _ h
  | openingEvidence => exact ⟨hcollection _ h.1, h.2⟩
  | sleepingBeforePoll => exact ⟨hcollection _ h.1, h.2⟩
  | readingEvidence => exact ⟨hcollection _ h.1, h.2⟩
  | refreshingReviewedContext => exact ⟨h.1, happroving _ h.2⟩
  | evaluatingReviewedPolicy => exact ⟨h.1, happroving _ h.2⟩
  | creatingPreview branch =>
    cases branch with
    | approval => exact happroving _ h
    | allow => exact h
    | exceptional => exact h
  | awaitingConfirmation offer due =>
    by_cases hb : offer.branch = .approval
    · simp only [Control.Cased, hb, if_true] at h ⊢
      exact happroving _ h
    · simp only [Control.Cased, hb, if_false] at h ⊢
      exact h
  | observingConfirmation offer confirmation =>
    by_cases hb : offer.branch = .approval
    · simp only [Control.Cased, hb, if_true] at h ⊢
      exact happroving _ h
    · simp only [Control.Cased, hb, if_false] at h ⊢
      exact h
  | openingApproval => exact ⟨⟨h.1.1, h.1.2, h.1.3⟩, ⟨h.2.1, h.2.2⟩⟩
  | openingTakeover => exact ⟨⟨h.1.1, h.1.2, h.1.3⟩, ⟨h.2.1, h.2.2⟩⟩
  | awaitingApproval => exact ⟨⟨h.1.1, h.1.2⟩, h.2, h.3, h.4⟩
  | awaitingTakeover => exact ⟨⟨h.1.1, h.1.2⟩, h.2, h.3, h.4⟩
  | _ => exact h

/-! The steps up to the close of the case. -/

theorem Ledger.schedule {activity : Activity} {control : Control} {before status : CaseStatus}
    (h : run.Ledger) (hbefore : caseStatus run.history = some before)
    (hafter : before.after activity = some status)
    (hr : ClosesRightly ⟨run.now, .scheduled activity⟩ run.history)
    (hc : caseStatus (run.schedule activity control).history = some status →
      control.Cased (run.schedule activity control)) : (run.schedule activity control).Cased := by
  have hstatus : caseStatus (run.schedule activity control).history = some status := by
    refine caseStatus_cons.trans ?_
    simp only [Occurrence.activity, hbefore, Option.bind_some, hafter]
  exact ⟨⟨Option.isSome_of_eq_some hstatus, hr, h.rightly⟩, hc hstatus⟩

/-- An activity that is none of a case. -/
theorem Ledger.rest {activity : Activity} {control : Control} (h : run.Ledger)
    (hi : activity.Idle) (hc : control.Cased (run.schedule activity control)) :
    (run.schedule activity control).Cased := by
  have hr : run.Rests (run.schedule activity control) := by
    refine .of_cons rfl ?_
    intro scheduled heq
    cases heq
    exact hi
  exact ⟨(hr.ledger h).2, hc⟩

theorem Unreviewed.log {o : Occurrence} (h : run.Unreviewed) (ho : o.humanDecision = none) :
    (run.log o).Unreviewed := by
  refine ⟨h.review, h.humanDecision, humanDecisions_cons.trans ?_⟩
  rw [h.humanDecisions, ho]
  rfl

theorem Unreviewed.schedule {activity : Activity} {control : Control} (h : run.Unreviewed) :
    (run.schedule activity control).Unreviewed := by
  have hl : (run.log (.scheduled activity)).Unreviewed := h.log rfl
  exact ⟨hl.review, hl.humanDecision, hl.humanDecisions⟩

theorem caseStatus_completed {result : ActivityResult} :
    caseStatus (run.log (.completed result)).history = caseStatus run.history := rfl

theorem Ledger.completed {result : ActivityResult} (h : run.Ledger) :
    (run.log (.completed result)).Ledger := ⟨h.ordered, trivial, h.rightly⟩

theorem Approving.unopened (h : run.Approving none) :
    caseStatus run.history = some .unopened := h.status

theorem approving_none (hunreviewed : run.Unreviewed)
    (hstatus : caseStatus run.history = some .unopened) : run.Approving none :=
  ⟨hunreviewed, hstatus⟩

/-- A monetary case is opened, or evidence moves on to one. -/
theorem Approving.openMonetaryCase {evidence : Option EvidenceSnapshot}
    {input : OpenHumanCaseInput} {control : Control} {review : HumanReview}
    (h : run.Approving evidence) (hl : run.Ledger) (htype : input.caseType = review.caseType)
    (hc : ∀ r : Run, r.Unreviewed → r.Monetary review → control.Cased r) :
    (run.openMonetaryCase evidence input control).Cased := by
  have hstatus := h.status
  unfold Run.openMonetaryCase
  cases haccepted : acceptedEvidence evidence with
  | none =>
    rw [haccepted] at hstatus
    refine hl.schedule hstatus rfl trivial fun hmonetary => ?_
    exact hc _ h.unreviewed.schedule ⟨hmonetary, input, rfl, htype⟩
  | some accepted =>
    rw [haccepted] at hstatus
    refine hl.schedule hstatus.1 rfl trivial fun hmonetary => ?_
    exact hc _ h.unreviewed.schedule ⟨hmonetary, input, rfl, htype⟩

theorem Approving.declineOffer {offer : Offer} (h : run.Approving offer.evidence)
    (hl : run.Ledger) (hb : offer.branch = .approval) (refusal : Refusal) :
    (run.declineOffer offer refusal).Cased := by
  have hstatus := h.status
  unfold Run.declineOffer
  rw [hb]
  cases hevidence : offer.evidence with
  | none =>
    rw [hevidence] at hstatus
    exact passes_finish.cased hl (.inl hstatus)
  | some evidence =>
    rw [hevidence] at hstatus
    simp only
    cases haccepted : evidence.accepted with
    | none =>
      rw [show acceptedEvidence (some evidence) = none from haccepted] at hstatus
      rw [if_neg (by simp)]
      exact passes_finish.cased hl (.inl hstatus)
    | some accepted =>
      rw [show acceptedEvidence (some evidence) = some accepted from haccepted] at hstatus
      rw [if_pos Option.isSome_some]
      exact hl.schedule hstatus.1 rfl hstatus.2 fun hclosed => .inr hclosed

theorem Approving.afterObservation {offer : Offer} {confirmation : RefundCustomerConfirmation}
    (h : run.Approving offer.evidence) (hl : run.Ledger) (hb : offer.branch = .approval) :
    (run.afterObservation offer confirmation).Cased := by
  unfold Run.afterObservation
  split_ifs
  · rw [hb]
    exact h.openMonetaryCase hl rfl fun r hr hmonetary => ⟨hr, hmonetary⟩
  · exact h.declineOffer hl hb _

theorem caseStatus_idle {activity : Activity} {control : Control} (hi : activity.Idle) :
    caseStatus (run.schedule activity control).history = caseStatus run.history := by
  refine caseStatus_quiet ?_
  intro scheduled heq
  cases heq
  exact hi

theorem Approving.schedule {evidence : Option EvidenceSnapshot} {activity : Activity}
    {control : Control} (h : run.Approving evidence) (hi : activity.Idle) :
    (run.schedule activity control).Approving evidence := by
  refine ⟨h.unreviewed.schedule, ?_⟩
  rw [caseStatus_idle hi]
  exact h.status

theorem Approving.afterConfirmation {offer : Offer}
    {confirmation : Option RefundCustomerConfirmation} (h : run.Approving offer.evidence)
    (hl : run.Ledger) (hb : offer.branch = .approval) :
    (run.afterConfirmation offer confirmation).Cased := by
  cases confirmation with
  | none => exact h.declineOffer hl hb _
  | some c =>
    unfold Run.afterConfirmation Run.observeRefundConfirmation
    split_ifs
    · refine hl.rest ⟨rfl, rfl, rfl⟩ ?_
      simp only [Control.Cased, hb, if_true]
      exact h.schedule ⟨rfl, rfl, rfl⟩
    · exact h.afterObservation hl hb

theorem Approving.awaitConfirmation {offer : Offer} {wait : ConfirmationWait}
    (h : run.Approving offer.evidence) (hl : run.Ledger) (hb : offer.branch = .approval) :
    (run.awaitConfirmation offer wait).Cased := by
  unfold Run.awaitConfirmation
  split_ifs
  · split
    · rename_i deadline _
      split_ifs
      · exact h.afterConfirmation hl hb
      · have hslept : (run.log (.timerStarted (deadline - run.now))).Unreviewed :=
          h.unreviewed.log rfl
        refine ⟨⟨hl.ordered, trivial, hl.rightly⟩, ?_⟩
        simp only [Control.Cased, Run.sleep, hb, if_true]
        exact ⟨⟨hslept.review, hslept.humanDecision, hslept.humanDecisions⟩, h.status⟩
    · exact h.afterConfirmation hl hb
  · refine ⟨⟨hl.ordered, hl.rightly⟩, ?_⟩
    simp only [Control.Cased, hb, if_true]
    exact ⟨⟨h.unreviewed.review, h.unreviewed.humanDecision, h.unreviewed.humanDecisions⟩,
      h.status⟩
  · exact h.afterConfirmation hl hb

theorem Approving.offerPreview {evidence : Option EvidenceSnapshot}
    {decision : RefundPolicyDecision} {preview : RefundPreview}
    (h : run.Approving evidence) (hl : run.Ledger) :
    (run.offerPreview .approval evidence decision preview).Cased := by
  let offered : Run := run.setState
    { stage := .awaitingCustomerConfirmation, decision := some decision, preview := some preview }
  let waiting : Run := { offered with confirmationWait := some ⟨preview, none, false⟩ }
  have hw : waiting.dispatchBuffered.Approving evidence ∧ waiting.dispatchBuffered.Ledger := by
    refine dispatchBuffered_invariant (I := fun r => r.Approving evidence ∧ r.Ledger) ?_ ?_ ?_
    · exact fun r signal t hr ht => ⟨hr.1.handle ht, hr.2.handle ht⟩
    · exact fun r buffered hr => ⟨⟨⟨hr.1.1.1, hr.1.1.2, hr.1.1.3⟩, hr.1.2⟩, hr.2.1, hr.2.2⟩
    · exact ⟨⟨⟨h.1.1, h.1.2, h.1.3⟩, h.2⟩, hl.1, hl.2⟩
  let offer : Offer := ⟨.approval, evidence, decision, preview⟩
  have hoffer : waiting.dispatchBuffered.Approving offer.evidence := hw.1
  exact hoffer.awaitConfirmation hw.2 rfl

/-! The review, and the collection. -/

theorem Unreviewed.firstAdmissible (h : run.Unreviewed) (review : HumanReview) :
    firstAdmissible review run.history = none := by
  unfold CSO.Workers.firstAdmissible
  rw [h.humanDecisions]
  rfl

/-- The handler is installed once the case is open. -/
theorem Monetary.installReview {review : HumanReview} {caseId : String} {control : Control}
    (h : run.Monetary review) (hu : run.Unreviewed) (hl : run.Ledger)
    (hreturned : returnedCase run.history = some caseId)
    (hc : ∀ r : Run, r.Reviewing review caseId → control.Cased r) :
    (run.installReview review control).Cased := by
  let installed : Run := { run with review := some review }
  have hi : installed.dispatchBuffered.Reviewing review caseId ∧
      installed.dispatchBuffered.Ledger := by
    refine dispatchBuffered_invariant (I := fun r => r.Reviewing review caseId ∧ r.Ledger) ?_ ?_ ?_
    · exact fun r signal t hr ht => ⟨hr.1.handle ht, hr.2.handle ht⟩
    · exact fun r buffered hr => ⟨⟨⟨hr.1.1.1, hr.1.1.2⟩, hr.1.2, hr.1.3, hr.1.4⟩, hr.2.1, hr.2.2⟩
    · refine ⟨⟨⟨h.status, h.opening⟩, rfl, ?_, hreturned⟩, hl.ordered, hl.rightly⟩
      exact hu.humanDecision.trans (hu.firstAdmissible review).symm
  refine ⟨⟨hi.2.ordered, hi.2.rightly⟩, hc _ ?_⟩
  exact ⟨⟨hi.1.monetary.status, hi.1.monetary.opening⟩, hi.1.installed, hi.1.humanDecision,
    hi.1.returned⟩

/-- The decision that ends a review closes the case with the outcome it determines. -/
theorem Reviewing.closeCase {review : HumanReview} {caseId : String}
    {humanDecision : RefundHumanDecision} {outcome : CloseOutcome} {control : Control}
    (h : run.Reviewing review caseId) (hl : run.Ledger)
    (hd : run.humanDecision = some humanDecision) (ho : outcome = review.outcome humanDecision)
    (hc : control.caseDone = true) :
    (run.closeCase caseId humanDecision outcome control).Cased := by
  obtain ⟨opening, hopening, htype⟩ := h.monetary.opening
  refine hl.schedule h.monetary.status rfl ?_ fun hclosed => CaseDone.cased (.inr hclosed) hc
  exact ⟨review, opening, humanDecision, hopening, htype, h.humanDecision.symm.trans hd,
    h.returned, rfl, ho⟩

theorem selectBranch_cased {evidence : Option EvidenceSnapshot} {refundContext : RefundContext}
    {decision : RefundPolicyDecision} (hl : run.Ledger)
    (hreview : decision.effect.endsReview = false → run.Approving evidence)
    (hdone : decision.effect.endsReview = true → run.CaseDone) :
    (run.selectBranch evidence refundContext decision).Cased := by
  have hlogged : (run.log (.selected decision.effect)).Ledger :=
    ⟨hl.ordered, trivial, hl.rightly⟩
  have happroving : decision.effect.endsReview = false →
      (run.log (.selected decision.effect)).Approving evidence :=
    fun he => ⟨(hreview he).unreviewed.log rfl, (hreview he).status⟩
  unfold Run.selectBranch
  cases heffect : decision.effect with
  | needsFacts =>
    rw [heffect] at hlogged hdone
    exact passes_finish.cased hlogged (hdone rfl)
  | deny =>
    rw [heffect] at hlogged hdone
    exact passes_finish.cased hlogged (hdone rfl)
  | approvalRequired =>
    rw [heffect] at hlogged happroving
    refine hlogged.rest ⟨rfl, rfl, rfl⟩ ?_
    exact (happroving rfl).schedule ⟨rfl, rfl, rfl⟩
  | takeoverRequired =>
    rw [heffect] at hlogged happroving
    exact (happroving rfl).openMonetaryCase hlogged rfl fun r hr hmonetary => ⟨hr, hmonetary⟩
  | allow =>
    rw [heffect] at hlogged hdone
    refine (passes_schedule ⟨rfl, rfl, rfl⟩ rfl).cased hlogged (hdone rfl)

theorem InCollection.schedule {activity : Activity} {control : Control}
    {status before : CaseStatus} (h : run.InCollection before)
    (hs : caseStatus (run.schedule activity control).history = some status) :
    (run.schedule activity control).InCollection status :=
  ⟨h.unreviewed.schedule, h.recovery, hs⟩

theorem afterPolicy_cased {refundContext : RefundContext} {decision : RefundPolicyDecision}
    {status : CaseStatus} (hl : run.Ledger) (h : run.InCollection status)
    (hs : status = .unopened ∨ (status = .evidence ∧ run.needsDamagePhoto decision)) :
    (run.afterPolicy refundContext decision).Cased := by
  unfold Run.afterPolicy
  split_ifs with hphoto
  · have hafter : ∀ input, status.after (.openRefundEvidence input) = some .evidence := by
      rcases hs with rfl | ⟨rfl, -⟩
      · exact fun _ => rfl
      · exact fun _ => rfl
    exact hl.schedule h.status (hafter _) trivial fun hevidence => ⟨h.schedule hevidence, hphoto⟩
  · rcases hs with rfl | ⟨-, hneeds⟩
    · exact selectBranch_cased hl (fun _ => approving_none h.unreviewed h.status)
        (fun _ => .inl h.status)
    · exact absurd hneeds hphoto

theorem awaitEvidence_cased {evidence : EvidenceSnapshot} {decision : RefundPolicyDecision}
    {deadline : ℤ} {polls : ℕ} (hl : run.Ledger) (h : run.InCollection .evidence)
    (hphoto : run.needsDamagePhoto decision)
    (hcase : collectedCase run.history = some evidence.caseId) :
    (run.awaitEvidence evidence decision deadline polls).Cased := by
  have hclose : (run.closeExpiredEvidence evidence.caseId decision).Cased :=
    hl.schedule h.status rfl hcase fun hclosed => .inr hclosed
  unfold Run.awaitEvidence
  split
  · split_ifs
    · exact hclose
    · let told : Run := run.setState { stage := evidenceStage evidence, decision := some decision }
      let slept := told.log (.timerStarted (min evidencePollInterval (deadline - run.now)))
      have hslept : slept.Unreviewed :=
        Unreviewed.log ⟨h.unreviewed.1, h.unreviewed.2, h.unreviewed.3⟩ rfl
      exact ⟨⟨hl.ordered, trivial, hl.rightly⟩,
        ⟨⟨hslept.1, hslept.2, hslept.3⟩, h.recovery, h.status⟩, hphoto⟩
  · rename_i accepted haccepted
    split_ifs
    · exact hclose
    · refine hl.rest ⟨rfl, rfl, rfl⟩ ⟨Option.isSome_of_eq_some haccepted, ?_⟩
      exact (Approving.collection h hcase (Option.isSome_of_eq_some haccepted)).schedule
        ⟨rfl, rfl, rfl⟩

theorem continueAsNew_cased {request : RefundWorkflowRequest} {recovery : EvidenceRecovery}
    (hl : run.Ledger) (h : run.InCollection .evidence) (hnone : request.recovery = none)
    (hrecovery : request.evidenceRecovery = some recovery)
    (hphoto : request.policyVersion = "refund-policy-v2" ∧ recovery.decision.effect = .needsFacts ∧
      recovery.decision.missingFacts = [.damagePhoto]) : (run.continueAsNew request).Cased := by
  let next : Run := { run.log (.continuedAsNew request) with
    request
    state := { stage := .evaluating }
    confirmationWait := none
    review := none
    humanDecision := none
    outcomeWait := none
    buffered := [] }
  have hlog : (run.log (.continuedAsNew request)).Unreviewed := h.unreviewed.log rfl
  have hnext : next.InCollection .evidence := ⟨⟨rfl, rfl, hlog.humanDecisions⟩, hnone, h.status⟩
  have hledger : next.Ledger := ⟨hl.ordered, trivial, hl.rightly⟩
  have hstart : (run.continueAsNew request) =
      next.schedule (.refreshRefundContext next.refreshInput) .refreshingContext := by
    unfold Run.continueAsNew Run.start
    simp only
    rw [hnone]
    rfl
  rw [hstart]
  refine hledger.rest ⟨rfl, rfl, rfl⟩ (.inr ⟨hnext.schedule ?_, recovery, hrecovery, hphoto⟩)
  exact (caseStatus_idle ⟨rfl, rfl, rfl⟩).trans h.status

/-! The steps of a run. -/

theorem InCollection.completed {result : ActivityResult} {status : CaseStatus}
    (h : run.InCollection status) : (run.log (.completed result)).InCollection status :=
  ⟨h.unreviewed.log rfl, h.recovery, h.status⟩

theorem Approving.completed {result : ActivityResult} {evidence : Option EvidenceSnapshot}
    (h : run.Approving evidence) (hr : (Occurrence.completed result).snapshot = none) :
    (run.log (.completed result)).Approving evidence := by
  have hcollected : collectedCase (run.log (.completed result)).history =
      collectedCase run.history := by
    unfold collectedCase
    change ((_ :: run.history).findSome? _).map _ = _
    rw [List.findSome?_cons_of_isNone (by simp [hr])]
  refine ⟨h.unreviewed.log rfl, ?_⟩
  rw [caseStatus_completed, hcollected]
  exact h.status

/-- Where no case is left to close, none is open. -/
theorem Cased.caseDone {control : Control} (h : control.Cased run)
    (hc : control.caseDone = true) (hopen : control.closed = false) : run.CaseDone := by
  cases control with
  | creatingPreview branch evidence decision =>
    cases branch with
    | approval => cases hc
    | allow => exact h
    | exceptional => exact h
  | awaitingConfirmation offer due =>
    have hb : offer.branch ≠ .approval := bne_iff_ne.mp hc
    simpa only [Control.Cased, hb, if_false] using h
  | observingConfirmation offer confirmation =>
    have hb : offer.branch ≠ .approval := bne_iff_ne.mp hc
    simpa only [Control.Cased, hb, if_false] using h
  | finished => cases hopen
  | failed => cases hopen
  | refreshingContext => cases hc
  | evaluatingPolicy => cases hc
  | openingEvidence => cases hc
  | sleepingBeforePoll => cases hc
  | readingEvidence => cases hc
  | refreshingReviewedContext => cases hc
  | evaluatingReviewedPolicy => cases hc
  | closingReviewedEvidence => cases hc
  | openingApproval => cases hc
  | awaitingApproval => cases hc
  | openingTakeover => cases hc
  | awaitingTakeover => cases hc
  | _ => exact h

theorem Cased.returns {result : ActivityResult} (h : run.Cased)
    (hr : (run.log (.completed result)).Returns run.control result run') : run'.Cased := by
  have hl : (run.log (.completed result)).Ledger := h.ledger.completed
  have hcontrol := h.control
  generalize run.control = control at hr hcontrol
  by_cases hdone : control.caseDone = true
  · have hcase : run.CaseDone := Cased.caseDone hcontrol hdone hr.open
    exact (hr.passes hdone).cased hl hcase
  · cases hr with
    | refreshingContext refundContext =>
      unfold Run.afterContext
      rcases hcontrol with ⟨hfresh, hnone⟩ | ⟨hcollecting, recovery, hrecovery, hphoto⟩
      · rw [show (run.log _).request.evidenceRecovery = none from hnone]
        refine hl.rest ⟨rfl, rfl, rfl⟩ ?_
        have hc : (run.log (.completed (.refundContext refundContext))).InCollection .unopened :=
          hfresh.completed
        exact hc.schedule ((caseStatus_idle ⟨rfl, rfl, rfl⟩).trans hc.status)
      · rw [show (run.log _).request.evidenceRecovery = some recovery from hrecovery]
        exact afterPolicy_cased hl hcollecting.completed (.inr ⟨rfl, hphoto⟩)
    | evaluatingPolicy =>
      exact afterPolicy_cased hl (InCollection.completed hcontrol) (.inl rfl)
    | openingEvidence decision evidence =>
      exact awaitEvidence_cased hl hcontrol.1.completed hcontrol.2 rfl
    | readingEvidence decision deadline polls evidence =>
      unfold Run.afterEvidenceRead
      split_ifs
      · exact continueAsNew_cased hl hcontrol.1.completed hcontrol.1.recovery rfl hcontrol.2
      · exact awaitEvidence_cased hl hcontrol.1.completed hcontrol.2 rfl
    | refreshingReviewedContext evidence refundContext =>
      refine hl.rest ⟨rfl, rfl, rfl⟩ ⟨hcontrol.1, ?_⟩
      exact (hcontrol.2.completed rfl).schedule ⟨rfl, rfl, rfl⟩
    | evaluatingReviewedPolicy evidence refundContext decision =>
      have happroving : (run.log (.completed (.decision decision))).Approving (some evidence) :=
        hcontrol.2.completed rfl
      obtain ⟨accepted, haccepted⟩ := Option.isSome_iff_exists.mp hcontrol.1
      have hstatus := happroving.status
      rw [show acceptedEvidence (some evidence) = some accepted from haccepted] at hstatus
      unfold Run.afterReviewedPolicy
      cases heffect : decision.effect with
      | approvalRequired =>
        exact selectBranch_cased hl (fun _ => happroving) (fun he => by rw [heffect] at he; cases he)
      | takeoverRequired =>
        exact selectBranch_cased hl (fun _ => happroving) (fun he => by rw [heffect] at he; cases he)
      | _ =>
        refine hl.schedule hstatus.1 rfl hstatus.2 fun hclosed => ⟨hclosed, ?_⟩
        rw [heffect]
        rfl
    | closingReviewedEvidence evidence refundContext decision =>
      refine selectBranch_cased hl (fun he => ?_) (fun _ => .inr hcontrol.1)
      rw [hcontrol.2] at he
      cases he
    | creatingPreview branch evidence decision preview =>
      cases branch with
      | approval => exact (Approving.completed hcontrol rfl).offerPreview hl
      | allow => exact absurd rfl hdone
      | exceptional => exact absurd rfl hdone
    | observingConfirmation offer confirmation =>
      have hb : offer.branch = .approval := by simpa [Control.caseDone] using hdone
      simp only [Control.Cased, hb, if_true] at hcontrol
      exact (hcontrol.completed rfl).afterObservation hl hb
    | openingApproval offer caseId =>
      let told := (run.log (.completed (.humanCase caseId))).setState
        { stage := .awaitingApproval, decision := some offer.decision,
          preview := some offer.preview }
      have hm : told.Monetary .approval := ⟨hcontrol.2.status, hcontrol.2.opening⟩
      have hlogged : (run.log (.completed (.humanCase caseId))).Unreviewed := hcontrol.1.log rfl
      have hu : told.Unreviewed := ⟨hlogged.1, hlogged.2, hlogged.3⟩
      exact hm.installReview hu ⟨hl.ordered, hl.rightly⟩ rfl fun _ hr => hr
    | openingTakeover evidence decision caseId =>
      let told := (run.log (.completed (.humanCase caseId))).setState
        { stage := .humanTakeoverRequired, decision := some decision }
      have hm : told.Monetary .takeover := ⟨hcontrol.2.status, hcontrol.2.opening⟩
      have hlogged : (run.log (.completed (.humanCase caseId))).Unreviewed := hcontrol.1.log rfl
      have hu : told.Unreviewed := ⟨hlogged.1, hlogged.2, hlogged.3⟩
      exact hm.installReview hu ⟨hl.ordered, hl.rightly⟩ rfl fun _ hr => hr
    | _ => exact absurd rfl hdone

theorem Cased.wakes (h : run.Cased) (hw : run.Wakes run.control run') : run'.Cased := by
  have hl := h.ledger
  have hcontrol := h.control
  generalize run.control = control at hw hcontrol
  by_cases hdone : control.caseDone = true
  · exact (hw.passes hdone).cased hl (Cased.caseDone hcontrol hdone hw.open)
  · cases hw with
    | sleptBeforePoll decision deadline polls due hdue =>
      refine hl.rest ⟨rfl, rfl, rfl⟩ ⟨?_, hcontrol.2⟩
      exact hcontrol.1.schedule ((caseStatus_idle ⟨rfl, rfl, rfl⟩).trans hcontrol.1.status)
    | confirmation offer due =>
      have hb : offer.branch = .approval := by simpa [Control.caseDone] using hdone
      simp only [Control.Cased, hb, if_true] at hcontrol
      exact hcontrol.afterConfirmation hl hb
    | approvalDecided offer caseId humanDecision hd =>
      exact Reviewing.closeCase hcontrol hl hd rfl rfl
    | takeoverDecided evidence decision caseId humanDecision hd =>
      exact Reviewing.closeCase hcontrol hl hd rfl rfl
    | _ => exact absurd rfl hdone

theorem cased_step (run : Run) (e : RunEvent) (run' : Run) (h : run.Cased)
    (hs : workflow.step run e = some run') : run'.Cased := by
  obtain ⟨⟨hordered, hrightly⟩, hcontrol⟩ := h
  refine workflow_step_cases ?_ (fun _ _ => Cased.handle ⟨⟨hordered, hrightly⟩, hcontrol⟩) ?_ ?_
    (fun _ _ _ => Cased.returns ⟨⟨hordered, hrightly⟩, hcontrol⟩)
    (fun _ => Cased.wakes ⟨⟨hordered, hrightly⟩, hcontrol⟩) hs
  · exact fun _ => ⟨⟨hordered, hrightly⟩, Cased.control_of_eq hcontrol rfl rfl rfl rfl⟩
  · exact fun _ => ⟨⟨hordered, hrightly⟩, Cased.control_of_eq hcontrol rfl rfl rfl rfl⟩
  · exact ⟨⟨hordered, hrightly⟩, trivial⟩

theorem cased_starting (h : run.StartingChain) : run.Cased := by
  obtain ⟨⟨request, workflowId, patches, now, rfl⟩, hnone⟩ := h
  rw [Run.start_request] at hnone
  let blank := Run.blank request workflowId patches now
  have hl : blank.Ledger := ⟨rfl, trivial⟩
  change blank.start.Cased
  unfold Run.start
  split
  · rename_i recovery _
    have hs : blank.Rests (blank.setState (processingState recovery.decision recovery.preview none
        .pendingReconciliation)) := .of_eq rfl
    exact (hs.passes passes_reconcilePendingRefund).cased hl (.inl rfl)
  · rename_i hrecovery
    have hc : blank.InCollection .unopened := ⟨⟨rfl, rfl, rfl⟩, hrecovery, rfl⟩
    have hs : (blank.setState { stage := .evaluating }).Ledger := ⟨hl.ordered, hl.rightly⟩
    exact hs.rest ⟨rfl, rfl, rfl⟩ (.inl ⟨hc.schedule rfl, hnone⟩)

theorem cased_reachable (h : workflow.Reachable StartingChain run) : run.Cased :=
  h.invariant (fun _ => cased_starting) cased_step

end Run

/-- A run that has ended has closed the case it opened exactly once. Evidence is closed only
while it is no monetary case, and a monetary case only as the first admissible decision on it
determines. -/
theorem finished_leaves_no_case {run : Run} (h : workflow.Reachable Run.StartingChain run) :
    (run.control = .finished →
      (Opened run.history → closings run.history = 1) ∧
      (¬Opened run.history → closings run.history = 0)) ∧
    (∀ later t access caseId outcome past, run.history =
        later ++ ⟨t, .scheduled (.closeRefundEvidence access caseId outcome)⟩ :: past →
      Opened past ∧ closings past = 0 ∧ monetaryCase past = none ∧
        collectedCase past = some caseId) ∧
    (∀ later t input past, run.history = later ++ ⟨t, .scheduled (.closeHumanCase input)⟩ :: past →
      Opened past ∧ closings past = 0 ∧ Determined input past) := by
  obtain ⟨⟨hordered, hrightly⟩, hcontrol⟩ := Run.cased_reachable h
  have hbefore : ∀ later t activity past,
      run.history = later ++ ⟨t, .scheduled activity⟩ :: past →
      ∃ before, caseStatus past = some before ∧ (before.after activity).isSome := by
    intro later t activity past heq
    rw [heq] at hordered
    exact caseStatus_before (caseStatus_append hordered)
  have hclose := Transition.always_iff.mp hrightly
  refine ⟨?_, ?_, ?_⟩
  · intro hfinished
    rw [hfinished] at hcontrol
    rcases hcontrol with hunopened | hclosed
    · obtain ⟨hnone, hzero, -⟩ := caseStatus_shows hunopened
      exact ⟨fun hopened => absurd hopened hnone, fun _ => hzero⟩
    · obtain ⟨hopened, hone⟩ := caseStatus_shows hclosed
      exact ⟨fun _ => hone, fun hnone => absurd hopened hnone⟩
  · intro later t access caseId outcome past heq
    obtain ⟨before, hstatus, hafter⟩ := hbefore later t _ past heq
    have hshows := caseStatus_shows hstatus
    cases before with
    | evidence => exact ⟨hshows.1, hshows.2.1, hshows.2.2, hclose later _ past heq⟩
    | _ => cases hafter
  · intro later t input past heq
    obtain ⟨before, hstatus, hafter⟩ := hbefore later t _ past heq
    have hshows := caseStatus_shows hstatus
    cases before with
    | monetary => exact ⟨hshows.1, hshows.2, hclose later _ past heq⟩
    | _ => cases hafter

namespace Sample

/-- A takeover that the supervisor rejects. -/
def rejectsTakeover : List RunEvent :=
  [.complete (.refundContext context), .complete (.decision (decision .takeoverRequired)),
    .complete (.humanCase "case-1"),
    .signal (.decideRefund ⟨.reject, "supervisor-1", "2026-08-08T12:00:00.000Z", none⟩),
    .resume, .complete .done]

theorem noon_startingChain : noon.StartingChain := ⟨noon_starting.1, rfl⟩

end Sample

/-- The case of a rejected takeover is closed once. -/
theorem rejected_takeover_closed : ∃ run, workflow.Reachable Run.StartingChain run ∧
    run.control = .finished ∧ run.state.stage = .rejected ∧ Opened run.history ∧
    closings run.history = 1 := by
  obtain ⟨run, hrun, hcontrol, hstage, hstatus⟩ : ∃ run,
      workflow.run Sample.noon Sample.rejectsTakeover = some run ∧ run.control = .finished ∧
      run.state.stage = .rejected ∧ caseStatus run.history = some .closed :=
    Machine.exists_run (by decide +kernel)
  have hreachable : workflow.Reachable Run.StartingChain run :=
    ⟨Sample.noon, Sample.rejectsTakeover, Sample.noon_startingChain, hrun⟩
  have hopened : Opened run.history := (caseStatus_shows hstatus).1
  exact ⟨run, hreachable, hcontrol, hstage, hopened,
    ((finished_leaves_no_case hreachable).1 hcontrol).1 hopened⟩

end CSO.Workers
