import CSO.Workers.Record

/-! A refund is executed at most once in a chain of runs, and only when it is authorised. -/
namespace CSO.Workers
open Transition (Machine Always dispatch_invariant always_cons always_iff)

/-- What has happened when a refund may be executed: its preview was created, the branch of the
effect was followed to the human decision it asks for, and facts that cover the preview were
read after the customer had accepted it in time. -/
structure Authorised (preview : RefundPreview) (past : List HistoryEvent) : Prop where
  created : Created preview past
  selected : ∃ effect, selections past = [effect] ∧ Reviewed effect past
  refreshed : ∃ later t refreshed earlier,
    past = later ++ ⟨t, .completed (.refundContext refreshed)⟩ :: earlier ∧
      amountStillAvailable refreshed preview = true ∧ Confirmed preview earlier

def Justified (e : HistoryEvent) (past : List HistoryEvent) : Prop :=
  ∀ input, e.occurrence = .scheduled (.executeRefund input) →
    executions past = [] ∧ Authorised input.preview past

theorem justified_of_quiet {e : HistoryEvent} {past : List HistoryEvent}
    (h : e.occurrence.execution = none) : Justified e past := by
  intro input he
  rw [he] at h
  cases h

theorem executions_length_le_one {h : List HistoryEvent} (hj : Always Justified h) :
    (executions h).length ≤ 1 := by
  induction h with
  | nil => simp [executions]
  | cons e past ih =>
    rw [executions_cons]
    cases he : e.occurrence.execution with
    | none => simpa using ih hj.2
    | some input =>
      have hocc : e.occurrence = .scheduled (.executeRefund input) := by
        unfold Occurrence.execution at he
        split at he
        · rename_i found hfound
          rw [hfound, Option.some.inj he]
        · cases he
      rw [(hj.1 input hocc).1]
      simp

def Branch.effect : Branch → PolicyEffect
  | .allow => .allow
  | .approval => .approvalRequired
  | .exceptional => .takeoverRequired

namespace View
variable {v w : View} {effect : PolicyEffect} {offer : Offer}

/-- The variables of the handlers are what the history makes of the signals. -/
structure Handled (v : View) : Prop where
  confirmation : match v.confirmationWait with
    | none => confirmations v.history = []
    | some wait => wait.Consistent v.now v.history
  decision : match v.review with
    | none => humanDecisions v.history = [] ∧ v.humanDecision = none
    | some review => v.humanDecision = firstAdmissible review v.history

theorem Handled.unconfirmed (h : v.Handled) (hnone : v.confirmationWait = none) :
    confirmations v.history = [] := by
  have hconfirmation := h.confirmation
  rw [hnone] at hconfirmation
  exact hconfirmation

theorem Handled.unreviewed (h : v.Handled) (hnone : v.review = none) :
    humanDecisions v.history = [] ∧ v.humanDecision = none := by
  have hdecision := h.decision
  rw [hnone] at hdecision
  exact hdecision

/-- Before the switch. -/
structure Collecting (v : View) : Prop where
  handled : v.Handled
  executions : executions v.history = []
  selections : selections v.history = []
  confirmationWait : v.confirmationWait = none
  review : v.review = none

/-- Between the switch and the execution. -/
structure Deciding (effect : PolicyEffect) (v : View) : Prop where
  handled : v.Handled
  executions : CSO.Workers.executions v.history = []
  selections : CSO.Workers.selections v.history = [effect]

/-- What a branch has of the human review before its offer is confirmed. -/
def Ready (branch : Branch) (v : View) : Prop :=
  match branch with
  | .allow => True
  | .approval => v.review = none
  | .exceptional => Reviewed .takeoverRequired v.history

def Waits (preview : RefundPreview) (v : View) : Prop :=
  ∃ wait, v.confirmationWait = some wait ∧ wait.preview = preview

/-- The preview is before the customer. -/
structure Offered (offer : Offer) (v : View) : Prop where
  deciding : Deciding offer.branch.effect v
  created : Created offer.preview v.history
  waits : Waits offer.preview v

/-- The customer has accepted the preview in time. -/
structure Accepted (offer : Offer) (v : View) : Prop extends Offered offer v where
  confirmed : Confirmed offer.preview v.history

/-- Nothing but fresh facts is missing. -/
structure Cleared (offer : Offer) (v : View) : Prop extends Accepted offer v where
  reviewed : Reviewed offer.branch.effect v.history

def Approving (offer : Offer) (review : Option HumanReview) (v : View) : Prop :=
  Accepted offer v ∧ offer.branch = .approval ∧ v.review = review

def TakingOver (review : Option HumanReview) (v : View) : Prop :=
  Deciding .takeoverRequired v ∧ v.confirmationWait = none ∧ v.review = review

theorem handled_of_idle (hwait : v.confirmationWait = none) (hreview : v.review = none)
    (hdecision : v.humanDecision = none) (hc : confirmations v.history = [])
    (hd : humanDecisions v.history = []) : v.Handled := by
  constructor
  · rw [hwait]
    exact hc
  · rw [hreview]
    exact ⟨hd, hdecision⟩

theorem Collecting.confirmations (h : Collecting v) :
    CSO.Workers.confirmations v.history = [] := by
  have hc := h.handled.confirmation
  rwa [h.confirmationWait] at hc

theorem Collecting.humanDecisions (h : Collecting v) :
    CSO.Workers.humanDecisions v.history = [] ∧ v.humanDecision = none := by
  have hd := h.handled.decision
  rwa [h.review] at hd

theorem kept_and {P Q : View → Prop} (hP : Kept P) (hQ : Kept Q) : Kept fun v => P v ∧ Q v :=
  fun v w h hw => ⟨hP v w h.1 hw, hQ v w h.2 hw⟩

theorem kept_const (p : Prop) : Kept fun _ => p := fun _ _ h _ => h

theorem kept_created (preview : RefundPreview) : Kept fun v => Created preview v.history :=
  kept_history fun _ _ => Created.cons

theorem kept_confirmed (preview : RefundPreview) : Kept fun v => Confirmed preview v.history :=
  kept_history fun _ _ => Confirmed.cons

theorem kept_reviewed (effect : PolicyEffect) : Kept fun v => Reviewed effect v.history :=
  kept_history fun _ _ => Reviewed.cons

theorem kept_review (review : Option HumanReview) : Kept fun v => v.review = review := by
  intro v w h hw
  rw [hw.unchanged.2.2.1, h]

theorem kept_confirmationWait_none : Kept fun v => v.confirmationWait = none :=
  fun _ _ h hw => hw.unchanged.2.2.2 h

theorem kept_humanDecision (d : RefundHumanDecision) : Kept fun v => v.humanDecision = some d :=
  fun _ _ h hw => hw.humanDecision h

theorem kept_waits (preview : RefundPreview) : Kept (Waits preview) := by
  intro v w h hw
  obtain ⟨wait, hwait, hpreview⟩ := h
  cases hw with
  | quiet ho => exact ⟨wait, hwait, hpreview⟩
  | advance milliseconds => exact ⟨wait, hwait, hpreview⟩
  | confirm received hw' =>
    rw [hwait] at hw'
    cases hw'
    exact ⟨_, rfl, by rw [ConfirmationWait.receive_preview, hpreview]⟩
  | decide received hr => exact ⟨wait, hwait, hpreview⟩

theorem Consistent.cons {wait : ConfirmationWait} {now : ℤ} {h : List HistoryEvent}
    {e : HistoryEvent} (hc : wait.Consistent now h) (he : e.occurrence.confirmation = none) :
    wait.Consistent now (e :: h) := by
  refine ⟨?_, hc.expired⟩
  rw [firstTimely_cons, he, hc.first]
  simp

theorem kept_handled : Kept Handled := by
  intro v w h hw
  obtain ⟨hconfirmation, hdecision⟩ := h
  cases hw with
  | @quiet o ho =>
    obtain ⟨-, -, hoc, hod⟩ := ho
    constructor
    · change (match v.confirmationWait with
        | none => confirmations (⟨v.now, o⟩ :: v.history) = []
        | some wait => wait.Consistent v.now (⟨v.now, o⟩ :: v.history))
      cases hwait : v.confirmationWait with
      | none =>
        rw [hwait] at hconfirmation
        simpa [confirmations_cons, hoc] using hconfirmation
      | some wait =>
        rw [hwait] at hconfirmation
        exact Consistent.cons hconfirmation hoc
    · change (match v.review with
        | none => humanDecisions (⟨v.now, o⟩ :: v.history) = [] ∧ v.humanDecision = none
        | some review => v.humanDecision = firstAdmissible review (⟨v.now, o⟩ :: v.history))
      cases hreview : v.review with
      | none =>
        rw [hreview] at hdecision
        simpa [humanDecisions_cons, hod] using hdecision
      | some review =>
        rw [hreview] at hdecision
        simpa [firstAdmissible_cons, hod] using hdecision
  | advance milliseconds =>
    refine ⟨?_, hdecision⟩
    change (match v.confirmationWait with
      | none => confirmations v.history = []
      | some wait => wait.Consistent (v.now + milliseconds) v.history)
    cases hwait : v.confirmationWait with
    | none =>
      rw [hwait] at hconfirmation
      exact hconfirmation
    | some wait =>
      rw [hwait] at hconfirmation
      exact ⟨hconfirmation.first, fun hexpired =>
        isRefundPreviewCurrent_mono (by omega) (hconfirmation.expired hexpired)⟩
  | confirm received hwait =>
    rw [hwait] at hconfirmation
    refine ⟨ConfirmationWait.receive_consistent hconfirmation, ?_⟩
    change (match v.review with
      | none => humanDecisions (_ :: v.history) = [] ∧ v.humanDecision = none
      | some review => v.humanDecision = firstAdmissible review (_ :: v.history))
    simpa [humanDecisions_cons, firstAdmissible_cons, Occurrence.humanDecision] using hdecision
  | @decide review received hreview =>
    rw [hreview] at hdecision
    constructor
    · change (match v.confirmationWait with
        | none => confirmations (⟨v.now, .handled (.decideRefund received)⟩ :: v.history) = []
        | some wait =>
          wait.Consistent v.now (⟨v.now, .handled (.decideRefund received)⟩ :: v.history))
      cases hwait : v.confirmationWait with
      | none =>
        rw [hwait] at hconfirmation
        simpa [confirmations_cons, Occurrence.confirmation] using hconfirmation
      | some wait =>
        rw [hwait] at hconfirmation
        exact Consistent.cons hconfirmation rfl
    · change (match v.review with
        | none => _ ∧ _
        | some review => v.humanDecision.or _ = firstAdmissible review
            (⟨v.now, .handled (.decideRefund received)⟩ :: v.history))
      rw [hreview]
      simp only at hdecision
      rw [hdecision]
      cases ha : review.admits received <;>
        simp [firstAdmissible_cons, Occurrence.humanDecision, ha]

theorem kept_collecting : Kept Collecting := by
  intro v w h hw
  obtain ⟨hexecutions, hselections, hreview, hwait⟩ := hw.unchanged
  exact ⟨kept_handled v w h.handled hw, hexecutions.trans h.executions,
    hselections.trans h.selections, hwait h.confirmationWait, hreview.trans h.review⟩

theorem kept_deciding (effect : PolicyEffect) : Kept (Deciding effect) := by
  intro v w h hw
  obtain ⟨hexecutions, hselections, -, -⟩ := hw.unchanged
  exact ⟨kept_handled v w h.handled hw, hexecutions.trans h.executions,
    hselections.trans h.selections⟩

theorem kept_ready (branch : Branch) : Kept (Ready branch) := by
  cases branch with
  | allow => exact kept_const True
  | approval => exact kept_review none
  | exceptional => exact kept_reviewed .takeoverRequired

theorem kept_offered (offer : Offer) : Kept (Offered offer) := fun v w h hw =>
  ⟨kept_deciding _ v w h.deciding hw, kept_created _ v w h.created hw,
    kept_waits _ v w h.waits hw⟩

theorem kept_accepted (offer : Offer) : Kept (Accepted offer) := fun v w h hw =>
  ⟨kept_offered offer v w h.toOffered hw, kept_confirmed _ v w h.confirmed hw⟩

theorem kept_cleared (offer : Offer) : Kept (Cleared offer) := fun v w h hw =>
  ⟨kept_accepted offer v w h.toAccepted hw, kept_reviewed _ v w h.reviewed hw⟩

theorem kept_approving (offer : Offer) (review : Option HumanReview) :
    Kept (Approving offer review) :=
  kept_and (kept_accepted offer) (kept_and (kept_const _) (kept_review review))

theorem kept_takingOver (review : Option HumanReview) : Kept (TakingOver review) :=
  kept_and (kept_deciding _) (kept_and kept_confirmationWait_none (kept_review review))

end View

open View

/-- What holds of a run at each of its awaits. Once the refund is executed nothing is needed. -/
def Control.Inv (v : View) : Control → Prop
  | .refreshingContext | .evaluatingPolicy _ | .openingEvidence _ | .sleepingBeforePoll .. |
    .readingEvidence .. | .refreshingReviewedContext _ | .evaluatingReviewedPolicy .. |
    .closingReviewedEvidence .. => Collecting v
  | .creatingPreview branch _ _ =>
    Deciding branch.effect v ∧ v.confirmationWait = none ∧ Ready branch v
  | .awaitingConfirmation offer _ => Offered offer v ∧ Ready offer.branch v
  | .observingConfirmation offer confirmation =>
    (Offered offer v ∧ Ready offer.branch v) ∧
      (confirmation.accepted = true → Confirmed offer.preview v.history)
  | .openingApproval offer => Approving offer none v
  | .awaitingApproval offer _ => Approving offer (some .approval) v
  | .closingApproval offer humanDecision =>
    Approving offer (some .approval) v ∧ v.humanDecision = some humanDecision
  | .openingTakeover _ _ => TakingOver none v
  | .awaitingTakeover .. => TakingOver (some .takeover) v
  | .closingTakeover _ _ _ humanDecision =>
    TakingOver (some .takeover) v ∧ v.humanDecision = some humanDecision
  | .refreshingTakeoverContext .. | .readingTakeoverEvidence .. | .evaluatingTakeover .. =>
    Deciding .takeoverRequired v ∧ v.confirmationWait = none ∧ Ready .exceptional v
  | .readingExecutionEvidence offer | .refreshingExecutionContext offer => Cleared offer v
  | .closingExpiredEvidence _ | .closingUnacceptedEvidence .. | .executing _ |
    .reconcilingProcessing .. | .awaitingOutcome .. | .reconcilingPending .. |
    .sleepingPending .. | .finished | .failed => True

theorem Control.inv_kept (control : Control) : Kept fun v => control.Inv v := by
  cases control with
  | refreshingContext => exact kept_collecting
  | evaluatingPolicy => exact kept_collecting
  | openingEvidence => exact kept_collecting
  | sleepingBeforePoll => exact kept_collecting
  | readingEvidence => exact kept_collecting
  | refreshingReviewedContext => exact kept_collecting
  | evaluatingReviewedPolicy => exact kept_collecting
  | closingReviewedEvidence => exact kept_collecting
  | creatingPreview branch =>
    exact kept_and (kept_deciding _) (kept_and kept_confirmationWait_none (kept_ready branch))
  | awaitingConfirmation offer => exact kept_and (kept_offered offer) (kept_ready offer.branch)
  | observingConfirmation offer confirmation =>
    refine kept_and (kept_and (kept_offered offer) (kept_ready offer.branch)) ?_
    exact fun v w h hw haccepted => kept_confirmed _ v w (h haccepted) hw
  | openingApproval offer => exact kept_approving offer none
  | awaitingApproval offer => exact kept_approving offer _
  | closingApproval offer d => exact kept_and (kept_approving offer _) (kept_humanDecision d)
  | openingTakeover => exact kept_takingOver none
  | awaitingTakeover => exact kept_takingOver _
  | closingTakeover evidence decision caseId d =>
    exact kept_and (kept_takingOver _) (kept_humanDecision d)
  | refreshingTakeoverContext =>
    exact kept_and (kept_deciding _) (kept_and kept_confirmationWait_none (kept_ready .exceptional))
  | readingTakeoverEvidence =>
    exact kept_and (kept_deciding _) (kept_and kept_confirmationWait_none (kept_ready .exceptional))
  | evaluatingTakeover =>
    exact kept_and (kept_deciding _) (kept_and kept_confirmationWait_none (kept_ready .exceptional))
  | readingExecutionEvidence offer => exact kept_cleared offer
  | refreshingExecutionContext offer => exact kept_cleared offer
  | _ => exact kept_const True

end CSO.Workers
