import CSO.Workers.Execution

/-! The offer that follows an exceptional approval. It is valid as long as the policy decision
that it is made of, which without photo evidence is older than the approval. -/
namespace CSO.Workers
open Transition (Machine)

/-- The policy has made the decision. -/
def Evaluated (decision : RefundPolicyDecision) : Prop :=
  ∃ input context, evaluateRefundPolicyActivity input context = .ok decision

theorem getRefundPolicyRelease_eq_ok {version : String} {release : RefundPolicyRelease}
    (h : getRefundPolicyRelease version = .ok release) : release.policyVersion = version := by
  unfold getRefundPolicyRelease at h
  split at h
  · rename_i found hfound
    cases h
    have hversion := List.find?_some hfound
    exact of_decide_eq_true hversion
  · cases h

/-- A decision is valid for the period of its release. -/
theorem Evaluated.deadline {decision : RefundPolicyDecision} (h : Evaluated decision) :
    ∃ release decidedAt, getRefundPolicyRelease decision.policyVersion = .ok release ∧
      JS.Date.parse decision.decidedAt = some decidedAt ∧
      JS.Date.parse decision.validUntil =
        some (decidedAt + release.decisionValiditySeconds * 1000) := by
  obtain ⟨input, context, h⟩ := h
  unfold evaluateRefundPolicyActivity at h
  obtain ⟨policyInput, -, h⟩ := except_bind_eq_ok h
  obtain ⟨release, hrelease, h⟩ := except_bind_eq_ok h
  obtain ⟨-, -, hversion, hdecided, -, decidedAt, hparse, hvalid⟩ := evaluateRefundPolicy_eq_ok h
  refine ⟨release, decidedAt, ?_, by rw [hdecided, hparse], hvalid⟩
  rw [hversion, getRefundPolicyRelease_eq_ok hrelease, hrelease]

def Occurrence.activity : Occurrence → Option Activity
  | .scheduled activity => some activity
  | _ => none

/-- The activity scheduled last, which is the one that an await of a run waits for. -/
def pendingActivity (h : List HistoryEvent) : Option Activity :=
  h.findSome? fun e => e.occurrence.activity

/-- A decision or a preview is what its activity makes of the input it was scheduled with. -/
def Genuine (run : Run) (e : RunEvent) (_ : Run) : Prop :=
  match e with
  | .complete (.decision decision) =>
    ∃ input context, pendingActivity run.history = some (.evaluateRefundPolicy input) ∧
      evaluateRefundPolicyActivity input context = .ok decision
  | .complete (.preview preview) =>
    ∃ input previewId createdAt,
      pendingActivity run.history = some (.createRefundPreview input) ∧
        createRefundPreviewActivity input previewId createdAt = .ok preview
  | _ => True

/-- The decision is the one that the takeover was selected on. -/
def SelectedBy (decision : RefundPolicyDecision) (h : List HistoryEvent) : Prop :=
  ∃ later t t' past, h = later ++ ⟨t, .selected .takeoverRequired⟩ ::
    ⟨t', .completed (.decision decision)⟩ :: past

/-- The decision was made after the exceptional approval. -/
def Reevaluated (decision : RefundPolicyDecision) (h : List HistoryEvent) : Prop :=
  ∃ later t past, h = later ++ ⟨t, .completed (.decision decision)⟩ :: past ∧
    Reviewed .takeoverRequired past

theorem SelectedBy.cons {decision : RefundPolicyDecision} {h : List HistoryEvent}
    (hs : SelectedBy decision h) (e : HistoryEvent) : SelectedBy decision (e :: h) := by
  obtain ⟨later, t, t', past, rfl⟩ := hs
  exact ⟨e :: later, t, t', past, rfl⟩

theorem Reevaluated.cons {decision : RefundPolicyDecision} {h : List HistoryEvent}
    (hr : Reevaluated decision h) (e : HistoryEvent) : Reevaluated decision (e :: h) := by
  obtain ⟨later, t, past, rfl, hreviewed⟩ := hr
  exact ⟨e :: later, t, past, rfl, hreviewed⟩

/-! Where the decision of an exceptional offer comes from. -/

/-- What a run knows of its decisions until it has made an offer. -/
structure Run.Traced (run : Run) : Prop where
  evaluated : ∀ t decision, ⟨t, .completed (.decision decision)⟩ ∈ run.history →
    Evaluated decision
  photo : ∀ recovery, run.request.evidenceRecovery = some recovery →
    run.needsDamagePhoto recovery.decision

/-- Without accepted evidence a takeover keeps the decision it was selected on. -/
def Inherits (evidence : Option EvidenceSnapshot) (decision : RefundPolicyDecision)
    (h : List HistoryEvent) : Prop :=
  acceptedEvidence evidence = none → SelectedBy decision h

def Control.Origin (run : Run) : Control → Prop
  | .openingEvidence decision | .sleepingBeforePoll decision .. |
    .readingEvidence decision .. => run.needsDamagePhoto decision
  | .refreshingReviewedContext evidence | .evaluatingReviewedPolicy evidence _ |
    .closingReviewedEvidence evidence .. => evidence.accepted.isSome
  | .openingTakeover evidence decision | .awaitingTakeover evidence decision _ |
    .closingTakeover evidence decision .. | .refreshingTakeoverContext evidence decision _ =>
    Inherits evidence decision run.history
  | .readingTakeoverEvidence evidence .. | .evaluatingTakeover evidence .. =>
    (acceptedEvidence evidence).isSome
  | .creatingPreview .exceptional evidence decision =>
    Inherits evidence decision run.history ∧
      ((acceptedEvidence evidence).isSome → Reevaluated decision run.history) ∧
      ∃ proposal refundContext authorization, pendingActivity run.history =
        some (.createRefundPreview ⟨proposal, refundContext, decision, authorization⟩)
  | _ => True

/-- Until an offer is made, the origin of every decision is known. -/
def Run.Sourced (run : Run) : Prop :=
  run.control.offered = false → run.Traced ∧ run.control.Origin run

namespace Run
variable {run run' : Run} {evidence : Option EvidenceSnapshot} {decision : RefundPolicyDecision}

theorem sourced_of_offered (h : run.control.offered = true) : run.Sourced := by
  intro hc
  rw [h] at hc
  cases hc

/-- A signal that is handled tells nothing of the decisions. -/
theorem origin_handle {control : Control} {signal : Signal}
    (h : run.Traced ∧ control.Origin run) (hs : run.handle signal = some run') :
    run'.Traced ∧ control.Origin run' := by
  obtain ⟨⟨hevaluated, hphoto⟩, horigin⟩ := h
  rw [handle_frame hs]
  refine ⟨⟨?_, hphoto⟩, ?_⟩
  · intro t d hd
    rcases List.mem_cons.mp hd with heq | hd
    · cases heq
    · exact hevaluated t d hd
  · cases control with
    | creatingPreview branch evidence decision =>
      cases branch with
      | exceptional =>
        obtain ⟨hinherits, hreevaluated, hpending⟩ := horigin
        exact ⟨fun h => (hinherits h).cons _, fun h => (hreevaluated h).cons _, hpending⟩
      | allow => trivial
      | approval => trivial
    | openingTakeover => exact fun h => (horigin h).cons _
    | awaitingTakeover => exact fun h => (horigin h).cons _
    | closingTakeover => exact fun h => (horigin h).cons _
    | refreshingTakeoverContext => exact fun h => (horigin h).cons _
    | _ => exact horigin

section Traced
variable (h : run.Traced)
include h

theorem Traced.log {o : Occurrence} (ho : ∀ d, o = .completed (.decision d) → Evaluated d) :
    (run.log o).Traced := by
  refine ⟨?_, h.photo⟩
  intro t d hd
  rcases List.mem_cons.mp hd with heq | hd
  · exact ho d (congrArg HistoryEvent.occurrence heq).symm
  · exact h.evaluated t d hd

theorem Traced.schedule {activity : Activity} {control : Control}
    (hc : control.Origin (run.schedule activity control)) :
    (run.schedule activity control).Sourced := by
  intro _
  have hl : (run.log (.scheduled activity)).Traced := h.log (by simp)
  exact ⟨⟨hl.evaluated, hl.photo⟩, hc⟩

theorem Traced.start : run.start.Sourced := by
  unfold Run.start
  split
  · exact sourced_of_offered rfl
  · have hs : (run.setState { stage := .evaluating }).Traced := ⟨h.evaluated, h.photo⟩
    exact hs.schedule trivial

theorem Traced.awaitEvidence {snapshot : EvidenceSnapshot} {deadline : ℤ} {polls : ℕ}
    (hd : run.needsDamagePhoto decision) :
    (run.awaitEvidence snapshot decision deadline polls).Sourced := by
  unfold Run.awaitEvidence Run.closeExpiredEvidence
  split
  · split_ifs
    · exact h.schedule trivial
    · intro _
      have hl : (run.log (.timerStarted
          (min evidencePollInterval (deadline - run.now)))).Traced := h.log (by simp)
      exact ⟨⟨hl.evaluated, hl.photo⟩, hd⟩
  · rename_i accepted haccepted
    split_ifs
    · exact h.schedule trivial
    · refine h.schedule ?_
      change snapshot.accepted.isSome = true
      rw [haccepted]
      rfl

theorem Traced.afterEvidenceRead {snapshot : EvidenceSnapshot} {deadline : ℤ} {polls : ℕ}
    (hd : run.needsDamagePhoto decision) :
    (run.afterEvidenceRead decision deadline polls snapshot).Sourced := by
  unfold Run.afterEvidenceRead
  split_ifs
  · -- the next run collects evidence for the same decision
    have hl : (run.log (.continuedAsNew { run.request with
        evidenceRecovery := some ⟨deadline, decision⟩ })).Traced := h.log (by simp)
    refine Traced.start ⟨hl.evaluated, ?_⟩
    intro recovery hrecovery
    cases hrecovery
    exact hd
  · exact h.awaitEvidence hd

theorem Traced.openTakeover (hd : Inherits evidence decision run.history) :
    (run.openTakeover evidence decision).Sourced := by
  unfold Run.openTakeover Run.openMonetaryCase
  split
  · exact h.schedule fun hnone => (hd hnone).cons _
  · exact h.schedule fun hnone => (hd hnone).cons _

theorem Traced.selectBranch {refundContext : RefundContext}
    (hd : acceptedEvidence evidence = none →
      ∃ t past, run.history = ⟨t, .completed (.decision decision)⟩ :: past) :
    (run.selectBranch evidence refundContext decision).Sourced := by
  have hl : (run.log (.selected decision.effect)).Traced := h.log (by simp)
  unfold Run.selectBranch
  cases heffect : decision.effect with
  | needsFacts => exact sourced_of_offered rfl
  | deny => exact sourced_of_offered rfl
  | approvalRequired =>
    rw [heffect] at hl
    exact hl.schedule trivial
  | takeoverRequired =>
    rw [heffect] at hl
    refine hl.openTakeover fun hnone => ?_
    obtain ⟨t, past, hhistory⟩ := hd hnone
    exact ⟨[], run.now, t, past, congrArg _ hhistory⟩
  | allow =>
    rw [heffect] at hl
    exact hl.schedule trivial

theorem Traced.afterPolicy {refundContext : RefundContext}
    (hd : ¬run.needsDamagePhoto decision →
      ∃ t past, run.history = ⟨t, .completed (.decision decision)⟩ :: past) :
    (run.afterPolicy refundContext decision).Sourced := by
  unfold Run.afterPolicy
  split_ifs with hphoto
  · exact h.schedule hphoto
  · exact h.selectBranch fun _ => hd hphoto

theorem Traced.afterContext {refundContext : RefundContext} :
    (run.afterContext refundContext).Sourced := by
  unfold Run.afterContext
  split
  · rename_i recovery hrecovery
    exact h.afterPolicy fun hphoto => absurd (h.photo recovery hrecovery) hphoto
  · exact h.schedule trivial

theorem Traced.afterReviewedPolicy {snapshot : EvidenceSnapshot} {refundContext : RefundContext}
    (haccepted : snapshot.accepted.isSome) :
    (run.afterReviewedPolicy snapshot refundContext decision).Sourced := by
  have hnone : acceptedEvidence (some snapshot) ≠ none := by
    change snapshot.accepted ≠ none
    exact Option.isSome_iff_ne_none.mp haccepted
  unfold Run.afterReviewedPolicy
  split
  · exact h.schedule haccepted
  · exact h.schedule haccepted
  · exact h.schedule haccepted
  · exact h.selectBranch fun heq => absurd heq hnone
  · exact h.selectBranch fun heq => absurd heq hnone

theorem Traced.afterTakeoverOpened {caseId : String}
    (hd : Inherits evidence decision run.history) :
    (run.afterTakeoverOpened evidence decision caseId).Sourced := by
  intro _
  let asked : Run := run.setState { stage := .humanTakeoverRequired, decision := some decision }
  let installed : Run := { asked with review := some .takeover }
  have hinstalled : installed.dispatchBuffered.Traced ∧
      (Control.awaitingTakeover evidence decision caseId).Origin installed.dispatchBuffered := by
    refine dispatchBuffered_invariant
      (I := fun r => r.Traced ∧ (Control.awaitingTakeover evidence decision caseId).Origin r)
      ?_ ?_ ⟨⟨h.evaluated, h.photo⟩, hd⟩
    · intro r signal r' hr hs
      exact origin_handle hr hs
    · intro r buffered hr
      exact ⟨⟨hr.1.evaluated, hr.1.photo⟩, hr.2⟩
  exact ⟨⟨hinstalled.1.evaluated, hinstalled.1.photo⟩, hinstalled.2⟩

theorem Traced.afterTakeoverClosed {caseId : String} {humanDecision : RefundHumanDecision}
    (hd : Inherits evidence decision run.history) :
    (run.afterTakeoverClosed evidence decision caseId humanDecision).Sourced := by
  unfold Run.afterTakeoverClosed
  split
  · exact h.schedule fun hnone => (hd hnone).cons _
  · exact sourced_of_offered rfl
  · exact sourced_of_offered rfl
  · exact sourced_of_offered rfl

theorem Traced.requestExceptional {refundContext : RefundContext}
    {authorization : Option RefundPreviewAuthorization}
    (hd : Inherits evidence decision run.history)
    (hr : (acceptedEvidence evidence).isSome → Reevaluated decision run.history) :
    (run.requestPreview .exceptional evidence refundContext decision authorization).Sourced :=
  h.schedule ⟨fun hnone => (hd hnone).cons _, fun hsome => (hr hsome).cons _, _, _, _, rfl⟩

theorem Traced.afterTakeoverContext {caseId : String} {refreshedContext : RefundContext}
    (hd : Inherits evidence decision run.history) :
    (run.afterTakeoverContext evidence decision caseId refreshedContext).Sourced := by
  unfold Run.afterTakeoverContext
  split_ifs with haccepted
  · exact h.schedule haccepted
  · exact h.requestExceptional hd fun hsome => absurd hsome haccepted

theorem Traced.afterTakeoverEvidence {caseId : String} {refreshedContext : RefundContext}
    {current : EvidenceSnapshot} (haccepted : (acceptedEvidence evidence).isSome) :
    (run.afterTakeoverEvidence evidence decision caseId refreshedContext current).Sourced := by
  unfold Run.afterTakeoverEvidence
  split_ifs
  · exact h.schedule haccepted
  · exact sourced_of_offered rfl

theorem Traced.afterTakeoverEvaluated {caseId : String} {refreshedContext : RefundContext}
    (haccepted : (acceptedEvidence evidence).isSome) (hr : Reevaluated decision run.history) :
    (run.afterTakeoverEvaluated evidence caseId refreshedContext decision).Sourced := by
  have hd : Inherits evidence decision run.history := fun hnone => by
    rw [hnone] at haccepted
    cases haccepted
  unfold Run.afterTakeoverEvaluated
  split
  · exact sourced_of_offered rfl
  · exact sourced_of_offered rfl
  · exact h.requestExceptional hd fun _ => hr
  · exact h.requestExceptional hd fun _ => hr
  · exact h.requestExceptional hd fun _ => hr

end Traced

theorem Sourced.returns {result : ActivityResult} (h : run.Sourced) (hsound : Sound run)
    (hg : Genuine run (.complete result) run')
    (hr : (run.log (.completed result)).Returns run.control result run') : run'.Sourced := by
  by_cases hoffered : run.control.offered = true
  · exact sourced_of_offered (hr.offered hoffered)
  · obtain ⟨htraced, horigin⟩ := h (by simpa using hoffered)
    have hl : (run.log (.completed result)).Traced := by
      apply htraced.log
      intro d hd
      cases hd
      obtain ⟨input, context, -, hd⟩ := hg
      exact ⟨input, context, hd⟩
    have hinv := hsound.inv
    generalize run.control = control at hr horigin hinv hoffered
    cases hr with
    | refreshingContext => exact hl.afterContext
    | evaluatingPolicy => exact hl.afterPolicy fun _ => ⟨_, _, rfl⟩
    | openingEvidence => exact hl.awaitEvidence horigin
    | readingEvidence => exact hl.afterEvidenceRead horigin
    | closingExpiredEvidence => exact sourced_of_offered rfl
    | refreshingReviewedContext => exact hl.schedule horigin
    | evaluatingReviewedPolicy => exact hl.afterReviewedPolicy horigin
    | closingReviewedEvidence snapshot =>
      refine hl.selectBranch fun hnone => ?_
      change snapshot.accepted.isSome = true at horigin
      rw [show snapshot.accepted = none from hnone] at horigin
      cases horigin
    | creatingPreview => exact sourced_of_offered awaitConfirmation_offered
    | openingTakeover => exact hl.afterTakeoverOpened fun hnone => (horigin hnone).cons _
    | closingTakeover => exact hl.afterTakeoverClosed fun hnone => (horigin hnone).cons _
    | refreshingTakeoverContext =>
      exact hl.afterTakeoverContext fun hnone => (horigin hnone).cons _
    | readingTakeoverEvidence => exact hl.afterTakeoverEvidence horigin
    | evaluatingTakeover =>
      exact hl.afterTakeoverEvaluated horigin ⟨[], _, _, rfl, hinv.2.2⟩
    | _ => exact absurd rfl hoffered

theorem Sourced.wakes (h : run.Sourced) (hw : run.Wakes run.control run') : run'.Sourced := by
  by_cases hoffered : run.control.offered = true
  · exact sourced_of_offered (hw.offered hoffered)
  · obtain ⟨htraced, horigin⟩ := h (by simpa using hoffered)
    generalize run.control = control at hw horigin hoffered
    cases hw with
    | sleptBeforePoll => exact htraced.schedule horigin
    | takeoverDecided => exact htraced.schedule fun hnone => (horigin hnone).cons _
    | _ => exact absurd rfl hoffered

theorem Sourced.handle {signal : Signal} (h : run.Sourced)
    (hs : run.handle signal = some run') : run'.Sourced := by
  have hcontrol : run'.control = run.control := by rw [handle_frame hs]
  intro hc
  rw [hcontrol] at hc ⊢
  exact origin_handle (h hc) hs

/-- Neither the clock nor the buffer matters. -/
theorem Sourced.of_eq {run' : Run} (h : run.Sourced) (hcontrol : run'.control = run.control)
    (hrequest : run'.request = run.request) (hhistory : run'.history = run.history) :
    run'.Sourced := by
  obtain ⟨request, workflowId, patches, now, control, state, wait, review, humanDecision,
    outcomeWait, buffered, history⟩ := run
  obtain ⟨request', workflowId', patches', now', control', state', wait', review',
    humanDecision', outcomeWait', buffered', history'⟩ := run'
  cases hcontrol
  cases hrequest
  cases hhistory
  intro hc
  obtain ⟨⟨hevaluated, hphoto⟩, horigin⟩ := h hc
  exact ⟨⟨hevaluated, hphoto⟩, horigin⟩

theorem sourced_step (run : Run) (e : RunEvent) (run' : Run) (h : Sound run ∧ run.Sourced)
    (hs : workflow.step run e = some run') (hg : Genuine run e run') :
    Sound run' ∧ run'.Sourced := by
  refine ⟨sound_step run e run' h.1 hs, ?_⟩
  refine workflow_step_cases (fun _ => h.2.of_eq rfl rfl rfl) (fun _ _ => h.2.handle)
    (fun _ => h.2.of_eq rfl rfl rfl) (sourced_of_offered rfl) ?_ (fun _ => h.2.wakes) hs
  rintro result r rfl hr
  exact h.2.returns h.1 hg hr

end Run

/-- A run of today that continues no other. -/
def Run.StartingFresh (run : Run) : Prop :=
  run.StartingPatched ∧ run.request.evidenceRecovery = none ∧ run.request.recovery = none

theorem Run.start_request (run : Run) : run.start.request = run.request := by
  unfold Run.start
  split <;> rfl

theorem sourced_starting {run : Run} (h : run.StartingFresh) : run.Sourced := by
  obtain ⟨⟨⟨request, workflowId, patches, now, rfl⟩, -⟩, hnone, -⟩ := h
  rw [Run.start_request] at hnone
  refine Run.Traced.start ⟨?_, ?_⟩
  · intro t d hd
    cases hd
  · intro recovery hrecovery
    rw [hnone] at hrecovery
    cases hrecovery

/-! The offer itself. -/

/-- The acceptance of an offer leads on to the refund. -/
def Honours (offer : Offer) (deadline : ℤ) (run : Run) : Prop :=
  ∀ (delay : ℕ) (received : RefundCustomerConfirmation),
    received.previewId = offer.preview.previewId → received.accepted = true →
    run.now + delay < deadline →
    ∃ run', workflow.run run [.advance delay, .signal (.confirmRefund received), .resume] =
        some run' ∧
      (run'.control = .observingConfirmation offer received ∨
        run'.control = .readingExecutionEvidence offer ∨
        run'.control = .refreshingExecutionContext offer)

/-- What becomes of the offer of a preview that is valid until the deadline: too late it ends at
once; in time it is put before the customer, and an acceptance before the deadline counts. -/
structure OfferedUntil (deadline : ℤ) (offer : Offer) (run run' : Run) : Prop where
  current : isRefundPreviewCurrent offer.preview.validUntil run.now = true ↔ run.now < deadline
  late : deadline ≤ run.now →
    run'.control = .finished ∧ run'.state.stage = .previewInvalidated
  prompt : run.now < deadline →
    (∀ received, .confirmRefund received ∈ run.buffered →
      received.previewId ≠ offer.preview.previewId) →
    run'.control = .awaitingConfirmation offer (some deadline) ∧
      run'.state.stage = .awaitingCustomerConfirmation ∧ Honours offer deadline run'

theorem isRefundPreviewCurrent_iff {validUntil : String} {deadline now : ℤ}
    (h : JS.Date.parse validUntil = some deadline) :
    isRefundPreviewCurrent validUntil now = true ↔ now < deadline := by
  unfold isRefundPreviewCurrent
  rw [h]
  exact decide_eq_true_iff

theorem ConfirmationWait.receive_late {wait : ConfirmationWait} {now : ℤ}
    {received : RefundCustomerConfirmation} (hnone : wait.confirmation = none)
    (hlate : isRefundPreviewCurrent wait.preview.validUntil now = false) :
    (wait.receive true now received).confirmation = none := by
  unfold receive
  split_ifs with hkeep hexpired
  · exact hnone
  · exact hnone
  · rw [hlate] at hexpired
    exact absurd ⟨rfl, Bool.false_ne_true⟩ hexpired

theorem ConfirmationWait.receive_other {wait : ConfirmationWait} {checksExpiry : Bool} {now : ℤ}
    {received : RefundCustomerConfirmation} (hne : received.previewId ≠ wait.preview.previewId) :
    wait.receive checksExpiry now received = wait := by
  unfold receive
  rw [if_pos (.inr (.inr hne))]

theorem ConfirmationWait.receive_first {preview : RefundPreview} {now : ℤ}
    {received : RefundCustomerConfirmation} (hid : received.previewId = preview.previewId)
    (hcurrent : isRefundPreviewCurrent preview.validUntil now = true) :
    (⟨preview, none, false⟩ : ConfirmationWait).receive true now received =
      ⟨preview, some received, false⟩ := by
  unfold receive
  simp [hid, hcurrent]

namespace Run
variable {run : Run} {offer : Offer} {deadline : ℤ}

/-- Nothing that waited for the handler is in time once the preview has expired. -/
theorem dispatch_late {wait : ConfirmationWait} (hp : run.patches.expiryConfirmation = true)
    (hw : run.confirmationWait = some wait) (hnone : wait.confirmation = none)
    (hlate : isRefundPreviewCurrent wait.preview.validUntil run.now = false) :
    ∃ wait', run.dispatchBuffered.confirmationWait = some wait' ∧ wait'.confirmation = none := by
  have hinv : run.dispatchBuffered.patches = run.patches ∧ run.dispatchBuffered.now = run.now ∧
      ∃ wait', run.dispatchBuffered.confirmationWait = some wait' ∧
        wait'.preview = wait.preview ∧ wait'.confirmation = none := by
    refine dispatchBuffered_invariant (I := fun r => r.patches = run.patches ∧ r.now = run.now ∧
      ∃ wait', r.confirmationWait = some wait' ∧ wait'.preview = wait.preview ∧
        wait'.confirmation = none) ?_ (fun _ _ h => h) ⟨rfl, rfl, wait, hw, rfl, hnone⟩
    rintro r signal t ⟨hpatches, hnow, waiting, hwaiting, hpreview, hconfirmation⟩ ht
    have hwait' := handle_confirmationWait ht
    rw [handle_frame ht]
    refine ⟨hpatches, hnow, ?_⟩
    cases signal with
    | confirmRefund received =>
      simp only [hwaiting, Option.map_some] at hwait'
      rw [hpatches, hp, hnow] at hwait'
      refine ⟨_, hwait', ?_, ?_⟩
      · rw [ConfirmationWait.receive_preview, hpreview]
      · rw [← hpreview] at hlate
        exact ConfirmationWait.receive_late hconfirmation hlate
    | decideRefund received => exact ⟨waiting, hwait'.trans hwaiting, hpreview, hconfirmation⟩
    | recordProviderRefundOutcome received =>
      exact ⟨waiting, hwait'.trans hwaiting, hpreview, hconfirmation⟩
  obtain ⟨-, -, wait', hwait', -, hnone'⟩ := hinv
  exact ⟨wait', hwait', hnone'⟩

/-- Confirmations of other previews leave the wait as it is. -/
theorem dispatch_fresh {wait : ConfirmationWait} (hw : run.confirmationWait = some wait)
    (hother : ∀ received, .confirmRefund received ∈ run.buffered →
      received.previewId ≠ wait.preview.previewId) :
    run.dispatchBuffered.confirmationWait = some wait := by
  refine dispatchBuffered_invariant_of_mem (I := fun r => r.confirmationWait = some wait) ?_
    (fun _ _ h => h) hw
  intro r signal t hmem hr ht
  have hwait' := handle_confirmationWait ht
  cases signal with
  | confirmRefund received =>
    simp only [hr, Option.map_some] at hwait'
    rwa [ConfirmationWait.receive_other (hother received hmem)] at hwait'
  | decideRefund received => exact hwait'.trans hr
  | recordProviderRefundOutcome received => exact hwait'.trans hr

theorem afterConfirmation_late (h : offer.branch = .exceptional) :
    (run.afterConfirmation offer none).control = .finished ∧
      (run.afterConfirmation offer none).state.stage = .previewInvalidated := by
  have hdecline : run.afterConfirmation offer none =
      run.finishOffer offer Refusal.previewInvalidated.stage := by
    change run.declineOffer offer .previewInvalidated = _
    unfold declineOffer
    rw [h]
  rw [hdecline]
  exact ⟨rfl, rfl⟩

theorem observe_control {received : RefundCustomerConfirmation} (h : offer.branch = .exceptional)
    (ha : received.accepted = true) :
    (run.observeRefundConfirmation offer received).control =
        .observingConfirmation offer received ∨
      (run.observeRefundConfirmation offer received).control = .readingExecutionEvidence offer ∨
      (run.observeRefundConfirmation offer received).control =
        .refreshingExecutionContext offer := by
  unfold observeRefundConfirmation
  split_ifs
  · exact .inl rfl
  · unfold afterObservation
    rw [if_pos ha, h]
    change (run.executeAuthorizedRefund offer).control = _ ∨
      (run.executeAuthorizedRefund offer).control = _ ∨
      (run.executeAuthorizedRefund offer).control = _
    unfold executeAuthorizedRefund
    split_ifs
    · exact .inr (.inl rfl)
    · exact .inr (.inr rfl)

/-- A run that waits for its customer honours an acceptance that comes in time. -/
theorem awaiting_honours (hb : offer.branch = .exceptional)
    (hp : run.patches.expiryConfirmation = true)
    (hvalid : JS.Date.parse offer.preview.validUntil = some deadline)
    (hc : run.control = .awaitingConfirmation offer (some deadline))
    (hw : run.confirmationWait = some ⟨offer.preview, none, false⟩) :
    Honours offer deadline run := by
  intro delay received hid haccepted hdelay
  have hreceive := ConfirmationWait.receive_first hid
    ((isRefundPreviewCurrent_iff hvalid).mpr hdelay)
  let later : Run := { run with now := run.now + delay }
  let handled : Run := { later.log (.handled (.confirmRefund received)) with
    confirmationWait := some ⟨offer.preview, some received, false⟩ }
  have hsignal : later.step (.signal (.confirmRefund received)) = some handled := by
    have hhandle : later.handle (.confirmRefund received) = some handled := by
      change run.confirmationWait.map _ = _
      rw [hw, Option.map_some, hp, hreceive]
    have hopen : later.control.closed = false := by
      change run.control.closed = false
      rw [hc]
      rfl
    simp only [step, hopen, receive, hhandle, Option.getD_some]
    rfl
  have hresume : handled.step .resume =
      some (handled.observeRefundConfirmation offer received) := by
    have hcontrol : handled.control = .awaitingConfirmation offer (some deadline) := hc
    change handled.resume = _
    unfold resume
    rw [hcontrol]
    rfl
  refine ⟨handled.observeRefundConfirmation offer received, ?_, observe_control hb haccepted⟩
  have hadvance : workflow.step run (.advance delay) = some later := rfl
  exact Machine.run_cons.mpr ⟨later, hadvance, Machine.run_cons.mpr
    ⟨handled, hsignal, Machine.run_singleton.mpr hresume⟩⟩

/-- The offer of an exceptional refund, by the deadline of its preview. -/
theorem offerPreview_until {evidence : Option EvidenceSnapshot} {decision : RefundPolicyDecision}
    {preview : RefundPreview} (htimer : run.patches.expiryTimer = true)
    (hp : run.patches.expiryConfirmation = true)
    (hvalid : JS.Date.parse preview.validUntil = some deadline) :
    OfferedUntil deadline ⟨.exceptional, evidence, decision, preview⟩ run
      ((run.log (.completed (.preview preview))).offerPreview .exceptional evidence decision
        preview) := by
  let offer : Offer := ⟨.exceptional, evidence, decision, preview⟩
  let shown : Run := (run.log (.completed (.preview preview))).setState
    { stage := .awaitingCustomerConfirmation, decision := some decision, preview := some preview }
  let waiting : Run := { shown with confirmationWait := some ⟨preview, none, false⟩ }
  have hpatches : waiting.dispatchBuffered.patches.expiryTimer = true := by
    rw [dispatchBuffered_patches]
    exact htimer
  have hwp : waiting.patches.expiryConfirmation = true := hp
  have hnow : waiting.dispatchBuffered.now = run.now := dispatchBuffered_now waiting
  refine ⟨isRefundPreviewCurrent_iff hvalid, ?_, ?_⟩
  · intro hlate
    have hexpired : isRefundPreviewCurrent preview.validUntil run.now = false := by
      rw [← Bool.not_eq_true, isRefundPreviewCurrent_iff hvalid]
      omega
    obtain ⟨wait, hwait, hnone⟩ := dispatch_late hwp rfl rfl hexpired
    change (waiting.dispatchBuffered.awaitConfirmation offer
        (waiting.dispatchBuffered.confirmationWait.getD _)).control = _ ∧
      (waiting.dispatchBuffered.awaitConfirmation offer
        (waiting.dispatchBuffered.confirmationWait.getD _)).state.stage = _
    rw [hwait, Option.getD_some]
    have hawait : waiting.dispatchBuffered.awaitConfirmation offer wait =
        waiting.dispatchBuffered.afterConfirmation offer none := by
      unfold awaitConfirmation
      rw [hnone, hpatches, show JS.Date.parse offer.preview.validUntil = some deadline from hvalid,
        hnow]
      simp only [sub_nonpos, hlate, if_true, ite_self]
    rw [hawait]
    exact afterConfirmation_late rfl
  · intro hcurrent hother
    have hwait : waiting.dispatchBuffered.confirmationWait = some ⟨preview, none, false⟩ :=
      dispatch_fresh rfl hother
    have hrun : (run.log (.completed (.preview preview))).offerPreview .exceptional evidence
        decision preview = waiting.dispatchBuffered.sleep (deadline - run.now)
          fun due => .awaitingConfirmation offer (some due) := by
      change waiting.dispatchBuffered.awaitConfirmation offer
        (waiting.dispatchBuffered.confirmationWait.getD _) = _
      rw [hwait, Option.getD_some]
      unfold awaitConfirmation
      rw [hpatches, show JS.Date.parse offer.preview.validUntil = some deadline from hvalid, hnow]
      have hpos : ¬deadline - run.now ≤ 0 := by omega
      simp only [hpos, if_true, if_false, and_self]
    have hdue : waiting.dispatchBuffered.now + (deadline - run.now) = deadline := by
      rw [hnow]
      omega
    have hcontrol : (waiting.dispatchBuffered.sleep (deadline - run.now)
        fun due => .awaitingConfirmation offer (some due)).control =
          .awaitingConfirmation offer (some deadline) := by
      change Control.awaitingConfirmation offer _ = _
      rw [hdue]
    have hstage : waiting.dispatchBuffered.state.stage = .awaitingCustomerConfirmation := by
      rw [dispatchBuffered_state]
      rfl
    have hwp' : waiting.dispatchBuffered.patches.expiryConfirmation = true := by
      rw [dispatchBuffered_patches]
      exact hp
    rw [hrun]
    exact ⟨hcontrol, hstage, awaiting_honours rfl hwp' hvalid hcontrol hwait⟩

/-- A preview that has been created is offered. -/
theorem step_creatingPreview {branch : Branch} {evidence : Option EvidenceSnapshot}
    {decision : RefundPolicyDecision} {preview : RefundPreview}
    (h : run.control = .creatingPreview branch evidence decision) :
    workflow.step run (.complete (.preview preview)) =
      some ((run.log (.completed (.preview preview))).offerPreview branch evidence decision
        preview) := by
  have hlogged : (run.log (.completed (.preview preview))).control =
    .creatingPreview branch evidence decision := h
  change (run.log (.completed (.preview preview))).complete (.preview preview) = _
  unfold Run.complete
  rw [hlogged]

end Run

/-- The exceptional approval of a takeover leads to an offer that is current exactly as long as
the decision it inherits: without photo evidence the one the takeover was selected on, with
accepted evidence one made after the approval. -/
theorem exceptional_offer_until {s run run' : Run} {es : List RunEvent}
    {evidence : Option EvidenceSnapshot} {decision : RefundPolicyDecision}
    {preview : RefundPreview} (h₀ : s.StartingFresh) (hr : workflow.run s es = some run)
    (hg : workflow.Along Genuine s es)
    (hc : run.control = .creatingPreview .exceptional evidence decision)
    (hp : Genuine run (.complete (.preview preview)) run')
    (hs : workflow.step run (.complete (.preview preview)) = some run') :
    Reviewed .takeoverRequired run.history ∧
    (acceptedEvidence evidence = none → SelectedBy decision run.history) ∧
    ((acceptedEvidence evidence).isSome → Reevaluated decision run.history) ∧
    ∃ release decidedAt, getRefundPolicyRelease decision.policyVersion = .ok release ∧
      JS.Date.parse decision.decidedAt = some decidedAt ∧
      OfferedUntil (decidedAt + release.decisionValiditySeconds * 1000)
        ⟨.exceptional, evidence, decision, preview⟩ run run' := by
  obtain ⟨hsound, hsourced⟩ : Sound run ∧ run.Sourced :=
    Machine.run_invariant_along (I := fun r => Sound r ∧ r.Sourced) Run.sourced_step
      ⟨sound_starting h₀.1, sourced_starting h₀⟩ hg hr
  have hoffered : run.control.offered = false := by
    rw [hc]
    rfl
  obtain ⟨htraced, horigin⟩ := hsourced hoffered
  have hready := hsound.inv
  rw [hc] at horigin hready
  obtain ⟨hinherits, hreevaluated, proposal, refundContext, authorization, hpending⟩ := horigin
  refine ⟨hready.2.2, hinherits, hreevaluated, ?_⟩
  have hevaluated : Evaluated decision := by
    cases haccepted : acceptedEvidence evidence with
    | none =>
      obtain ⟨later, t, t', past, hhistory⟩ := hinherits haccepted
      exact htraced.evaluated t' decision (by rw [hhistory]; simp)
    | some accepted =>
      obtain ⟨later, t, past, hhistory, -⟩ := hreevaluated (by rw [haccepted]; rfl)
      exact htraced.evaluated t decision (by rw [hhistory]; simp)
  obtain ⟨release, decidedAt, hrelease, hdecided, hvalid⟩ := hevaluated.deadline
  refine ⟨release, decidedAt, hrelease, hdecided, ?_⟩
  obtain ⟨input, previewId, createdAt, hinput, hpreview⟩ := hp
  rw [hpending] at hinput
  cases hinput
  obtain ⟨hdeadline, -⟩ := createRefundPreview_eq_ok hpreview
  obtain rfl := Option.some.inj ((Run.step_creatingPreview hc).symm.trans hs)
  exact Run.offerPreview_until hsound.patched.1 hsound.patched.2 (by rw [hdeadline, hvalid])

/-! A takeover at noon, of more than an approval may allow. -/
namespace Sample

def takeoverProposal : RefundProposal where
  proposalId := "proposal-1"
  intent := ⟨"order-1", "DEFECTIVE", .fullOrder, [], some ⟨60000, "USD"⟩⟩

def takeoverContext : RefundContext :=
  { context with facts := ⟨true, true, true, 0, ⟨60000, "USD"⟩, "ORIGINAL_PAYMENT_METHOD"⟩ }

def takeoverInput : EvaluateRefundPolicyInput :=
  ⟨takeoverProposal, takeoverContext, "refund-policy-v1", none⟩

def takeoverDecision : RefundPolicyDecision :=
  (evaluateRefundPolicyActivity takeoverInput
    ⟨"decision-1", "2026-08-08T12:00:00.000Z"⟩).toOption.getD (decision .takeoverRequired)

def takeoverPreview : RefundPreview :=
  (createRefundPreviewActivity
    ⟨takeoverProposal, takeoverContext, takeoverDecision, some ⟨"case-1"⟩⟩
    "preview-1" "2026-08-08T12:00:00.000Z").toOption.getD preview

def noonTakeover : Run :=
  (Run.blank { request with proposal := takeoverProposal } "refund-1" ⟨true, true, true⟩
    1786190400000).start

/-- The supervisor approves after the delay, and a preview is asked for. -/
def approves (decision : RefundPolicyDecision) (delay : ℕ) : List RunEvent :=
  [.complete (.refundContext takeoverContext), .complete (.decision decision),
    .complete (.humanCase "case-1"), .advance delay,
    .signal (.decideRefund ⟨.approveExceptionalRefund, "supervisor-1",
      "2026-08-08T12:00:00.000Z", none⟩),
    .resume, .complete .done, .complete (.refundContext takeoverContext)]

theorem noonTakeover_starting : noonTakeover.StartingFresh :=
  ⟨⟨⟨_, _, _, _, rfl⟩, rfl, rfl⟩, rfl, rfl⟩

theorem takeoverDecision_evaluated : evaluateRefundPolicyActivity takeoverInput
    ⟨"decision-1", "2026-08-08T12:00:00.000Z"⟩ = .ok takeoverDecision :=
  except_eq_ok _ (by decide +kernel)

theorem takeoverPreview_created : createRefundPreviewActivity
    ⟨takeoverProposal, takeoverContext, takeoverDecision, some ⟨"case-1"⟩⟩
    "preview-1" "2026-08-08T12:00:00.000Z" = .ok takeoverPreview :=
  except_eq_ok _ (by decide +kernel)

theorem takeoverPreview_validUntil :
    JS.Date.parse takeoverPreview.validUntil = some 1786191300000 := by decide +kernel

theorem approves_genuine (delay : ℕ) :
    workflow.Along Genuine noonTakeover (approves takeoverDecision delay) := by
  intro refreshed hrefreshed
  refine ⟨trivial, ?_⟩
  obtain rfl := Option.some.inj hrefreshed
  intro evaluated _
  refine ⟨⟨takeoverInput, _, rfl, takeoverDecision_evaluated⟩, ?_⟩
  apply Machine.along_of_forall
  intro e he s t
  simp only [List.mem_cons, List.not_mem_nil, or_false] at he
  rcases he with rfl | rfl | rfl | rfl | rfl | rfl <;> trivial

/-- Whatever the decision is that requires the takeover, the run comes to ask for a preview. -/
theorem approves_run {decision : RefundPolicyDecision} (delay : ℕ)
    (h : decision.effect = .takeoverRequired) :
    ∃ run, workflow.run noonTakeover (approves decision delay) = some run ∧
      run.control = .creatingPreview .exceptional none decision ∧
      pendingActivity run.history = some (.createRefundPreview
        ⟨takeoverProposal, takeoverContext, decision, some ⟨"case-1"⟩⟩) ∧
      run.now = 1786190400000 + delay ∧ run.patches.Expiring := by
  obtain ⟨decisionId, effect⟩ := decision
  cases h
  exact ⟨_, rfl, rfl, rfl, rfl, rfl, rfl⟩

theorem takeoverDecision_effect : takeoverDecision.effect = .takeoverRequired := by
  decide +kernel

end Sample

/-- A minute after the policy decision the offer is put before the customer, who may accept it. -/
theorem prompt_exceptional_offer_shown : ∃ run run',
    workflow.run Sample.noonTakeover (Sample.approves Sample.takeoverDecision 60000) = some run ∧
    workflow.step run (.complete (.preview Sample.takeoverPreview)) = some run' ∧
    ∃ release decidedAt, getRefundPolicyRelease Sample.takeoverDecision.policyVersion =
        .ok release ∧
      JS.Date.parse Sample.takeoverDecision.decidedAt = some decidedAt ∧
      OfferedUntil (decidedAt + release.decisionValiditySeconds * 1000)
        ⟨.exceptional, none, Sample.takeoverDecision, Sample.takeoverPreview⟩ run run' := by
  obtain ⟨run, hrun, hcontrol, hpending, -⟩ :=
    Sample.approves_run 60000 Sample.takeoverDecision_effect
  have hstep : workflow.step run (.complete (.preview Sample.takeoverPreview)) = some _ :=
    Run.step_creatingPreview hcontrol
  obtain ⟨-, -, -, hoffered⟩ := exceptional_offer_until Sample.noonTakeover_starting hrun
    (Sample.approves_genuine _) hcontrol
    ⟨_, _, _, hpending, Sample.takeoverPreview_created⟩ hstep
  exact ⟨run, _, hrun, hstep, hoffered⟩

/-- Sixteen minutes after the policy decision the approved offer ends before the customer can
accept it. -/
theorem late_exceptional_offer_ends : ∃ run run',
    workflow.run Sample.noonTakeover (Sample.approves Sample.takeoverDecision 960000) = some run ∧
    workflow.Along Genuine Sample.noonTakeover (Sample.approves Sample.takeoverDecision 960000) ∧
    run.control = .creatingPreview .exceptional none Sample.takeoverDecision ∧
    Genuine run (.complete (.preview Sample.takeoverPreview)) run' ∧
    workflow.step run (.complete (.preview Sample.takeoverPreview)) = some run' ∧
    isRefundPreviewCurrent Sample.takeoverPreview.validUntil run.now = false ∧
    run'.control = .finished ∧ run'.state.stage = .previewInvalidated := by
  obtain ⟨run, hrun, hcontrol, hpending, hnow, htimer, hconfirmation⟩ :=
    Sample.approves_run 960000 Sample.takeoverDecision_effect
  have huntil : OfferedUntil 1786191300000
      ⟨.exceptional, none, Sample.takeoverDecision, Sample.takeoverPreview⟩ run
      ((run.log (.completed (.preview Sample.takeoverPreview))).offerPreview .exceptional none
        Sample.takeoverDecision Sample.takeoverPreview) :=
    Run.offerPreview_until htimer hconfirmation Sample.takeoverPreview_validUntil
  have hlate : (1786191300000 : ℤ) ≤ run.now := by
    rw [hnow]
    norm_num
  have hexpired : isRefundPreviewCurrent Sample.takeoverPreview.validUntil run.now = false := by
    rw [← Bool.not_eq_true, huntil.current]
    exact not_lt.mpr hlate
  obtain ⟨hfinished, hstage⟩ := huntil.late hlate
  exact ⟨run, _, hrun, Sample.approves_genuine _, hcontrol,
    ⟨_, _, _, hpending, Sample.takeoverPreview_created⟩, Run.step_creatingPreview hcontrol,
    hexpired, hfinished, hstage⟩

end CSO.Workers
