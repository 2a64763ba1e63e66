import CSO.Transition.Progress
import CSO.Workers.Collection

/-! The one deadline of the collection of evidence, its polls and its end. -/
namespace CSO.Workers
open Transition (Machine Always Measure)

/-! The timers and the policy evaluations of a history. -/

/-- No evidence has been opened, or accepted evidence has been seen before the deadline. -/
def Settled (h : List HistoryEvent) : Prop := openedAt h = none ∨ InTime h

/-- A timer of the collection is short and ends by the deadline. Once evidence has been opened
no policy is evaluated unless accepted evidence has been seen before the deadline. -/
def Punctual (e : HistoryEvent) (past : List HistoryEvent) : Prop :=
  match e.occurrence with
  | .timerStarted milliseconds => (openedAt past).isSome → acceptedAt past = none →
      0 < milliseconds ∧ milliseconds ≤ evidencePollInterval ∧
        ∃ deadline, evidenceDeadline past = some deadline ∧ e.time + milliseconds ≤ deadline
  | .scheduled (.evaluateRefundPolicy _) => (openedAt past).isSome → InTime past
  | _ => True

section Settled
variable {e : HistoryEvent} {h es : List HistoryEvent}

theorem Settled.punctual (hs : Settled h) : Punctual e h := by
  unfold Punctual
  split
  · intro hopened haccepted
    rcases hs with hnone | ⟨deadline, seen, -, hseen, -⟩
    · rw [hnone] at hopened
      cases hopened
    · rw [haccepted] at hseen
      cases hseen
  · intro hopened
    rcases hs with hnone | hin
    · rw [hnone] at hopened
      cases hopened
    · exact hin
  · trivial

theorem Settled.cons (hs : Settled h) (he : e.occurrence.snapshot = none ∨
    (pendingActivity h).any Activity.opensEvidence = false) : Settled (e :: h) := by
  rcases hs with hnone | hin
  · exact .inl ((openedAt_quiet he).trans hnone)
  · exact .inr hin.cons

/-- Events that show no evidence settle nothing and unsettle nothing. -/
theorem Settled.append (hs : Settled h) (ha : Always Punctual h)
    (hes : ∀ e ∈ es, e.occurrence.snapshot = none) :
    Settled (es ++ h) ∧ Always Punctual (es ++ h) := by
  induction es with
  | nil => exact ⟨hs, ha⟩
  | cons e es ih =>
    obtain ⟨hsettled, halways⟩ := ih fun f hf => hes f (List.mem_cons_of_mem e hf)
    exact ⟨hsettled.cons (.inl (hes e List.mem_cons_self)), hsettled.punctual, halways⟩

/-- The deadline is fixed once. -/
theorem evidenceDeadline_append {deadline : ℤ} (hd : evidenceDeadline h = some deadline) :
    evidenceDeadline (es ++ h) = some deadline := by
  obtain ⟨opened, hopened, heq⟩ := Option.map_eq_some_iff.mp hd
  unfold evidenceDeadline
  rw [openedAt_append hopened, Option.map_some, heq]

end Settled

/-! What a run knows of its collection. -/

/-- As many polls as fit into the collection period. -/
def maxEvidencePolls : ℕ := 2880

theorem maxEvidencePolls_period :
    evidencePollInterval * maxEvidencePolls = evidenceCollectionPeriod := rfl

/-- The case in which evidence was last seen. -/
def collectedCase (h : List HistoryEvent) : Option String :=
  (h.findSome? fun e => e.occurrence.snapshot).map EvidenceSnapshot.caseId

namespace Run

/-- A run that has not opened any evidence. -/
structure Fresh (run : Run) : Prop where
  unopened : openedAt run.history = none
  accepted : acceptedAt run.history = none
  polls : pollCount run.history = 0
  evidenceRecovery : run.request.evidenceRecovery = none
  recovery : run.request.recovery = none

/-- A run that collects the evidence opened at a time, and has seen none accepted. -/
structure Collecting (run : Run) (opened : ℤ) : Prop where
  begun : openedAt run.history = some opened
  accepted : acceptedAt run.history = none
  polls : pollCount run.history ≤ maxEvidencePolls
  clock : min (opened + evidencePollInterval * (pollCount run.history : ℤ))
    (opened + evidenceCollectionPeriod) ≤ run.now
  recovery : run.request.recovery = none

/-- The case in which evidence was last seen has been closed as expired. -/
def ClosedExpired (run : Run) : Prop :=
  ∃ later t past caseId, run.history = later ++ ⟨t, .completed .done⟩ :: past ∧
    pendingActivity past = some (.closeRefundEvidence run.evidenceAccess caseId .collectionExpired) ∧
    collectedCase past = some caseId

end Run

def Control.Collected (run : Run) : Control → Prop
  | .refreshingContext => run.Fresh ∨ ∃ opened recovery, run.Collecting opened ∧
      run.request.evidenceRecovery = some recovery ∧ run.needsDamagePhoto recovery.decision
  | .evaluatingPolicy _ => run.Fresh
  | .openingEvidence decision => run.needsDamagePhoto decision ∧
      (pendingActivity run.history).any Activity.opensEvidence = true ∧
      (run.Fresh ∨ ∃ opened, run.Collecting opened ∧ run.request.evidenceRecovery.isSome)
  | .sleepingBeforePoll decision deadline _ due => run.needsDamagePhoto decision ∧
      ∃ opened, run.Collecting opened ∧ deadline = opened + evidenceCollectionPeriod ∧
        pollCount run.history < maxEvidencePolls ∧ due ≤ deadline ∧
        min (opened + evidencePollInterval * ((pollCount run.history : ℤ) + 1)) deadline ≤ due
  | .readingEvidence decision deadline _ => run.needsDamagePhoto decision ∧
      (pendingActivity run.history).any Activity.opensEvidence = false ∧
      ∃ opened, run.Collecting opened ∧ deadline = opened + evidenceCollectionPeriod
  | .closingExpiredEvidence _ => (openedAt run.history).isSome ∧
      ∃ caseId, pendingActivity run.history =
          some (.closeRefundEvidence run.evidenceAccess caseId .collectionExpired) ∧
        collectedCase run.history = some caseId
  | .finished => Settled run.history ∨
      (run.state.stage = .evidenceCollectionExpired ∧ run.ClosedExpired)
  | .failed => True
  | control => Settled run.history ∧ (control.readsEvidence = true →
      (pendingActivity run.history).any Activity.opensEvidence = false)

/-- What the history of a run says wherever the run is. -/
structure Run.Tracked (run : Run) : Prop where
  punctual : Always Punctual run.history
  deadline : ∀ recovery, run.request.evidenceRecovery = some recovery →
    evidenceDeadline run.history = some recovery.deadline
  polls : (openedAt run.history).isSome → acceptedAt run.history = none →
    pollCount run.history ≤ maxEvidencePolls

/-- What a run knows of the evidence it collects. -/
structure Run.Collected (run : Run) : Prop where
  tracked : run.Tracked
  control : run.control.Collected run

namespace Run
variable {run run' : Run}

/-- Past the collection only the settled history matters. -/
theorem Beyond.collected (h : run.Beyond) (hs : Settled run.history) :
    run.control.Collected run := by
  obtain ⟨hcontrol, hreads⟩ := h
  generalize run.control = control at hcontrol hreads
  cases control with
  | finished => exact .inl hs
  | failed => trivial
  | refreshingContext => cases hcontrol
  | evaluatingPolicy => cases hcontrol
  | openingEvidence => cases hcontrol
  | sleepingBeforePoll => cases hcontrol
  | readingEvidence => cases hcontrol
  | closingExpiredEvidence => cases hcontrol
  | _ => exact ⟨hs, hreads⟩

theorem Leads.collected (h : run.Leads run') (hs : Settled run.history) (ht : run.Tracked) :
    run'.Collected := by
  obtain ⟨⟨⟨es, hes, hnone⟩, hrecovery⟩, hbeyond⟩ := h
  obtain ⟨hsettled, halways⟩ := hs.append ht.punctual hnone
  rw [← hes] at hsettled halways
  refine ⟨⟨halways, ?_, ?_⟩, hbeyond.collected hsettled⟩
  · intro recovery hr
    rw [hes]
    exact evidenceDeadline_append (ht.deadline recovery (hrecovery.symm.trans hr))
  · intro hopened haccepted
    rcases hsettled with hfresh | ⟨-, seen, -, hseen, -⟩
    · rw [hfresh] at hopened
      cases hopened
    · rw [haccepted] at hseen
      cases hseen


/-! The clock and the signals. -/

/-- The clock has advanced, or a signal has been handled. -/
structure Idles (run run' : Run) : Prop where
  request : run'.request = run.request
  workflowId : run'.workflowId = run.workflowId
  state : run'.state = run.state
  clock : run.now ≤ run'.now
  history : run'.history = run.history ∨
    ∃ t signal, run'.history = ⟨t, .handled signal⟩ :: run.history

section Idles
variable (h : run.Idles run')
include h

theorem Idles.openedAt : openedAt run'.history = openedAt run.history := by
  rcases h.history with heq | ⟨t, signal, heq⟩
  · rw [heq]
  · rw [heq]
    exact openedAt_quiet (.inl rfl)

theorem Idles.acceptedAt : acceptedAt run'.history = acceptedAt run.history := by
  rcases h.history with heq | ⟨t, signal, heq⟩
  · rw [heq]
  · rw [heq]
    exact acceptedAt_quiet rfl

theorem Idles.pollCount : pollCount run'.history = pollCount run.history := by
  rcases h.history with heq | ⟨t, signal, heq⟩
  · rw [heq]
  · rw [heq]
    exact pollCount_cons

theorem Idles.pendingActivity : pendingActivity run'.history = pendingActivity run.history := by
  rcases h.history with heq | ⟨t, signal, heq⟩
  · rw [heq]
  · rw [heq]
    rfl

theorem Idles.collectedCase : collectedCase run'.history = collectedCase run.history := by
  rcases h.history with heq | ⟨t, signal, heq⟩
  · rw [heq]
  · rw [heq]
    rfl

theorem Idles.evidenceAccess : run'.evidenceAccess = run.evidenceAccess := by
  unfold Run.evidenceAccess refreshInput
  rw [h.request, h.workflowId]

theorem Idles.settled (hs : Settled run.history) : Settled run'.history := by
  rcases h.history with heq | ⟨t, signal, heq⟩
  · rwa [heq]
  · rw [heq]
    exact hs.cons (.inl rfl)

theorem Idles.fresh (hf : run.Fresh) : run'.Fresh := by
  obtain ⟨hunopened, haccepted, hpolls, hevidence, hrecovery⟩ := hf
  constructor
  · rw [h.openedAt, hunopened]
  · rw [h.acceptedAt, haccepted]
  · rw [h.pollCount, hpolls]
  · rw [h.request, hevidence]
  · rw [h.request, hrecovery]

theorem Idles.collecting {opened : ℤ} (hc : run.Collecting opened) : run'.Collecting opened := by
  obtain ⟨hbegun, haccepted, hpolls, hclock, hrecovery⟩ := hc
  constructor
  · rw [h.openedAt, hbegun]
  · rw [h.acceptedAt, haccepted]
  · rwa [h.pollCount]
  · rw [h.pollCount]
    exact hclock.trans h.clock
  · rw [h.request, hrecovery]

theorem Idles.needsDamagePhoto {decision : RefundPolicyDecision}
    (hd : run.needsDamagePhoto decision) : run'.needsDamagePhoto decision := by
  unfold Run.needsDamagePhoto
  rwa [h.request]

theorem Idles.closedExpired (hc : run.ClosedExpired) : run'.ClosedExpired := by
  obtain ⟨later, t, past, caseId, heq, hpending, hcase⟩ := hc
  rw [← h.evidenceAccess] at hpending
  rcases h.history with hsame | ⟨t', signal, hcons⟩
  · exact ⟨later, t, past, caseId, hsame.trans heq, hpending, hcase⟩
  · exact ⟨_ :: later, t, past, caseId, by rw [hcons, heq]; rfl, hpending, hcase⟩

theorem Idles.control {control : Control} (hc : control.Collected run) :
    control.Collected run' := by
  cases control with
  | refreshingContext =>
    rcases hc with hfresh | ⟨opened, recovery, hcollecting, hrecovery, hphoto⟩
    · exact .inl (h.fresh hfresh)
    · exact .inr ⟨opened, recovery, h.collecting hcollecting, h.request ▸ hrecovery,
        h.needsDamagePhoto hphoto⟩
  | evaluatingPolicy => exact h.fresh hc
  | openingEvidence =>
    obtain ⟨hphoto, hpending, hbegun⟩ := hc
    refine ⟨h.needsDamagePhoto hphoto, h.pendingActivity ▸ hpending, ?_⟩
    rcases hbegun with hfresh | ⟨opened, hcollecting, hrecovery⟩
    · exact .inl (h.fresh hfresh)
    · exact .inr ⟨opened, h.collecting hcollecting, h.request ▸ hrecovery⟩
  | sleepingBeforePoll =>
    obtain ⟨hphoto, opened, hcollecting, hdeadline, hpolls, hdue, hslept⟩ := hc
    exact ⟨h.needsDamagePhoto hphoto, opened, h.collecting hcollecting, hdeadline,
      h.pollCount ▸ hpolls, hdue, h.pollCount ▸ hslept⟩
  | readingEvidence =>
    obtain ⟨hphoto, hpending, opened, hcollecting, hdeadline⟩ := hc
    exact ⟨h.needsDamagePhoto hphoto, h.pendingActivity ▸ hpending, opened,
      h.collecting hcollecting, hdeadline⟩
  | closingExpiredEvidence =>
    obtain ⟨hopened, caseId, hpending, hcase⟩ := hc
    refine ⟨h.openedAt ▸ hopened, caseId, ?_, h.collectedCase ▸ hcase⟩
    rw [h.pendingActivity, h.evidenceAccess, hpending]
  | finished =>
    rcases hc with hsettled | ⟨hstage, hclosed⟩
    · exact .inl (h.settled hsettled)
    · exact .inr ⟨h.state ▸ hstage, h.closedExpired hclosed⟩
  | failed => trivial
  | _ => exact ⟨h.settled hc.1, h.pendingActivity ▸ hc.2⟩

theorem Idles.collected (hcontrol : run'.control = run.control) (hc : run.Collected) :
    run'.Collected := by
  obtain ⟨⟨hpunctual, hdeadline, hpolls⟩, hcollected⟩ := hc
  refine ⟨⟨?_, ?_, ?_⟩, ?_⟩
  · rcases h.history with heq | ⟨t, signal, heq⟩
    · rwa [heq]
    · rw [heq]
      exact ⟨trivial, hpunctual⟩
  · intro recovery hrecovery
    unfold evidenceDeadline
    rw [h.openedAt]
    exact hdeadline recovery (h.request ▸ hrecovery)
  · rw [h.openedAt, h.acceptedAt, h.pollCount]
    exact hpolls
  · rw [hcontrol]
    exact h.control hcollected

end Idles

/-! The steps of the collection. -/

theorem Tracked.log {o : Occurrence} (h : run.Tracked)
    (hp : Punctual ⟨run.now, o⟩ run.history)
    (ho : o.snapshot = none ∨ (pendingActivity run.history).any Activity.opensEvidence = false ∨
      (openedAt run.history).isSome)
    (hn : o.polls = true → (openedAt run.history).isSome →
      pollCount run.history < maxEvidencePolls) : (run.log o).Tracked := by
  have hopened : openedAt (run.log o).history = openedAt run.history := by
    rcases ho with hnone | hother | hsome
    · exact openedAt_quiet (.inl hnone)
    · exact openedAt_quiet (.inr hother)
    · obtain ⟨opened, hopened⟩ := Option.isSome_iff_exists.mp hsome
      rw [hopened]
      exact openedAt_stays hopened
  refine ⟨⟨hp, h.punctual⟩, ?_, ?_⟩
  · intro recovery hrecovery
    unfold evidenceDeadline
    rw [hopened]
    exact h.deadline recovery hrecovery
  · intro hsome haccepted
    rw [hopened] at hsome
    have hcount : pollCount (run.log o).history = pollCount run.history +
        if o.polls then 1 else 0 := pollCount_cons
    have hle := h.polls hsome (acceptedAt_none_of_cons haccepted)
    rw [hcount]
    split_ifs with hpolls
    · exact hn hpolls hsome
    · omega

/-- A run that has just been shown evidence. -/
structure Shown (run : Run) (opened : ℤ) (evidence : EvidenceSnapshot) : Prop where
  tracked : run.Tracked
  begun : openedAt run.history = some opened
  accepted : acceptedAt run.history = if evidence.accepted.isSome then some run.now else none
  case : collectedCase run.history = some evidence.caseId
  clock : min (opened + evidencePollInterval * (pollCount run.history : ℤ))
    (opened + evidenceCollectionPeriod) ≤ run.now
  polls : pollCount run.history ≤ maxEvidencePolls
  recovery : run.request.recovery = none

section Shown
variable {opened : ℤ} {evidence : EvidenceSnapshot} {decision : RefundPolicyDecision}
  (h : run.Shown opened evidence)
include h

theorem Shown.closeExpiredEvidence :
    (run.closeExpiredEvidence evidence.caseId decision).Collected := by
  have ht : (run.log (.scheduled (.closeRefundEvidence run.evidenceAccess evidence.caseId
      .collectionExpired))).Tracked := h.tracked.log trivial (.inl rfl) (fun hp => by cases hp)
  have hopened := openedAt_stays (e := ⟨run.now, .scheduled (.closeRefundEvidence
    run.evidenceAccess evidence.caseId .collectionExpired)⟩) h.begun
  exact ⟨⟨ht.punctual, ht.deadline, ht.polls⟩, Option.isSome_of_eq_some hopened,
    evidence.caseId, rfl, h.case⟩

theorem Shown.collecting (hnone : evidence.accepted = none) : run.Collecting opened := by
  refine ⟨h.begun, ?_, h.polls, h.clock, h.recovery⟩
  rw [h.accepted, hnone]
  rfl

/-- Before the deadline another poll fits. -/
theorem Shown.polls_lt (hearly : run.now < opened + evidenceCollectionPeriod) :
    pollCount run.history < maxEvidencePolls := by
  have hclock := h.clock
  rw [← maxEvidencePolls_period] at hclock hearly
  by_contra hmany
  have heq : pollCount run.history = maxEvidencePolls :=
    Nat.le_antisymm h.polls (Nat.not_lt.mp hmany)
  rw [heq, min_self] at hclock
  omega

theorem Shown.sleep {polls : ℕ} (hd : run.needsDamagePhoto decision)
    (hnone : evidence.accepted = none) (hearly : run.now < opened + evidenceCollectionPeriod) :
    ((run.setState { stage := evidenceStage evidence, decision := some decision }).sleep
      (min evidencePollInterval (opened + evidenceCollectionPeriod - run.now))
      (.sleepingBeforePoll decision (opened + evidenceCollectionPeriod) polls)).Collected := by
  have hpositive : 0 < min evidencePollInterval (opened + evidenceCollectionPeriod - run.now) :=
    lt_min (by decide) (by omega)
  have hshort := min_le_left evidencePollInterval (opened + evidenceCollectionPeriod - run.now)
  have hwithin := min_le_right evidencePollInterval (opened + evidenceCollectionPeriod - run.now)
  generalize hm : min evidencePollInterval (opened + evidenceCollectionPeriod - run.now) =
    milliseconds at *
  have hdeadline : evidenceDeadline run.history = some (opened + evidenceCollectionPeriod) := by
    unfold evidenceDeadline
    rw [h.begun]
    rfl
  have ht : (run.log (.timerStarted milliseconds)).Tracked := by
    refine h.tracked.log ?_ (.inl rfl) (fun hp => by cases hp)
    intro _ _
    exact ⟨hpositive, hshort, _, hdeadline, by change run.now + _ ≤ _; omega⟩
  have hc := h.collecting hnone
  have hcollecting : (run.log (.timerStarted milliseconds)).Collecting opened :=
    ⟨openedAt_stays hc.begun, (acceptedAt_quiet rfl).trans hc.accepted,
      hc.polls, hc.clock, hc.recovery⟩
  refine ⟨⟨ht.punctual, ht.deadline, ht.polls⟩, hd, opened,
    ⟨hcollecting.begun, hcollecting.accepted, hcollecting.polls, hcollecting.clock,
      hcollecting.recovery⟩, rfl, h.polls_lt hearly, ?_, ?_⟩
  · change run.now + milliseconds ≤ _
    omega
  · have hclock := h.clock
    change min (opened + evidencePollInterval * ((pollCount run.history : ℤ) + 1)) _ ≤
      run.now + milliseconds
    rw [mul_add, mul_one]
    omega

theorem Shown.awaitEvidence {polls : ℕ} (hd : run.needsDamagePhoto decision) :
    (run.awaitEvidence evidence decision (opened + evidenceCollectionPeriod) polls).Collected := by
  unfold Run.awaitEvidence
  split
  · rename_i hnone
    split_ifs with hlate
    · exact h.closeExpiredEvidence
    · exact h.sleep hd hnone (Int.not_le.mp hlate)
  · rename_i accepted haccepted
    split_ifs with hlate
    · exact h.closeExpiredEvidence
    · have hin : InTime run.history := by
        refine ⟨opened + evidenceCollectionPeriod, run.now, ?_, ?_, Int.not_le.mp hlate⟩
        · unfold evidenceDeadline
          rw [h.begun]
          rfl
        · rw [h.accepted, haccepted]
          rfl
      exact (leads_quiet rfl rfl).collected (.inr hin) h.tracked

end Shown

/-- A result that shows no evidence. -/
theorem Tracked.completed {result : ActivityResult} (h : run.Tracked)
    (hr : (Occurrence.completed result).snapshot = none ∨
      (pendingActivity run.history).any Activity.opensEvidence = false) :
    (run.log (.completed result)).Tracked :=
  h.log trivial (hr.imp_right .inl) (fun hp => by cases hp)

theorem Fresh.log {o : Occurrence} (h : run.Fresh) (hs : o.snapshot = none)
    (hp : o.polls = false) : (run.log o).Fresh := by
  refine ⟨(openedAt_quiet (.inl hs)).trans h.unopened, ?_, ?_, h.evidenceRecovery, h.recovery⟩
  · refine (acceptedAt_quiet ?_).trans h.accepted
    change o.snapshot.bind _ = none
    rw [hs]
    rfl
  · refine pollCount_cons.trans ?_
    rw [h.polls, if_neg (by simpa using hp)]

theorem Collecting.log {o : Occurrence} {opened : ℤ} (h : run.Collecting opened)
    (hs : o.snapshot = none) (hp : o.polls = false) : (run.log o).Collecting opened := by
  have hcount : pollCount (run.log o).history = pollCount run.history := by
    refine pollCount_cons.trans ?_
    rw [if_neg (by simpa using hp), Nat.add_zero]
  refine ⟨openedAt_stays h.begun, ?_, by rw [hcount]; exact h.polls, ?_, h.recovery⟩
  · refine (acceptedAt_quiet ?_).trans h.accepted
    change o.snapshot.bind _ = none
    rw [hs]
    rfl
  · rw [hcount]
    exact h.clock

/-- A snapshot in a collection that has begun. -/
theorem Collecting.shown {opened : ℤ} (h : run.Collecting opened) (ht : run.Tracked)
    (evidence : EvidenceSnapshot) :
    (run.log (.completed (.evidence evidence))).Shown opened evidence := by
  have hbegun := openedAt_stays (e := ⟨run.now, .completed (.evidence evidence)⟩) h.begun
  have hcount : pollCount (run.log (.completed (.evidence evidence))).history =
      pollCount run.history := pollCount_cons
  refine ⟨?_, hbegun, ?_, rfl, by rw [hcount]; exact h.clock, by rw [hcount]; exact h.polls,
    h.recovery⟩
  · exact ht.log trivial (.inr (.inr (Option.isSome_of_eq_some h.begun))) (fun hp => by cases hp)
  · change (acceptedAt run.history).or _ = _
    rw [h.accepted, Option.none_or]
    rfl

/-- The first snapshot fixes the deadline. -/
theorem Fresh.shown (h : run.Fresh) (ht : run.Tracked)
    (hp : (pendingActivity run.history).any Activity.opensEvidence = true)
    (evidence : EvidenceSnapshot) :
    (run.log (.completed (.evidence evidence))).Shown run.now evidence := by
  have hbegun : openedAt (run.log (.completed (.evidence evidence))).history = some run.now := by
    change (openedAt run.history).or _ = _
    rw [h.unopened, Option.none_or, if_pos ⟨rfl, hp⟩]
  have hcount : pollCount (run.log (.completed (.evidence evidence))).history = 0 :=
    pollCount_cons.trans h.polls
  refine ⟨⟨⟨trivial, ht.punctual⟩, ?_, fun _ _ => by rw [hcount]; exact Nat.zero_le _⟩, hbegun, ?_,
    rfl, ?_, by rw [hcount]; exact Nat.zero_le _, h.recovery⟩
  · intro recovery hrecovery
    have hnone : run.request.evidenceRecovery = some recovery := hrecovery
    rw [h.evidenceRecovery] at hnone
    cases hnone
  · change (acceptedAt run.history).or _ = _
    rw [h.accepted, Option.none_or]
    rfl
  · rw [hcount]
    change min (run.now + evidencePollInterval * 0) _ ≤ run.now
    rw [mul_zero, add_zero]
    exact min_le_left _ _

theorem Tracked.deadline_eq {opened : ℤ} {recovery : EvidenceRecovery} (ht : run.Tracked)
    (hb : openedAt run.history = some opened)
    (hr : run.request.evidenceRecovery = some recovery) :
    recovery.deadline = opened + evidenceCollectionPeriod := by
  have hd := ht.deadline recovery hr
  unfold evidenceDeadline at hd
  rw [hb] at hd
  exact (Option.some.inj hd).symm

theorem afterPolicy_collected {refundContext : RefundContext} {decision : RefundPolicyDecision}
    (ht : run.Tracked) (hb : run.Fresh ∨ ∃ opened, run.Collecting opened ∧
      run.request.evidenceRecovery.isSome ∧ run.needsDamagePhoto decision) :
    (run.afterPolicy refundContext decision).Collected := by
  unfold Run.afterPolicy
  split_ifs with hphoto
  · have hl := ht.log (o := .scheduled (.openRefundEvidence (buildOpenHumanCaseInput run.request
      run.workflowId decision none .refundEvidenceReview []))) trivial (.inl rfl)
      (fun hp => by cases hp)
    refine ⟨⟨hl.punctual, hl.deadline, hl.polls⟩, hphoto, rfl, ?_⟩
    rcases hb with hfresh | ⟨opened, hcollecting, hrecovery, -⟩
    · left
      have hf := hfresh.log (o := .scheduled (.openRefundEvidence (buildOpenHumanCaseInput
        run.request run.workflowId decision none .refundEvidenceReview []))) rfl rfl
      exact ⟨hf.unopened, hf.accepted, hf.polls, hf.evidenceRecovery, hf.recovery⟩
    · right
      have hc := hcollecting.log (o := .scheduled (.openRefundEvidence (buildOpenHumanCaseInput
        run.request run.workflowId decision none .refundEvidenceReview []))) rfl rfl
      exact ⟨opened, ⟨hc.begun, hc.accepted, hc.polls, hc.clock, hc.recovery⟩, hrecovery⟩
  · rcases hb with hfresh | ⟨-, -, -, hneeds⟩
    · exact leads_selectBranch.collected (.inl hfresh.unopened) ht
    · exact absurd hneeds hphoto

theorem afterContext_collected {refundContext : RefundContext} (ht : run.Tracked)
    (hb : run.Fresh ∨ ∃ opened recovery, run.Collecting opened ∧
      run.request.evidenceRecovery = some recovery ∧ run.needsDamagePhoto recovery.decision) :
    (run.afterContext refundContext).Collected := by
  unfold Run.afterContext
  rcases hb with hfresh | ⟨opened, recovery, hcollecting, hrecovery, hphoto⟩
  · rw [hfresh.evidenceRecovery]
    have hsettled : Settled run.history := .inl hfresh.unopened
    have hl := ht.log (o := .scheduled (.evaluateRefundPolicy (run.evaluateInput refundContext
      none))) hsettled.punctual (.inl rfl) (fun hp => by cases hp)
    have hf := hfresh.log (o := .scheduled (.evaluateRefundPolicy (run.evaluateInput refundContext
      none))) rfl rfl
    exact ⟨⟨hl.punctual, hl.deadline, hl.polls⟩,
      ⟨hf.unopened, hf.accepted, hf.polls, hf.evidenceRecovery, hf.recovery⟩⟩
  · rw [hrecovery]
    exact afterPolicy_collected ht
      (.inr ⟨opened, hcollecting, Option.isSome_of_eq_some hrecovery, hphoto⟩)

theorem afterEvidenceOpened_collected {decision : RefundPolicyDecision}
    {evidence : EvidenceSnapshot} (ht : run.Tracked) (hd : run.needsDamagePhoto decision)
    (hp : (pendingActivity run.history).any Activity.opensEvidence = true)
    (hb : run.Fresh ∨ ∃ opened, run.Collecting opened ∧ run.request.evidenceRecovery.isSome) :
    ((run.log (.completed (.evidence evidence))).afterEvidenceOpened decision
      evidence).Collected := by
  unfold Run.afterEvidenceOpened
  rcases hb with hfresh | ⟨opened, hcollecting, hrecovery⟩
  · have hnone : (run.log (.completed (.evidence evidence))).request.evidenceRecovery = none :=
      hfresh.evidenceRecovery
    rw [hnone]
    exact (hfresh.shown ht hp evidence).awaitEvidence hd
  · obtain ⟨recovery, hsome⟩ := Option.isSome_iff_exists.mp hrecovery
    have hsame : (run.log (.completed (.evidence evidence))).request.evidenceRecovery =
        some recovery := hsome
    rw [hsame]
    simp only
    rw [ht.deadline_eq hcollecting.begun hsome]
    exact (hcollecting.shown ht evidence).awaitEvidence hd

/-- The next run collects for the same decision until the same deadline. -/
theorem Shown.continueAsNew {opened : ℤ} {evidence : EvidenceSnapshot}
    {decision : RefundPolicyDecision} (h : run.Shown opened evidence)
    (hd : run.needsDamagePhoto decision) (hnone : evidence.accepted = none) :
    (run.continueAsNew { run.request with
      evidenceRecovery := some ⟨opened + evidenceCollectionPeriod, decision⟩ }).Collected := by
  let request : RefundWorkflowRequest := { run.request with
    evidenceRecovery := some ⟨opened + evidenceCollectionPeriod, decision⟩ }
  let refresh : Activity := .refreshRefundContext ⟨request.proposal, run.workflowId, request.access⟩
  have hcontinued : (run.continueAsNew request).history = ⟨run.now, .scheduled refresh⟩ ::
      ⟨run.now, .continuedAsNew request⟩ :: run.history := by
    have hrecovery : request.recovery = none := h.recovery
    unfold Run.continueAsNew Run.start
    simp only
    rw [hrecovery]
    rfl
  have hrest : (run.continueAsNew request).request = request ∧
      (run.continueAsNew request).now = run.now ∧
      (run.continueAsNew request).control = .refreshingContext := by
    have hrecovery : request.recovery = none := h.recovery
    unfold Run.continueAsNew Run.start
    simp only
    rw [hrecovery]
    exact ⟨rfl, rfl, rfl⟩
  obtain ⟨hrequest, hnow, hcontrol⟩ := hrest
  have hc := ((h.collecting hnone).log (o := .continuedAsNew request) rfl rfl).log
    (o := .scheduled refresh) rfl rfl
  have ht := (h.tracked.log (o := .continuedAsNew request) trivial (.inl rfl)
    (fun hp => by cases hp)).log (o := .scheduled refresh) trivial (.inl rfl)
    (fun hp => by cases hp)
  have hcollecting : (run.continueAsNew request).Collecting opened := by
    constructor
    · rw [hcontinued]
      exact hc.begun
    · rw [hcontinued]
      exact hc.accepted
    · rw [hcontinued]
      exact hc.polls
    · rw [hcontinued, hnow]
      exact hc.clock
    · rw [hrequest]
      exact h.recovery
  refine ⟨⟨?_, ?_, ?_⟩, ?_⟩
  · rw [hcontinued]
    exact ht.punctual
  · intro recovery hrecovery
    rw [hrequest] at hrecovery
    cases hrecovery
    unfold evidenceDeadline
    rw [hcollecting.begun]
    rfl
  · exact fun _ _ => hcollecting.polls
  · rw [hcontrol]
    refine .inr ⟨opened, ⟨opened + evidenceCollectionPeriod, decision⟩, hcollecting, ?_, ?_⟩
    · rw [hrequest]
    · unfold Run.needsDamagePhoto
      rw [hrequest]
      exact hd

theorem Shown.afterEvidenceRead {opened : ℤ} {evidence : EvidenceSnapshot}
    {decision : RefundPolicyDecision} {polls : ℕ} (h : run.Shown opened evidence)
    (hd : run.needsDamagePhoto decision) :
    (run.afterEvidenceRead decision (opened + evidenceCollectionPeriod) polls
      evidence).Collected := by
  unfold Run.afterEvidenceRead
  split_ifs with hcut
  · exact h.continueAsNew hd hcut.2.1
  · exact h.awaitEvidence hd

/-! The steps of a run. -/

theorem Collected.settled (h : run.Collected) (hc : run.control.collects = false)
    (hopen : run.control.closed = false) : Settled run.history ∧
      (run.control.readsEvidence = true →
        (pendingActivity run.history).any Activity.opensEvidence = false) := by
  have hcollected := h.control
  generalize run.control = control at hcollected hc hopen ⊢
  cases control with
  | finished => cases hopen
  | failed => cases hopen
  | refreshingContext => cases hc
  | evaluatingPolicy => cases hc
  | openingEvidence => cases hc
  | sleepingBeforePoll => cases hc
  | readingEvidence => cases hc
  | closingExpiredEvidence => cases hc
  | _ => exact hcollected

/-- Only the awaits that read evidence are shown any. -/
theorem Returns.snapshot {control : Control} {result : ActivityResult}
    (hr : run.Returns control result run') (hc : control.collects = false) :
    (Occurrence.completed result).snapshot = none ∨ control.readsEvidence = true := by
  cases hr with
  | readingTakeoverEvidence => exact .inr rfl
  | readingExecutionEvidence => exact .inr rfl
  | openingEvidence => cases hc
  | readingEvidence => cases hc
  | _ => exact .inl rfl

theorem Returns.open {control : Control} {result : ActivityResult}
    (hr : run.Returns control result run') : control.closed = false := by
  cases hr <;> rfl

theorem Wakes.open {control : Control} (hw : run.Wakes control run') :
    control.closed = false := by
  cases hw <;> rfl

theorem Collected.returns {result : ActivityResult} (h : run.Collected)
    (hr : (run.log (.completed result)).Returns run.control result run') : run'.Collected := by
  by_cases hcollects : run.control.collects = true
  · obtain ⟨ht, hcontrol⟩ := h
    generalize run.control = control at hcontrol hr hcollects
    cases hr with
    | refreshingContext refundContext =>
      refine afterContext_collected (ht.completed (.inl rfl)) ?_
      rcases hcontrol with hfresh | ⟨opened, recovery, hcollecting, hrecovery, hphoto⟩
      · exact .inl (hfresh.log rfl rfl)
      · exact .inr ⟨opened, recovery, hcollecting.log rfl rfl, hrecovery, hphoto⟩
    | evaluatingPolicy refundContext decision =>
      exact afterPolicy_collected (ht.completed (.inl rfl))
        (.inl (Fresh.log hcontrol rfl rfl))
    | openingEvidence decision evidence =>
      obtain ⟨hphoto, hpending, hbegun⟩ := hcontrol
      exact afterEvidenceOpened_collected ht hphoto hpending hbegun
    | readingEvidence decision deadline polls evidence =>
      obtain ⟨hphoto, -, opened, hcollecting, rfl⟩ := hcontrol
      exact (hcollecting.shown ht evidence).afterEvidenceRead hphoto
    | closingExpiredEvidence decision =>
      obtain ⟨-, caseId, hpending, hcase⟩ := hcontrol
      have hl : (run.log (.completed .done)).Tracked := ht.completed (.inl rfl)
      exact ⟨⟨hl.punctual, hl.deadline, hl.polls⟩,
        .inr ⟨rfl, [], run.now, run.history, caseId, rfl, hpending, hcase⟩⟩
    | _ => cases hcollects
  · have hbeyond : run.control.collects = false := by simpa using hcollects
    obtain ⟨hsettled, hreads⟩ := h.settled hbeyond hr.open
    have hquiet := (hr.snapshot hbeyond).imp_right hreads
    exact (hr.leads hbeyond).collected (hsettled.cons hquiet) (h.tracked.completed hquiet)

theorem Collected.wakes (h : run.Collected) (hw : run.Wakes run.control run') :
    run'.Collected := by
  by_cases hcollects : run.control.collects = true
  · obtain ⟨ht, hcontrol⟩ := h
    generalize run.control = control at hcontrol hw hcollects
    cases hw with
    | sleptBeforePoll decision deadline polls due hdue =>
      obtain ⟨hphoto, opened, hcollecting, rfl, hpolls, -, hslept⟩ := hcontrol
      have hl := ht.log (o := .scheduled (.readRefundEvidence run.evidenceAccess)) trivial
        (.inl rfl) (fun _ _ => hpolls)
      have hcount : pollCount (run.schedule (.readRefundEvidence run.evidenceAccess)
          (.readingEvidence decision (opened + evidenceCollectionPeriod) polls)).history =
            pollCount run.history + 1 := pollCount_cons
      refine ⟨⟨hl.punctual, hl.deadline, hl.polls⟩, hphoto, rfl, opened, ?_, rfl⟩
      refine ⟨openedAt_stays hcollecting.begun, (acceptedAt_quiet rfl).trans hcollecting.accepted,
        ?_, ?_, hcollecting.recovery⟩
      · rw [hcount]
        exact hpolls
      · rw [hcount, Nat.cast_add, Nat.cast_one]
        exact hslept.trans hdue
    | _ => cases hcollects
  · have hbeyond : run.control.collects = false := by simpa using hcollects
    obtain ⟨hsettled, -⟩ := h.settled hbeyond hw.open
    exact (hw.leads hbeyond).collected hsettled h.tracked

theorem idles_handle {signal : Signal} (hs : run.handle signal = some run') : run.Idles run' := by
  rw [handle_frame hs]
  exact ⟨rfl, rfl, rfl, le_refl _, .inr ⟨run.now, signal, rfl⟩⟩

theorem collected_step (run : Run) (e : RunEvent) (run' : Run) (h : run.Collected)
    (hs : workflow.step run e = some run') : run'.Collected := by
  refine workflow_step_cases ?_ ?_ ?_ ?_ (fun _ _ _ => h.returns) (fun _ => h.wakes) hs
  · intro milliseconds
    have hi : run.Idles { run with now := run.now + milliseconds } :=
      ⟨rfl, rfl, rfl, Int.le_add_of_nonneg_right (Int.natCast_nonneg _), .inl rfl⟩
    exact hi.collected rfl h
  · intro signal r hr
    have hcontrol : r.control = run.control := by rw [handle_frame hr]
    exact (idles_handle hr).collected hcontrol h
  · intro buffered
    have hi : run.Idles { run with buffered } := ⟨rfl, rfl, rfl, le_refl _, .inl rfl⟩
    exact hi.collected rfl h
  · exact ⟨⟨h.tracked.punctual, h.tracked.deadline, h.tracked.polls⟩, trivial⟩

end Run

/-- The first run of a chain. -/
def Run.StartingChain (run : Run) : Prop := run.Starting ∧ run.request.evidenceRecovery = none

theorem collected_starting {run : Run} (h : run.StartingChain) : run.Collected := by
  obtain ⟨⟨request, workflowId, patches, now, rfl⟩, hnone⟩ := h
  rw [Run.start_request] at hnone
  let blank := Run.blank request workflowId patches now
  have ht : blank.Tracked := by
    refine ⟨trivial, ?_, fun _ _ => Nat.zero_le _⟩
    intro recovery hrecovery
    rw [hnone] at hrecovery
    cases hrecovery
  change blank.start.Collected
  unfold Run.start
  split
  · refine Run.Leads.collected (Run.Extends.setState.leads Run.leads_reconcilePendingRefund)
      (.inl rfl) ht
  · rename_i hrecovery
    have hf : blank.Fresh := ⟨rfl, rfl, rfl, hnone, hrecovery⟩
    have hl := ht.log (o := .scheduled (.refreshRefundContext blank.refreshInput)) trivial
      (.inl rfl) (fun hp => by cases hp)
    have hfl := hf.log (o := .scheduled (.refreshRefundContext blank.refreshInput)) rfl rfl
    exact ⟨⟨hl.punctual, hl.deadline, hl.polls⟩,
      .inl ⟨hfl.unopened, hfl.accepted, hfl.polls, hfl.evidenceRecovery, hfl.recovery⟩⟩

theorem collected_reachable {run : Run} (h : workflow.Reachable Run.StartingChain run) :
    run.Collected :=
  h.invariant (fun _ => collected_starting) Run.collected_step

/-! The end of a collection. -/

/-- An activity returns, a condition holds, or a timer fires. -/
def RunEvent.progresses : RunEvent → Bool
  | .complete _ | .resume | .wake => true
  | .advance _ | .signal _ | .fail => false

/-- How often a run that is shown no accepted evidence can still make progress. -/
def Run.remaining (run : Run) : ℕ :=
  match run.control with
  | .readingEvidence .. => 4 * (maxEvidencePolls - pollCount run.history) + 4
  | .refreshingContext => 4 * (maxEvidencePolls - pollCount run.history) + 3
  | .openingEvidence .. => 4 * (maxEvidencePolls - pollCount run.history) + 2
  | .sleepingBeforePoll .. => 4 * (maxEvidencePolls - pollCount run.history) + 1
  | .closingExpiredEvidence .. => 1
  | _ => 0

/-- The run has opened evidence and has seen none accepted. -/
structure Run.Unanswered (run : Run) : Prop where
  collected : run.Collected
  opened : (openedAt run.history).isSome
  accepted : acceptedAt run.history = none
  active : run.control ≠ .failed

/-- No accepted evidence is seen, and no activity fails for good. -/
def StaysUnanswered (_ : Run) (e : RunEvent) (run' : Run) : Prop :=
  acceptedAt run'.history = none ∧ e ≠ .fail

namespace Run
variable {run run' : Run}

theorem Unanswered.unsettled (h : run.Unanswered) : ¬Settled run.history := by
  rintro (hnone | ⟨-, seen, -, hseen, -⟩)
  · have hopened := h.opened
    rw [hnone] at hopened
    cases hopened
  · rw [h.accepted] at hseen
    cases hseen

theorem Unanswered.collects (h : run.Unanswered) (hopen : run.control.closed = false) :
    run.control.collects = true := by
  by_contra hcollects
  exact h.unsettled (h.collected.settled (by simpa using hcollects) hopen).1

/-- The run has not been shown accepted evidence and is further on. -/
structure Nears (run : Run) (remaining : ℕ) : Prop where
  remaining : run.remaining ≤ remaining
  active : run.control ≠ .failed

theorem nears_closeExpiredEvidence {caseId : String} {decision : RefundPolicyDecision} {n : ℕ} :
    (run.closeExpiredEvidence caseId decision).Nears (n + 1) :=
  ⟨Nat.le_add_left 1 n, fun h => by cases h⟩

theorem nears_awaitEvidence {evidence : EvidenceSnapshot} {decision : RefundPolicyDecision}
    {deadline : ℤ} {polls : ℕ} (hnone : evidence.accepted = none) :
    (run.awaitEvidence evidence decision deadline polls).Nears
      (4 * (maxEvidencePolls - pollCount run.history) + 1) := by
  unfold awaitEvidence
  rw [hnone]
  simp only
  split_ifs
  · exact nears_closeExpiredEvidence
  · refine ⟨?_, fun h => by cases h⟩
    exact le_of_eq rfl

theorem nears_afterPolicy {refundContext : RefundContext} {decision : RefundPolicyDecision}
    (hphoto : run.needsDamagePhoto decision) : (run.afterPolicy refundContext decision).Nears
      (4 * (maxEvidencePolls - pollCount run.history) + 2) := by
  unfold afterPolicy
  rw [if_pos hphoto]
  exact ⟨le_of_eq rfl, fun h => by cases h⟩

theorem nears_continueAsNew {request : RefundWorkflowRequest} (hnone : request.recovery = none) :
    (run.continueAsNew request).Nears
      (4 * (maxEvidencePolls - pollCount run.history) + 3) := by
  unfold continueAsNew start
  simp only
  rw [hnone]
  exact ⟨le_of_eq rfl, fun h => by cases h⟩

theorem nears_afterEvidenceOpened {evidence : EvidenceSnapshot} {decision : RefundPolicyDecision}
    (hnone : evidence.accepted = none) : (run.afterEvidenceOpened decision evidence).Nears
      (4 * (maxEvidencePolls - pollCount run.history) + 1) := nears_awaitEvidence hnone

theorem nears_afterEvidenceRead {evidence : EvidenceSnapshot} {decision : RefundPolicyDecision}
    {deadline : ℤ} {polls : ℕ} (hrecovery : run.request.recovery = none)
    (hnone : evidence.accepted = none) :
    (run.afterEvidenceRead decision deadline polls evidence).Nears
      (4 * (maxEvidencePolls - pollCount run.history) + 3) := by
  unfold afterEvidenceRead
  split_ifs
  · exact nears_continueAsNew hrecovery
  · have hn : (run.awaitEvidence evidence decision deadline (polls + 1)).Nears
        (4 * (maxEvidencePolls - pollCount run.history) + 1) := nears_awaitEvidence hnone
    have hremaining := hn.remaining
    exact ⟨by omega, hn.active⟩

/-- A snapshot with accepted evidence would have been seen. -/
theorem accepted_none_of_shown {evidence : EvidenceSnapshot}
    (h : (run.log (.completed (.evidence evidence))).Grows run')
    (hnone : acceptedAt run'.history = none) : evidence.accepted = none := by
  rw [h.acceptedAt] at hnone
  have hnew := (Option.or_eq_none_iff.mp hnone).2
  by_contra haccepted
  have hsome : evidence.accepted.isSome := Option.isSome_iff_ne_none.mpr haccepted
  change (if evidence.accepted.isSome = true then _ else _) = none at hnew
  rw [if_pos hsome] at hnew
  cases hnew

theorem Unanswered.returns {result : ActivityResult} (h : run.Unanswered)
    (hr : (run.log (.completed result)).Returns run.control result run')
    (hnone : acceptedAt run'.history = none) :
    run'.remaining + 1 ≤ run.remaining ∧ run'.control ≠ .failed := by
  have hcollects := h.collects hr.open
  have hcontrol := h.collected.control
  have hopened := h.opened
  unfold remaining
  generalize run.control = control at hr hcollects hcontrol ⊢
  have hgrows := hr.grows
  cases hr with
  | refreshingContext refundContext =>
    rcases hcontrol with hfresh | ⟨opened, recovery, -, hrecovery, hphoto⟩
    · rw [hfresh.unopened] at hopened
      cases hopened
    · have hn : ((run.log (.completed (.refundContext refundContext))).afterContext
          refundContext).Nears (4 * (maxEvidencePolls - pollCount run.history) + 2) := by
        have hsame : (run.log (.completed (.refundContext refundContext))).request.evidenceRecovery
          = some recovery := hrecovery
        unfold afterContext
        rw [hsame]
        exact nears_afterPolicy hphoto
      exact ⟨Nat.succ_le_succ hn.remaining, hn.active⟩
  | evaluatingPolicy =>
    rw [hcontrol.unopened] at hopened
    cases hopened
  | openingEvidence decision evidence =>
    have hn : ((run.log (.completed (.evidence evidence))).afterEvidenceOpened decision
        evidence).Nears (4 * (maxEvidencePolls - pollCount run.history) + 1) :=
      nears_afterEvidenceOpened (accepted_none_of_shown hgrows hnone)
    exact ⟨Nat.succ_le_succ hn.remaining, hn.active⟩
  | readingEvidence decision deadline polls evidence =>
    obtain ⟨-, -, opened, hcollecting, -⟩ := hcontrol
    have hn : ((run.log (.completed (.evidence evidence))).afterEvidenceRead decision deadline
        polls evidence).Nears (4 * (maxEvidencePolls - pollCount run.history) + 3) :=
      nears_afterEvidenceRead hcollecting.recovery (accepted_none_of_shown hgrows hnone)
    exact ⟨Nat.succ_le_succ hn.remaining, hn.active⟩
  | closingExpiredEvidence => exact ⟨le_refl _, fun hf => by cases hf⟩
  | _ => cases hcollects

theorem Unanswered.wakes (h : run.Unanswered) (hw : run.Wakes run.control run') :
    run'.remaining + 1 ≤ run.remaining ∧ run'.control ≠ .failed := by
  have hcollects := h.collects hw.open
  have hcontrol := h.collected.control
  unfold remaining
  generalize run.control = control at hw hcollects hcontrol ⊢
  cases hw with
  | sleptBeforePoll decision deadline polls due hdue =>
    obtain ⟨-, opened, -, -, hpolls, -⟩ := hcontrol
    have hcount : pollCount (run.schedule (.readRefundEvidence run.evidenceAccess)
        (.readingEvidence decision deadline polls)).history = pollCount run.history + 1 :=
      pollCount_cons
    refine ⟨?_, fun hf => by cases hf⟩
    change 4 * (maxEvidencePolls - pollCount (run.schedule _ (.readingEvidence decision deadline
      polls)).history) + 4 + 1 ≤ 4 * (maxEvidencePolls - pollCount run.history) + 1
    rw [hcount]
    omega
  | _ => cases hcollects

theorem Unanswered.step {e : RunEvent} (h : run.Unanswered)
    (hs : workflow.step run e = some run') (hP : StaysUnanswered run e run') :
    run'.Unanswered ∧ run'.remaining + (if e.progresses then 1 else 0) ≤ run.remaining := by
  have hcollected := collected_step run e run' h.collected hs
  have hopened : (openedAt run'.history).isSome := by
    obtain ⟨es, hes⟩ := history_step hs
    obtain ⟨opened, hopened⟩ := Option.isSome_iff_exists.mp h.opened
    rw [hes]
    exact Option.isSome_of_eq_some (openedAt_append hopened)
  have hstep : run'.remaining + (if e.progresses then 1 else 0) ≤ run.remaining ∧
      run'.control ≠ .failed := by
    change run.step e = some run' at hs
    cases e with
    | advance milliseconds =>
      cases hs
      exact ⟨le_of_eq rfl, h.active⟩
    | signal signal =>
      simp only [Run.step] at hs
      split_ifs at hs
      cases hs
      refine ⟨?_, by rw [receive_control]; exact h.active⟩
      have hcount : pollCount (run.receive signal).history = pollCount run.history := by
        rcases run.receive_cases signal with hr | ⟨-, hr⟩
        · exact (idles_handle hr).pollCount
        · rw [hr]
      unfold remaining
      rw [receive_control, hcount]
      exact le_refl _
    | complete result => exact h.returns (Run.complete_returns hs) hP.1
    | fail => exact absurd rfl hP.2
    | resume => exact h.wakes (Run.resume_wakes hs)
    | wake => exact h.wakes (Run.wake_wakes hs)
  exact ⟨⟨hcollected, hopened, hP.1, hstep.2⟩, hstep.1⟩

end Run

/-- What is left of a collection bounds its progress. -/
def collectionMeasure :
    Measure workflow RunEvent.progresses Run.Unanswered StaysUnanswered where
  measure := Run.remaining
  keeps := fun _ _ _ h hs hP => (h.step hs hP).1
  lowers := fun _ _ _ h hs hP => (h.step hs hP).2

namespace Run
variable {run run' : Run}

/-- The next event of an unanswered collection, whatever has been found so far. -/
theorem Unanswered.can (h : run.Unanswered) (hopen : ¬run.control.closed = true) :
    ∃ es run', workflow.run run es = some run' ∧ workflow.Along StaysUnanswered run es ∧
      0 < es.countP RunEvent.progresses := by
  have hcollects := h.collects (by simpa using hopen)
  have hreturns : ∀ result r, (run.log (.completed result)).Returns run.control result r →
      (Occurrence.completed result).snapshot.bind EvidenceSnapshot.accepted = none →
      ∃ es run', workflow.run run es = some run' ∧ workflow.Along StaysUnanswered run es ∧
        0 < es.countP RunEvent.progresses := by
    intro result r hr hresult
    have hs : workflow.step run (.complete result) = some r := hr.complete rfl
    have hnone : acceptedAt r.history = none := by
      rw [hr.grows.acceptedAt]
      exact (acceptedAt_quiet hresult).trans h.accepted
    refine ⟨[.complete result], r, Machine.run_singleton.mpr hs, ?_, Nat.one_pos⟩
    exact (Machine.along_cons_of_step hs).mpr ⟨⟨hnone, RunEvent.noConfusion⟩, trivial⟩
  have hopened := h.opened
  have hcontrol := h.collected.control
  cases hc : run.control with
  | refreshingContext =>
    rw [hc] at hreturns
    exact hreturns _ _ (.refreshingContext Sample.context) rfl
  | evaluatingPolicy refundContext =>
    rw [hc] at hcontrol
    rw [hcontrol.unopened] at hopened
    cases hopened
  | openingEvidence decision =>
    rw [hc] at hreturns
    exact hreturns _ _ (.openingEvidence decision ⟨"", .unreviewed, 0, 0, 0, none⟩) rfl
  | readingEvidence decision deadline polls =>
    rw [hc] at hreturns
    exact hreturns _ _ (.readingEvidence decision deadline polls ⟨"", .unreviewed, 0, 0, 0, none⟩) rfl
  | closingExpiredEvidence decision =>
    rw [hc] at hreturns
    exact hreturns _ _ (.closingExpiredEvidence decision) rfl
  | sleepingBeforePoll decision deadline polls due =>
    -- the timer fires once the clock has reached its instant
    let later : Run := { run with now := run.now + (due - run.now).toNat }
    have hadvance : workflow.step run (.advance (due - run.now).toNat) = some later := rfl
    have hdue : due ≤ later.now := by
      change due ≤ run.now + ((due - run.now).toNat : ℤ)
      omega
    have hwake : workflow.step later .wake = some (later.schedule
        (.readRefundEvidence later.evidenceAccess) (.readingEvidence decision deadline polls)) := by
      change later.wake = _
      unfold Run.wake
      rw [show later.control = _ from hc]
      simp only
      rw [if_pos hdue]
    have hnone : acceptedAt (later.schedule (.readRefundEvidence later.evidenceAccess)
        (.readingEvidence decision deadline polls)).history = none :=
      (acceptedAt_quiet rfl).trans h.accepted
    refine ⟨[.advance (due - run.now).toNat, .wake], _,
      Machine.run_cons.mpr ⟨later, hadvance, Machine.run_singleton.mpr hwake⟩, ?_, Nat.one_pos⟩
    refine (Machine.along_cons_of_step hadvance).mpr ⟨⟨h.accepted, RunEvent.noConfusion⟩, ?_⟩
    exact (Machine.along_cons_of_step hwake).mpr ⟨⟨hnone, RunEvent.noConfusion⟩, trivial⟩
  | _ =>
    rw [hc] at hcollects
    cases hcollects

end Run

/-- The deadline that the loop of a run is held to. -/
def Control.deadline : Control → Option ℤ
  | .sleepingBeforePoll _ deadline .. | .readingEvidence _ deadline _ => some deadline
  | _ => none

/-- The collection has ended with its case closed. -/
structure Run.Expired (run : Run) : Prop where
  control : run.control = .finished
  stage : run.state.stage = .evidenceCollectionExpired
  closed : run.ClosedExpired

namespace Run
variable {run run' : Run}

theorem Collected.controlDeadline (h : run.Collected) {deadline : ℤ}
    (hd : run.control.deadline = some deadline) :
    evidenceDeadline run.history = some deadline := by
  have hcontrol := h.control
  generalize run.control = control at hd hcontrol
  cases control with
  | sleepingBeforePoll =>
    obtain ⟨-, opened, hcollecting, hdeadline, -⟩ := hcontrol
    cases hd
    unfold evidenceDeadline
    rw [hcollecting.begun, hdeadline]
    rfl
  | readingEvidence =>
    obtain ⟨-, -, opened, hcollecting, hdeadline⟩ := hcontrol
    cases hd
    unfold evidenceDeadline
    rw [hcollecting.begun, hdeadline]
    rfl
  | _ => cases hd

theorem Unanswered.expired (h : run.Unanswered) (hclosed : run.control.closed = true) :
    run.Expired := by
  have hcontrol := h.collected.control
  have hunsettled := h.unsettled
  have hactive := h.active
  cases hc : run.control with
  | finished =>
    rw [hc] at hcontrol
    rcases hcontrol with hsettled | ⟨hstage, hcase⟩
    · exact absurd hsettled hunsettled
    · exact ⟨hc, hstage, hcase⟩
  | failed => exact absurd hc hactive
  | _ =>
    rw [hc] at hclosed
    cases hclosed

theorem remaining_le (run : Run) : run.remaining ≤ 4 * maxEvidencePolls + 4 := by
  unfold remaining
  split <;> omega

/-- Without accepted evidence a collection ends, after boundedly many events. -/
theorem Unanswered.ends (h : run.Unanswered) :
    (∀ es run', workflow.run run es = some run' → workflow.Along StaysUnanswered run es →
      es.countP RunEvent.progresses ≤ 4 * maxEvidencePolls + 4 ∧
      pollCount run'.history ≤ maxEvidencePolls ∧
      (run'.control.closed = true → run'.Expired)) ∧
    ∃ es run', workflow.run run es = some run' ∧ workflow.Along StaysUnanswered run es ∧
      run'.Expired := by
  constructor
  · intro es run' hrun halong
    obtain ⟨hend, hle⟩ := collectionMeasure.bounds h halong hrun
    have hremaining : run'.remaining + es.countP RunEvent.progresses ≤ run.remaining := hle
    have hbound := run.remaining_le
    exact ⟨by omega, hend.collected.tracked.polls hend.opened hend.accepted, hend.expired⟩
  · obtain ⟨es, run', hrun, halong, hclosed⟩ :=
      collectionMeasure.reaches (G := fun r => r.control.closed = true)
        (fun s hs hgoal => hs.can hgoal) h
    exact ⟨es, run', hrun, halong, (collectionMeasure.bounds h halong hrun).1.expired hclosed⟩

end Run

/-- Every run of a chain is held to the deadline that the first one fixed, no timer reaches past
it, and evidence that is accepted too late is never evaluated. Without accepted evidence the
collection expires. -/
theorem evidence_collection_ends {run : Run} (h : workflow.Reachable Run.StartingChain run) :
    (∀ recovery, run.request.evidenceRecovery = some recovery →
      evidenceDeadline run.history = some recovery.deadline) ∧
    (∀ deadline, run.control.deadline = some deadline →
      evidenceDeadline run.history = some deadline) ∧
    (∀ later t milliseconds past,
      run.history = later ++ ⟨t, .timerStarted milliseconds⟩ :: past →
      (openedAt past).isSome → acceptedAt past = none →
      0 < milliseconds ∧ milliseconds ≤ 30000 ∧
        ∃ deadline, evidenceDeadline past = some deadline ∧ t + milliseconds ≤ deadline) ∧
    (∀ later t input past,
      run.history = later ++ ⟨t, .scheduled (.evaluateRefundPolicy input)⟩ :: past →
      (openedAt past).isSome → InTime past) ∧
    ((openedAt run.history).isSome → acceptedAt run.history = none → run.control ≠ .failed →
      (∀ es run', workflow.run run es = some run' → workflow.Along StaysUnanswered run es →
        es.countP RunEvent.progresses ≤ 4 * 2880 + 4 ∧ pollCount run'.history ≤ 2880 ∧
        (run'.control.closed = true → run'.Expired)) ∧
      ∃ es run', workflow.run run es = some run' ∧ workflow.Along StaysUnanswered run es ∧
        run'.Expired) := by
  have hcollected := collected_reachable h
  have hpunctual := Transition.always_iff.mp hcollected.tracked.punctual
  refine ⟨hcollected.tracked.deadline, fun _ => hcollected.controlDeadline, ?_, ?_, ?_⟩
  · intro later t milliseconds past heq hopened haccepted
    exact hpunctual later _ past heq hopened haccepted
  · intro later t input past heq hopened
    exact hpunctual later _ past heq hopened
  · intro hopened haccepted hactive
    exact Run.Unanswered.ends ⟨hcollected, hopened, haccepted, hactive⟩

namespace Sample

def photoRequest : RefundWorkflowRequest := { request with policyVersion := "refund-policy-v2" }

def photoDecision : RefundPolicyDecision :=
  { decision .needsFacts with
    policyVersion := "refund-policy-v2"
    missingFacts := [.damagePhoto] }

def noonPhoto : Run := (Run.blank photoRequest "refund-1" ⟨true, true, true⟩ 1786190400000).start

/-- Evidence is opened and nobody has uploaded any. -/
def opensEvidence : List RunEvent :=
  [.complete (.refundContext context), .complete (.decision photoDecision),
    .complete (.evidence ⟨"case-1", .unreviewed, 0, 0, 0, none⟩)]

theorem noonPhoto_starting : noonPhoto.StartingChain := ⟨⟨_, _, _, _, rfl⟩, rfl⟩

end Sample

/-- Evidence that nobody uploads expires a day after it was opened. -/
theorem unanswered_collection_expires : ∃ run, workflow.Reachable Run.StartingChain run ∧
    evidenceDeadline run.history = some 1786276800000 ∧
    ∃ es run', workflow.run run es = some run' ∧ workflow.Along StaysUnanswered run es ∧
      run'.Expired := by
  obtain ⟨run, hrun, hopened, haccepted, hcontrol⟩ : ∃ run,
      workflow.run Sample.noonPhoto Sample.opensEvidence = some run ∧
      openedAt run.history = some 1786190400000 ∧ acceptedAt run.history = none ∧
      run.control = .sleepingBeforePoll Sample.photoDecision 1786276800000 0 1786190430000 :=
    Machine.exists_run (by decide +kernel)
  have hreachable : workflow.Reachable Run.StartingChain run :=
    ⟨Sample.noonPhoto, Sample.opensEvidence, Sample.noonPhoto_starting, hrun⟩
  obtain ⟨-, hdeadline, -, -, hends⟩ := evidence_collection_ends hreachable
  have hactive : run.control ≠ .failed := by
    rw [hcontrol]
    exact Control.noConfusion
  refine ⟨run, hreachable, hdeadline _ ?_, ?_⟩
  · rw [hcontrol]
    rfl
  · exact (hends (Option.isSome_of_eq_some hopened) haccepted hactive).2
end CSO.Workers
