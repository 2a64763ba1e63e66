import CSO.Workers.Steps

/-! What the history of a run says of its refund, and what the handlers make of the signals.
The handlers take the first signal they admit, so their variables are read off the history. -/
namespace CSO.Workers
open Transition (dispatch dispatch_invariant dispatch_eq)

namespace Occurrence

def execution : Occurrence → Option ExecuteRefundInput
  | .scheduled (.executeRefund input) => some input
  | _ => none

def selection : Occurrence → Option PolicyEffect
  | .selected effect => some effect
  | _ => none

def confirmation : Occurrence → Option RefundCustomerConfirmation
  | .handled (.confirmRefund received) => some received
  | _ => none

def humanDecision : Occurrence → Option RefundHumanDecision
  | .handled (.decideRefund received) => some received
  | _ => none

/-- Nothing that the authorisation of a refund is read off. -/
def Quiet (o : Occurrence) : Prop :=
  o.execution = none ∧ o.selection = none ∧ o.confirmation = none ∧ o.humanDecision = none

end Occurrence

def executions (h : List HistoryEvent) : List ExecuteRefundInput :=
  h.filterMap fun e => e.occurrence.execution

/-- The effects that the switch of a run has branched on. -/
def selections (h : List HistoryEvent) : List PolicyEffect :=
  h.filterMap fun e => e.occurrence.selection

/-- The confirmations handled, the oldest first, each with the time at which it was. -/
def confirmations (h : List HistoryEvent) : List (ℤ × RefundCustomerConfirmation) :=
  (h.filterMap fun e => e.occurrence.confirmation.map fun received => (e.time, received)).reverse

/-- The human decisions handled, the oldest first. -/
def humanDecisions (h : List HistoryEvent) : List RefundHumanDecision :=
  (h.filterMap fun e => e.occurrence.humanDecision).reverse

def timely (preview : RefundPreview) (c : ℤ × RefundCustomerConfirmation) : Bool :=
  c.2.previewId == preview.previewId && isRefundPreviewCurrent preview.validUntil c.1

def firstTimely (preview : RefundPreview) (h : List HistoryEvent) :
    Option (ℤ × RefundCustomerConfirmation) :=
  (confirmations h).find? (timely preview)

def firstAdmissible (review : HumanReview) (h : List HistoryEvent) : Option RefundHumanDecision :=
  (humanDecisions h).find? review.admits

/-- `createRefundPreview` has returned the preview. -/
def Created (preview : RefundPreview) (h : List HistoryEvent) : Prop :=
  ∃ t, ⟨t, .completed (.preview preview)⟩ ∈ h

/-- The first timely confirmation of the preview accepts it. -/
def Confirmed (preview : RefundPreview) (h : List HistoryEvent) : Prop :=
  ∃ c, firstTimely preview h = some c ∧ c.2.accepted = true

/-- The human decision that a policy effect asks for, if any, has been made. -/
def Reviewed (effect : PolicyEffect) (h : List HistoryEvent) : Prop :=
  match effect with
  | .allow => True
  | .approvalRequired => ∃ d, firstAdmissible .approval h = some d ∧ d.decision = .approve
  | .takeoverRequired =>
    ∃ d, firstAdmissible .takeover h = some d ∧ d.decision = .approveExceptionalRefund
  | .deny | .needsFacts => False

section Projections
variable {e : HistoryEvent} {h : List HistoryEvent} {preview : RefundPreview}

theorem executions_cons : executions (e :: h) = e.occurrence.execution.toList ++ executions h := by
  unfold executions
  cases he : e.occurrence.execution with
  | none => simp [he]
  | some input => simp [he]

theorem selections_cons : selections (e :: h) = e.occurrence.selection.toList ++ selections h := by
  unfold selections
  cases he : e.occurrence.selection with
  | none => simp [he]
  | some effect => simp [he]

theorem confirmations_cons : confirmations (e :: h) = confirmations h ++
    (e.occurrence.confirmation.map fun received => (e.time, received)).toList := by
  unfold confirmations
  cases he : e.occurrence.confirmation with
  | none => simp [he]
  | some received => simp [he]

theorem humanDecisions_cons :
    humanDecisions (e :: h) = humanDecisions h ++ e.occurrence.humanDecision.toList := by
  unfold humanDecisions
  cases he : e.occurrence.humanDecision with
  | none => simp [he]
  | some received => simp [he]

theorem firstTimely_cons : firstTimely preview (e :: h) = (firstTimely preview h).or
    ((e.occurrence.confirmation.map fun received => (e.time, received)).toList.find?
      (timely preview)) := by
  unfold firstTimely
  rw [confirmations_cons, List.find?_append]

theorem firstAdmissible_cons {review : HumanReview} : firstAdmissible review (e :: h) =
    (firstAdmissible review h).or (e.occurrence.humanDecision.toList.find? review.admits) := by
  unfold firstAdmissible
  rw [humanDecisions_cons, List.find?_append]

theorem Created.cons (hc : Created preview h) : Created preview (e :: h) := by
  obtain ⟨t, ht⟩ := hc
  exact ⟨t, List.mem_cons_of_mem e ht⟩

theorem Confirmed.cons (hc : Confirmed preview h) : Confirmed preview (e :: h) := by
  obtain ⟨c, hfirst, haccepted⟩ := hc
  refine ⟨c, ?_, haccepted⟩
  rw [firstTimely_cons, hfirst]
  rfl

theorem firstAdmissible_stays {review : HumanReview} {d : RefundHumanDecision}
    (hd : firstAdmissible review h = some d) : firstAdmissible review (e :: h) = some d := by
  rw [firstAdmissible_cons, hd]
  rfl

theorem Reviewed.cons {effect : PolicyEffect} (hr : Reviewed effect h) :
    Reviewed effect (e :: h) := by
  cases effect with
  | allow => trivial
  | approvalRequired =>
    obtain ⟨d, hd, happroved⟩ := hr
    exact ⟨d, firstAdmissible_stays hd, happroved⟩
  | takeoverRequired =>
    obtain ⟨d, hd, happroved⟩ := hr
    exact ⟨d, firstAdmissible_stays hd, happroved⟩
  | deny => exact hr
  | needsFacts => exact hr

end Projections

/-! The view of a run that its authorisation depends on. -/

structure View where
  now : ℤ
  confirmationWait : Option ConfirmationWait
  review : Option HumanReview
  humanDecision : Option RefundHumanDecision
  history : List HistoryEvent

def Run.view (run : Run) : View :=
  ⟨run.now, run.confirmationWait, run.review, run.humanDecision, run.history⟩

namespace View

def log (v : View) (o : Occurrence) : View := { v with history := ⟨v.now, o⟩ :: v.history }

/-- What can happen to a view while the control of its run stays where it is. -/
inductive Observes : View → View → Prop
  | quiet {v : View} {o : Occurrence} (ho : o.Quiet) : Observes v (v.log o)
  | advance {v : View} (milliseconds : ℕ) : Observes v { v with now := v.now + milliseconds }
  | confirm {v : View} {wait : ConfirmationWait} (received : RefundCustomerConfirmation)
      (hw : v.confirmationWait = some wait) :
      Observes v { v.log (.handled (.confirmRefund received)) with
        confirmationWait := some (wait.receive true v.now received) }
  | decide {v : View} {review : HumanReview} (received : RefundHumanDecision)
      (hr : v.review = some review) :
      Observes v { v.log (.handled (.decideRefund received)) with
        humanDecision := v.humanDecision.or (if review.admits received then some received else none) }

/-- What observing keeps. -/
def Kept (P : View → Prop) : Prop := ∀ v w, P v → Observes v w → P w

theorem Observes.history {v w : View} (h : Observes v w) :
    w.history = v.history ∨ ∃ e, w.history = e :: v.history := by
  cases h with
  | quiet ho => exact .inr ⟨_, rfl⟩
  | advance milliseconds => exact .inl rfl
  | confirm received hw => exact .inr ⟨_, rfl⟩
  | decide received hr => exact .inr ⟨_, rfl⟩

/-- What holds of a history still holds when something is added to it. -/
theorem kept_history {P : List HistoryEvent → Prop} (hP : ∀ e h, P h → P (e :: h)) :
    Kept fun v => P v.history := by
  intro v w hv hw
  rcases hw.history with heq | ⟨e, heq⟩
  · rwa [heq]
  · rw [heq]
    exact hP e v.history hv

theorem Observes.unchanged {v w : View} (h : Observes v w) :
    executions w.history = executions v.history ∧ selections w.history = selections v.history ∧
      w.review = v.review ∧ (v.confirmationWait = none → w.confirmationWait = none) := by
  cases h with
  | quiet ho =>
    obtain ⟨hexecution, hselection, -, -⟩ := ho
    refine ⟨?_, ?_, rfl, id⟩
    · rw [log, executions_cons, hexecution]
      rfl
    · rw [log, selections_cons, hselection]
      rfl
  | advance milliseconds => exact ⟨rfl, rfl, rfl, id⟩
  | confirm received hw =>
    refine ⟨rfl, rfl, rfl, fun hnone => ?_⟩
    rw [hnone] at hw
    cases hw
  | decide received hr => exact ⟨rfl, rfl, rfl, id⟩

theorem Observes.humanDecision {v w : View} (h : Observes v w) {d : RefundHumanDecision}
    (hd : v.humanDecision = some d) : w.humanDecision = some d := by
  cases h with
  | quiet ho => exact hd
  | advance milliseconds => exact hd
  | confirm received hw => exact hd
  | decide received hr =>
    change v.humanDecision.or _ = some d
    rw [hd]
    rfl

end View

/-- The wait holds the first timely confirmation of its preview; it has expired only when
its preview has. -/
structure ConfirmationWait.Consistent (wait : ConfirmationWait) (now : ℤ)
    (h : List HistoryEvent) : Prop where
  first : wait.confirmation = (firstTimely wait.preview h).map Prod.snd
  expired : wait.expired = true → isRefundPreviewCurrent wait.preview.validUntil now = false

theorem isRefundPreviewCurrent_mono {validUntil : String} {now later : ℤ} (hle : now ≤ later)
    (h : isRefundPreviewCurrent validUntil now = false) :
    isRefundPreviewCurrent validUntil later = false := by
  unfold isRefundPreviewCurrent at h ⊢
  split at h
  · rw [decide_eq_false_iff_not] at h ⊢
    omega
  · rfl

@[simp] theorem ConfirmationWait.receive_preview (wait : ConfirmationWait) (checksExpiry : Bool)
    (now : ℤ) (received : RefundCustomerConfirmation) :
    (wait.receive checksExpiry now received).preview = wait.preview := by
  unfold receive
  split_ifs <;> rfl

theorem ConfirmationWait.receive_consistent {wait : ConfirmationWait} {now : ℤ}
    {h : List HistoryEvent} {received : RefundCustomerConfirmation}
    (hc : wait.Consistent now h) :
    (wait.receive true now received).Consistent now
      (⟨now, .handled (.confirmRefund received)⟩ :: h) := by
  have hcons : firstTimely wait.preview (⟨now, .handled (.confirmRefund received)⟩ :: h) =
      (firstTimely wait.preview h).or
        (if timely wait.preview (now, received) then some (now, received) else none) := by
    rw [firstTimely_cons]
    cases ht : timely wait.preview (now, received) <;>
      simp [Occurrence.confirmation, ht]
  unfold receive
  split_ifs with hkeep hexpired
  · refine ⟨?_, hc.expired⟩
    rw [hcons, hc.first]
    cases hfirst : firstTimely wait.preview h with
    | some c => rfl
    | none =>
      have huntimely : timely wait.preview (now, received) = false := by
        rcases hkeep with hsome | hexp | hne
        · rw [hc.first, hfirst] at hsome
          cases hsome
        · simp [timely, hc.expired hexp]
        · simp [timely, hne]
      simp [huntimely]
  · push Not at hkeep
    have hnone : firstTimely wait.preview h = none := by
      have hwait : wait.confirmation = none := by simpa using hkeep.1
      rw [hc.first] at hwait
      simpa using hwait
    refine ⟨?_, fun _ => by simpa using hexpired.2⟩
    rw [hcons, hnone, hc.first, hnone]
    simp [timely, hexpired.2]
  · push Not at hkeep
    have hnone : firstTimely wait.preview h = none := by
      have hwait : wait.confirmation = none := by simpa using hkeep.1
      rw [hc.first] at hwait
      simpa using hwait
    have htimely : timely wait.preview (now, received) = true := by
      simpa [timely, hkeep.2.2] using hexpired
    refine ⟨?_, hc.expired⟩
    rw [hcons, hnone]
    simp [htimely]

end CSO.Workers
