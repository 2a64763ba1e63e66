import CSO.Transition.Machine
import Mathlib.Data.Finset.Card
import Mathlib.Tactic

/-! The leases that cap the photo uploads of a service: what the hooks, the listeners and the
handler of every request do to them, in any order. -/
namespace CSO.HumanOperations

/-- How far the service has come with a request. A handler has found its lease, or none. -/
inductive UploadPhase
  | waiting
  | authorising
  | answered
  | admitted
  | handling (leased : Bool)
  | settled
  deriving DecidableEq, Repr

/-- `request.raw` and `reply.raw` with the listeners of the lease, and the flag of the lease. -/
structure UploadRequest where
  phase : UploadPhase
  aborted : Bool
  complete : Bool
  destroyed : Bool
  onAborted : Bool
  onRequestClose : Bool
  onReplyClose : Bool
  processing : Bool
  deriving DecidableEq, Repr

def UploadRequest.initial : UploadRequest :=
  ⟨.waiting, false, false, false, false, false, false, false⟩

/-- `uploads` are the requests that hold a lease. -/
structure Uploads (ι : Type) where
  requests : ι → UploadRequest
  uploads : Finset ι
  activeUploads : ℤ

/-- What happens to a request. -/
inductive UploadHappening
  | received
  | unauthorised
  | authorised
  | clientAborted
  | bodyCompleted
  | requestClosed
  | replyClosed
  | handlerStarted
  | handlerEnded (succeeds : Bool)
  | onResponse
  | onRequestAbort
  | onTimeout
  deriving DecidableEq, Repr

structure UploadEvent (ι : Type) where
  request : ι
  happening : UploadHappening

def uploadCapacity : ℤ := 4

namespace Uploads
variable {ι : Type} [DecidableEq ι] (s : Uploads ι) (i : ι)

def initial : Uploads ι := ⟨fun _ => .initial, ∅, 0⟩

def change (f : UploadRequest → UploadRequest) : Uploads ι :=
  { s with requests := Function.update s.requests i (f (s.requests i)) }

/-- `lease.dispose`. -/
def dispose (r : UploadRequest) : UploadRequest :=
  { r with onAborted := false, onRequestClose := false, onReplyClose := false }

/-- A lease whose handler is processing stays. -/
def releaseUpload : Uploads ι :=
  if i ∉ s.uploads ∨ (s.requests i).processing = true then s
  else { s.change i dispose with
    uploads := s.uploads.erase i
    activeUploads := s.activeUploads - 1 }

/-- A new lease with its listeners. -/
def lease (r : UploadRequest) : UploadRequest :=
  { r with
    phase := .admitted
    onAborted := true
    onRequestClose := true
    onReplyClose := true
    processing := false }

/-- What `onRequest` does when the checks that it awaits have passed. -/
def authorise : Uploads ι :=
  if (s.requests i).aborted = true ∨ (s.requests i).destroyed = true then
    s.change i fun r => { r with phase := .answered }
  else if uploadCapacity ≤ s.activeUploads then s.change i fun r => { r with phase := .answered }
  else { s.change i lease with
    uploads := insert i s.uploads
    activeUploads := s.activeUploads + 1 }

/-- The listener of an event that is emitted once, taken off before it is called. -/
def fire (listens : UploadRequest → Bool) (off : UploadRequest → UploadRequest)
    (listener : Uploads ι → Uploads ι) : Uploads ι :=
  if listens (s.requests i) = true then listener (s.change i off) else s

def clientAborted : Uploads ι :=
  (s.change i fun r => { r with aborted := true }).fire i UploadRequest.onAborted
    (fun r => { r with onAborted := false }) (releaseUpload · i)

def requestClosed : Uploads ι :=
  s.fire i UploadRequest.onRequestClose (fun r => { r with onRequestClose := false }) fun s =>
    if (s.requests i).aborted = true ∨ (s.requests i).complete = false then s.releaseUpload i else s

def replyClosed : Uploads ι :=
  (s.change i fun r => { r with destroyed := true }).fire i UploadRequest.onReplyClose
    (fun r => { r with onReplyClose := false }) (releaseUpload · i)

/-- The handler looks its lease up and marks it. -/
def handlerStarted : Uploads ι :=
  if i ∈ s.uploads then s.change i fun r => { r with phase := .handling true, processing := true }
  else s.change i fun r => { r with phase := .handling false }

/-- The `finally` of a handler that found a lease, or none. -/
def handlerEnded (leased : Bool) : Uploads ι :=
  if leased = true then
    (s.change i fun r => { r with phase := .settled, processing := false }).releaseUpload i
  else s.change i fun r => { r with phase := .settled }

/-- The connection aborts and the reply closes once. -/
def step (s : Uploads ι) (e : UploadEvent ι) : Option (Uploads ι) :=
  let i := e.request
  let r := s.requests i
  match e.happening with
  | .received =>
    if r.phase = .waiting then some (s.change i fun r => { r with phase := .authorising }) else none
  | .unauthorised =>
    if r.phase = .authorising then some (s.change i fun r => { r with phase := .answered }) else none
  | .authorised => if r.phase = .authorising then some (s.authorise i) else none
  | .clientAborted => if r.aborted = false then some (s.clientAborted i) else none
  | .bodyCompleted => some (s.change i fun r => { r with complete := true })
  | .requestClosed => some (s.requestClosed i)
  | .replyClosed => if r.destroyed = false then some (s.replyClosed i) else none
  | .handlerStarted => if r.phase = .admitted then some (s.handlerStarted i) else none
  | .handlerEnded _ =>
    match r.phase with
    | .handling leased => some (s.handlerEnded i leased)
    | _ => none
  | .onResponse => some (s.releaseUpload i)
  | .onRequestAbort => some (s.releaseUpload i)
  | .onTimeout => some (s.releaseUpload i)

def machine (ι : Type) [DecidableEq ι] : Transition.Machine (Uploads ι) (UploadEvent ι) := ⟨step⟩

/-- A handler decodes and stores the photo of the request. -/
def Processes : Prop := (s.requests i).phase = .handling true

/-- A handler of the request has started and has not settled. -/
def InFlight : Prop := ∃ leased, (s.requests i).phase = .handling leased

end Uploads

/-- A lease is processing where the handler that found it runs. -/
def UploadRequest.Consistent (r : UploadRequest) (held : Prop) : Prop :=
  held ∧ r.processing = true ↔ r.phase = .handling true

/-- A lease that no handler has found waits for one, and hears of the end of the reply. -/
structure UploadRequest.Lawful (r : UploadRequest) (held : Prop) : Prop where
  consistent : r.Consistent held
  waits : held → r.processing = false →
    r.phase = .admitted ∧ r.destroyed = false ∧ r.onReplyClose = true

namespace Uploads
variable {ι : Type} [DecidableEq ι] {s s' : Uploads ι} {i : ι} {f : UploadRequest → UploadRequest}

/-- The counter counts the leases, and every request is lawful but the one that is at work. -/
structure SoundBut (s : Uploads ι) (i : ι) : Prop where
  counted : s.activeUploads = s.uploads.card
  capacity : (s.uploads.card : ℤ) ≤ uploadCapacity
  others : ∀ j, j ≠ i → (s.requests j).Lawful (j ∈ s.uploads)
  consistent : (s.requests i).Consistent (i ∈ s.uploads)

structure Sound (s : Uploads ι) : Prop where
  counted : s.activeUploads = s.uploads.card
  capacity : (s.uploads.card : ℤ) ≤ uploadCapacity
  lawful : ∀ i, (s.requests i).Lawful (i ∈ s.uploads)

@[simp] theorem change_uploads : (s.change i f).uploads = s.uploads := rfl

@[simp] theorem change_activeUploads : (s.change i f).activeUploads = s.activeUploads := rfl

@[simp] theorem change_self : (s.change i f).requests i = f (s.requests i) :=
  Function.update_self ..

theorem change_of_ne {j : ι} (h : j ≠ i) : (s.change i f).requests j = s.requests j :=
  Function.update_of_ne h ..

theorem SoundBut.sound (h : s.SoundBut i) (hi : (s.requests i).Lawful (i ∈ s.uploads)) :
    s.Sound where
  counted := h.counted
  capacity := h.capacity
  lawful j := by
    by_cases hj : j = i
    · exact hj ▸ hi
    · exact h.others j hj

theorem Sound.change (h : s.Sound)
    (hf : (f (s.requests i)).Consistent (i ∈ s.uploads)) : (s.change i f).SoundBut i where
  counted := h.counted
  capacity := h.capacity
  others j hj := by
    rw [change_of_ne hj]
    exact h.lawful j
  consistent := by
    rw [change_self]
    exact hf

/-- A release gives the lease back, or leaves it to the handler that has it. -/
theorem SoundBut.release (h : s.SoundBut i) : (s.releaseUpload i).Sound := by
  unfold releaseUpload
  split_ifs with hkeep
  · refine h.sound ⟨h.consistent, fun hheld hwaits => ?_⟩
    rcases hkeep with hnot | hprocessing
    · exact absurd hheld hnot
    · rw [hprocessing] at hwaits
      cases hwaits
  · obtain ⟨hheld, hwaits⟩ : i ∈ s.uploads ∧ (s.requests i).processing = false := by
      simpa using hkeep
    have hcard := Finset.card_erase_add_one hheld
    refine SoundBut.sound (i := i) ⟨?_, ?_, fun j hj => ?_, ?_⟩ ?_
    · have hcounted := h.counted
      simp only
      omega
    · have hcapacity := h.capacity
      simp only
      omega
    · have hothers := h.others j hj
      simp only [Finset.mem_erase, ne_eq, hj, not_false_eq_true, true_and]
      rwa [change_of_ne hj]
    -- The request has no lease any more, and no handler that had found one.
    all_goals
      have hphase : (s.requests i).phase ≠ .handling true := by
        intro hphase
        have hprocessing := (h.consistent.mpr hphase).2
        rw [hwaits] at hprocessing
        cases hprocessing
      simp only [change_self, Finset.mem_erase, ne_eq, not_true_eq_false, false_and, dispose]
    · exact ⟨fun hfalse => absurd hfalse.1 not_false, fun hhandling => absurd hhandling hphase⟩
    · exact ⟨⟨fun hfalse => absurd hfalse.1 not_false, fun hhandling => absurd hhandling hphase⟩,
        fun hfalse => absurd hfalse not_false⟩

/-- A change that the lease of the request does not see. -/
theorem Sound.unseen (h : s.Sound) (hphase : (f (s.requests i)).phase = (s.requests i).phase)
    (hprocessing : (f (s.requests i)).processing = (s.requests i).processing) :
    (s.change i f).SoundBut i := by
  apply h.change
  rw [UploadRequest.Consistent, hphase, hprocessing]
  exact (h.lawful i).consistent

theorem Sound.release (h : s.Sound) (i : ι) : (s.releaseUpload i).Sound :=
  SoundBut.release ⟨h.counted, h.capacity, fun j _ => h.lawful j, (h.lawful i).consistent⟩

omit [DecidableEq ι] in
/-- A request has no lease before it is admitted, and none when its handler runs without. -/
theorem Sound.not_held (h : s.Sound) (hadmitted : (s.requests i).phase ≠ .admitted)
    (hhandling : (s.requests i).phase ≠ .handling true) : i ∉ s.uploads := by
  intro hheld
  cases hprocessing : (s.requests i).processing with
  | true => exact hhandling ((h.lawful i).consistent.mp ⟨hheld, hprocessing⟩)
  | false => exact hadmitted ((h.lawful i).waits hheld hprocessing).1

/-- A request without a lease may go anywhere but into a handler that has one. -/
theorem Sound.move (h : s.Sound) (hheld : i ∉ s.uploads)
    (hphase : (f (s.requests i)).phase ≠ .handling true) : (s.change i f).Sound := by
  have hconsistent : (f (s.requests i)).Consistent (i ∈ s.uploads) :=
    ⟨fun hboth => absurd hboth.1 hheld, fun hhandling => absurd hhandling hphase⟩
  refine (h.change hconsistent).sound ⟨?_, fun hin => absurd hin hheld⟩
  rw [change_self]
  exact hconsistent

theorem Sound.authorise (h : s.Sound) (hphase : (s.requests i).phase = .authorising) :
    (s.authorise i).Sound := by
  have hheld : i ∉ s.uploads := by
    apply h.not_held <;> rw [hphase] <;> decide
  unfold Uploads.authorise
  split_ifs with hgone hfull
  · exact h.move hheld (by simp)
  · exact h.move hheld (by simp)
  · have hcard := Finset.card_insert_of_notMem hheld
    have hcounted := h.counted
    simp only [not_or, Bool.not_eq_true] at hgone
    refine SoundBut.sound (i := i) ⟨?_, ?_, fun j hj => ?_, ?_⟩ ?_
    · simp only
      omega
    · simp only
      omega
    · simp only [Finset.mem_insert, hj, false_or]
      rw [change_of_ne hj]
      exact h.lawful j
    all_goals simp only [change_self, Finset.mem_insert_self, lease]
    · exact ⟨fun hboth => absurd hboth.2 Bool.false_ne_true, fun hhandling => by cases hhandling⟩
    · exact ⟨⟨fun hboth => absurd hboth.2 Bool.false_ne_true, fun hhandling => by cases hhandling⟩,
        fun _ _ => ⟨rfl, hgone.2, rfl⟩⟩

theorem Sound.clientAborted (h : s.Sound) (i : ι) : (s.clientAborted i).Sound := by
  unfold Uploads.clientAborted fire
  have haborted : (s.change i fun r => { r with aborted := true }).Sound := by
    refine (h.unseen rfl rfl).sound ?_
    rw [change_self]
    exact ⟨(h.lawful i).consistent, (h.lawful i).waits⟩
  split_ifs
  · exact (haborted.unseen rfl rfl).release
  · exact haborted

theorem Sound.requestClosed (h : s.Sound) (i : ι) : (s.requestClosed i).Sound := by
  unfold Uploads.requestClosed fire
  have hoff : (s.change i fun r => { r with onRequestClose := false }).SoundBut i :=
    h.unseen rfl rfl
  dsimp only
  split_ifs
  · exact hoff.release
  · refine hoff.sound ?_
    rw [change_self]
    exact ⟨(h.lawful i).consistent, (h.lawful i).waits⟩
  · exact h

theorem Sound.replyClosed (h : s.Sound) (i : ι) : (s.replyClosed i).Sound := by
  unfold Uploads.replyClosed fire
  have hdestroyed : (s.change i fun r => { r with destroyed := true }).SoundBut i :=
    h.unseen rfl rfl
  split_ifs with hlistens
  · refine SoundBut.release ⟨hdestroyed.counted, hdestroyed.capacity, fun j hj => ?_, ?_⟩
    · rw [change_of_ne hj]
      exact hdestroyed.others j hj
    · rw [change_self]
      exact hdestroyed.consistent
  · -- Nobody listens, so that a handler has the lease, if there is one.
    refine hdestroyed.sound ⟨hdestroyed.consistent, fun hheld hwaits => ?_⟩
    rw [change_self] at hwaits hlistens
    exact absurd ((h.lawful i).waits hheld hwaits).2.2 hlistens

theorem Sound.handlerStarted (h : s.Sound) (i : ι) : (s.handlerStarted i).Sound := by
  unfold Uploads.handlerStarted
  split_ifs with hheld
  · have hconsistent : UploadRequest.Consistent
        { s.requests i with phase := .handling true, processing := true } (i ∈ s.uploads) :=
      ⟨fun _ => rfl, fun _ => ⟨hheld, rfl⟩⟩
    refine (h.change hconsistent).sound ?_
    rw [change_self]
    exact ⟨hconsistent, fun _ hwaits => by cases hwaits⟩
  · exact h.move hheld (by simp)

theorem Sound.handlerEnded (h : s.Sound) {leased : Bool}
    (hphase : (s.requests i).phase = .handling leased) : (s.handlerEnded i leased).Sound := by
  unfold Uploads.handlerEnded
  split_ifs with hleased
  · apply SoundBut.release
    apply h.change
    exact ⟨fun hboth => absurd hboth.2 Bool.false_ne_true, fun hhandling => by cases hhandling⟩
  · refine h.move (h.not_held ?_ ?_) (by simp)
    · rw [hphase]
      simp
    · rw [hphase]
      simpa using hleased

theorem step_sound {e : UploadEvent ι} (h : s.Sound) (hstep : (machine ι).step s e = some s') :
    s'.Sound := by
  obtain ⟨i, happening⟩ := e
  simp only [machine, step] at hstep
  cases happening with
  | received =>
    simp only at hstep
    split_ifs at hstep with hphase
    cases hstep
    exact h.move (h.not_held (by rw [hphase]; decide) (by rw [hphase]; decide)) (by simp)
  | unauthorised =>
    simp only at hstep
    split_ifs at hstep with hphase
    cases hstep
    exact h.move (h.not_held (by rw [hphase]; decide) (by rw [hphase]; decide)) (by simp)
  | authorised =>
    simp only at hstep
    split_ifs at hstep with hphase
    cases hstep
    exact h.authorise hphase
  | clientAborted =>
    simp only at hstep
    split_ifs at hstep
    cases hstep
    exact h.clientAborted i
  | bodyCompleted =>
    cases hstep
    refine (h.unseen rfl rfl).sound ?_
    rw [change_self]
    exact ⟨(h.lawful i).consistent, (h.lawful i).waits⟩
  | requestClosed =>
    cases hstep
    exact h.requestClosed i
  | replyClosed =>
    simp only at hstep
    split_ifs at hstep
    cases hstep
    exact h.replyClosed i
  | handlerStarted =>
    simp only at hstep
    split_ifs at hstep
    cases hstep
    exact h.handlerStarted i
  | handlerEnded succeeds =>
    simp only at hstep
    split at hstep
    · rename_i leased hphase
      cases hstep
      exact h.handlerEnded hphase
    · cases hstep
  | onResponse =>
    cases hstep
    exact h.release i
  | onRequestAbort =>
    cases hstep
    exact h.release i
  | onTimeout =>
    cases hstep
    exact h.release i

omit [DecidableEq ι] in
theorem initial_sound : (initial : Uploads ι).Sound where
  counted := rfl
  capacity := (by decide : (0 : ℤ) ≤ 4)
  lawful i := ⟨⟨fun hboth => absurd hboth.1 (Finset.notMem_empty i), fun hhandling => by
    cases hhandling⟩, fun hheld => absurd hheld (Finset.notMem_empty i)⟩

theorem reachable_sound (h : (machine ι).Reachable (· = initial) s) : s.Sound :=
  h.invariant (fun _ h₀ => h₀ ▸ initial_sound) fun _ _ _ => step_sound

/-! A handler goes on until it settles. -/

theorem change_phase (hf : ∀ r, (f r).phase = r.phase) (j : ι) :
    ((s.change i f).requests j).phase = (s.requests j).phase := by
  by_cases hj : j = i
  · rw [hj, change_self, hf]
  · rw [change_of_ne hj]

theorem releaseUpload_phase (s : Uploads ι) (i j : ι) :
    ((s.releaseUpload i).requests j).phase = (s.requests j).phase := by
  unfold releaseUpload
  split_ifs
  · rfl
  · exact change_phase (f := dispose) (fun _ => rfl) j

theorem clientAborted_phase (s : Uploads ι) (i j : ι) :
    ((s.clientAborted i).requests j).phase = (s.requests j).phase := by
  unfold Uploads.clientAborted fire
  split_ifs
  · rw [releaseUpload_phase, change_phase (by intro r; rfl), change_phase (by intro r; rfl)]
  · exact change_phase (by intro r; rfl) j

theorem requestClosed_phase (s : Uploads ι) (i j : ι) :
    ((s.requestClosed i).requests j).phase = (s.requests j).phase := by
  unfold Uploads.requestClosed fire
  dsimp only
  split_ifs
  · rw [releaseUpload_phase, change_phase (by intro r; rfl)]
  · exact change_phase (by intro r; rfl) j
  · rfl

theorem replyClosed_phase (s : Uploads ι) (i j : ι) :
    ((s.replyClosed i).requests j).phase = (s.requests j).phase := by
  unfold Uploads.replyClosed fire
  split_ifs
  · rw [releaseUpload_phase, change_phase (by intro r; rfl), change_phase (by intro r; rfl)]
  · exact change_phase (by intro r; rfl) j

/-- The phase of a request moves on as the service comes on with it, and only then. -/
theorem step_phase {e : UploadEvent ι} (hstep : (machine ι).step s e = some s') (j : ι) :
    (s'.requests j).phase = (s.requests j).phase ∨ e.request = j ∧
      ((s.requests j).phase ∈ [.waiting, .authorising, .admitted] ∨
        ∃ succeeds, e.happening = .handlerEnded succeeds) := by
  obtain ⟨i, happening⟩ := e
  -- What changes another request does not show.
  have hother : ∀ f, j ≠ i → ((s.change i f).requests j).phase = (s.requests j).phase := by
    intro f hj
    rw [change_of_ne hj]
  simp only [machine, step] at hstep
  cases happening with
  | received | unauthorised =>
    simp only at hstep
    split_ifs at hstep with hphase
    cases hstep
    by_cases hj : j = i
    · exact Or.inr ⟨hj.symm, Or.inl (by rw [hj, hphase]; decide)⟩
    · exact Or.inl (hother _ hj)
  | authorised =>
    simp only at hstep
    split_ifs at hstep with hphase
    cases hstep
    by_cases hj : j = i
    · exact Or.inr ⟨hj.symm, Or.inl (by rw [hj, hphase]; decide)⟩
    · unfold Uploads.authorise
      split_ifs <;> exact Or.inl (hother _ hj)
  | clientAborted =>
    simp only at hstep
    split_ifs at hstep
    cases hstep
    exact Or.inl (clientAborted_phase s i j)
  | bodyCompleted =>
    cases hstep
    exact Or.inl (change_phase (by intro r; rfl) j)
  | requestClosed =>
    cases hstep
    exact Or.inl (requestClosed_phase s i j)
  | replyClosed =>
    simp only at hstep
    split_ifs at hstep
    cases hstep
    exact Or.inl (replyClosed_phase s i j)
  | handlerStarted =>
    simp only at hstep
    split_ifs at hstep with hphase
    cases hstep
    by_cases hj : j = i
    · exact Or.inr ⟨hj.symm, Or.inl (by rw [hj, hphase]; decide)⟩
    · unfold Uploads.handlerStarted
      split_ifs <;> exact Or.inl (hother _ hj)
  | handlerEnded succeeds =>
    by_cases hj : j = i
    · exact Or.inr ⟨hj.symm, Or.inr ⟨succeeds, rfl⟩⟩
    simp only at hstep
    split at hstep
    · cases hstep
      unfold Uploads.handlerEnded
      split_ifs
      · rw [releaseUpload_phase, hother _ hj]
        exact Or.inl rfl
      · exact Or.inl (hother _ hj)
    · cases hstep
  | onResponse | onRequestAbort | onTimeout =>
    cases hstep
    exact Or.inl (releaseUpload_phase s i j)

omit [DecidableEq ι] in
theorem Sound.held_of_processes (h : s.Sound) (hi : s.Processes i) : i ∈ s.uploads :=
  ((h.lawful i).consistent.mpr hi).1

/-- The counter is the number of leases and never over four, four handlers at most are at work, each
on a lease that it keeps until it settles, and no lease is left when the reply has closed. -/
theorem upload_leases (h : (machine ι).Reachable (· = initial) s) :
    (s.activeUploads = s.uploads.card ∧ 0 ≤ s.activeUploads ∧ s.activeUploads ≤ 4) ∧
      (∀ handlers : Finset ι, (∀ i ∈ handlers, s.Processes i) → handlers.card ≤ 4) ∧
      (∀ i, s.Processes i → i ∈ s.uploads ∧ ∀ e s', (machine ι).step s e = some s' →
        s'.Processes i ∧ i ∈ s'.uploads ∨
          ∃ succeeds, e = ⟨i, .handlerEnded succeeds⟩ ∧ i ∉ s'.uploads) ∧
      ∀ i, (s.requests i).destroyed = true → ¬s.InFlight i → i ∉ s.uploads := by
  have hsound := reachable_sound h
  have hcounted := hsound.counted
  have hcapacity : (s.uploads.card : ℤ) ≤ 4 := hsound.capacity
  refine ⟨⟨hcounted, by omega, by omega⟩, ?_, ?_, ?_⟩
  · intro handlers hprocess
    have hsubset : handlers ⊆ s.uploads := fun i hi => hsound.held_of_processes (hprocess i hi)
    have hle := Finset.card_le_card hsubset
    omega
  · intro i hi
    refine ⟨hsound.held_of_processes hi, fun e s' hstep => ?_⟩
    have hsound' := step_sound hsound hstep
    rcases step_phase hstep i with hsame | ⟨rfl, hearly | ⟨succeeds, hended⟩⟩
    · have hi' : s'.Processes i := hsame.trans hi
      exact Or.inl ⟨hi', hsound'.held_of_processes hi'⟩
    · rw [hi] at hearly
      simp at hearly
    · refine Or.inr ⟨succeeds, by rw [← hended], ?_⟩
      have hsettled : (s'.requests e.request).phase = .settled := by
        simp only [machine, step, hended, show (s.requests e.request).phase = .handling true from hi,
          Uploads.handlerEnded, if_true, Option.some.injEq] at hstep
        rw [← hstep, releaseUpload_phase, change_self]
      apply hsound'.not_held <;> rw [hsettled] <;> decide
  · intro i hclosed hidle hheld
    cases hprocessing : (s.requests i).processing with
    | true => exact hidle ⟨true, (hsound.lawful i).consistent.mp ⟨hheld, hprocessing⟩⟩
    | false =>
      have hopen := ((hsound.lawful i).waits hheld hprocessing).2.1
      rw [hclosed] at hopen
      cases hopen

/-- A client that goes while its photo is decoded, and another that waits for its handler. -/
theorem upload_leases_disconnected : ∃ s : Uploads ℕ, (machine ℕ).run initial [
      ⟨0, .received⟩, ⟨1, .received⟩, ⟨0, .authorised⟩, ⟨1, .authorised⟩, ⟨0, .bodyCompleted⟩,
      ⟨0, .handlerStarted⟩, ⟨0, .clientAborted⟩, ⟨0, .replyClosed⟩, ⟨0, .onRequestAbort⟩] = some s ∧
    s.activeUploads = 2 ∧ (s.requests 0).destroyed = true ∧ s.Processes 0 ∧ 0 ∈ s.uploads := by
  obtain ⟨s, hrun, hcount, hdestroyed, hprocesses⟩ : ∃ s : Uploads ℕ, (machine ℕ).run initial [
      ⟨0, .received⟩, ⟨1, .received⟩, ⟨0, .authorised⟩, ⟨1, .authorised⟩, ⟨0, .bodyCompleted⟩,
      ⟨0, .handlerStarted⟩, ⟨0, .clientAborted⟩, ⟨0, .replyClosed⟩, ⟨0, .onRequestAbort⟩] = some s ∧
      s.activeUploads = 2 ∧ (s.requests 0).destroyed = true ∧
        (s.requests 0).phase = .handling true :=
    Transition.Machine.exists_run (by decide +kernel)
  obtain ⟨-, -, hkeeps, -⟩ := upload_leases ⟨_, _, rfl, hrun⟩
  exact ⟨s, hrun, hcount, hdestroyed, hprocesses, (hkeeps 0 hprocesses).1⟩

end Uploads
end CSO.HumanOperations
