import CSO.HumanOperations.EvidenceSteps
import CSO.Transition.Machine

/-! The service as a machine: the operations of both repositories, in any order, over the tables
of a scope and over the database of all scopes. -/
namespace CSO.HumanOperations
open Transition (Machine transaction storeAfter)

/-- An operation with its input, the identifier it draws and what it finds locked. -/
inductive Operation
  | openCase (input : OpenHumanCaseInput) (uuid : JS.Uuid)
  | closeCase (input : CloseHumanCaseInput)
  | getCase (scope : Scope) (caseId : String)
  | claimCase (input : ClaimHumanCaseInput)
  | reassignCase (input : ReassignHumanCaseInput)
  | decideCase (input : DecideHumanCaseInput) (uuid : JS.Uuid)
  | isOutboxPending (scope : Scope) (eventId : String)
  | listPendingOutbox (scope : Scope) (limit : ℕ)
  | markOutboxDelivered (scope : Scope) (eventId : String)
  | ensure (input : EnsureEvidenceInput) (uuid : JS.Uuid)
  | getEvidence (scope : EvidenceScope) (workflowId : String)
  | beginUpload (input : BeginUploadInput) (uuid : JS.Uuid)
  | finishUpload (input : FinishUploadInput)
  | review (input : ReviewInput) (uuid : JS.Uuid)
  | transition (input : TransitionEvidenceInput)
  | recoverStaleUploads (scope : EvidenceScope) (locked : List String)
  | purge (scope : Scope) (options : PurgeOptions) (locked : List String)

inductive Reply
  | case (row : CaseRow)
  | decision (row : CaseRow) (event : OutboxRow)
  | pending (b : Bool)
  | events (rows : List OutboxRow)
  | snapshot (snapshot : EvidenceSnapshot)
  | record (record : EvidenceRecord)
  | reservation (reservation : UploadReservation)
  | done
  deriving DecidableEq, Repr

namespace Operation

def scope : Operation → Scope
  | openCase input _ => input.scope
  | closeCase input => input.scope
  | getCase scope _ => scope
  | claimCase input => input.scope
  | reassignCase input => input.scope
  | decideCase input _ => input.scope
  | isOutboxPending scope _ => scope
  | listPendingOutbox scope _ => scope
  | markOutboxDelivered scope _ => scope
  | ensure input _ => input.scope
  | getEvidence scope _ => scope.toScope
  | beginUpload input _ => input.scope.toScope
  | finishUpload input => input.scope.toScope
  | review input _ => input.scope.toScope
  | transition input => input.scope.toScope
  | recoverStaleUploads scope _ => scope.toScope
  | purge scope _ _ => scope

def deed : Operation → Dossier.Deed
  | openCase _ _ => .opening
  | closeCase _ => .closing
  | claimCase _ => .assigning
  | reassignCase _ => .assigning
  | decideCase _ _ => .deciding
  | markOutboxDelivered _ _ => .delivering
  | ensure _ _ => .collecting
  | transition _ => .transitioning
  | _ => .saving

/-- `randomUUID` never returns an identifier that a photo has. -/
def Draws (t : Tables) : Operation → Prop
  | beginUpload _ uuid => t.Unused uuid
  | _ => True

instance (t : Tables) (op : Operation) : Decidable (op.Draws t) := by
  cases op <;> unfold Draws
  case beginUpload uuid => exact inferInstanceAs (Decidable (∀ row ∈ t.evidence.rows, _))
  all_goals exact instDecidableTrue

/-- A transaction and its reply. -/
def reply {α : Type} (answer : α → Reply) (work : Work α) : Work Reply := do
  return answer (← work)

def exec (now : ℤ) : Operation → Work Reply
  | openCase input uuid => reply .case (HumanOperations.openCase input uuid now)
  | closeCase input => reply .case (HumanOperations.closeCase input now)
  | getCase _ caseId => reply .case (HumanOperations.getCase caseId)
  | claimCase input => reply .case (HumanOperations.claimCase input now)
  | reassignCase input => reply .case (HumanOperations.reassignCase input now)
  | decideCase input uuid =>
    reply (fun result => .decision result.1 result.2) (HumanOperations.decideCase input uuid now)
  | isOutboxPending _ eventId => reply .pending (HumanOperations.isOutboxPending eventId)
  | listPendingOutbox _ limit => reply .events (HumanOperations.listPendingOutbox limit)
  | markOutboxDelivered _ eventId =>
    reply (fun _ => .done) (HumanOperations.markOutboxDelivered eventId)
  | ensure input uuid => reply .snapshot (HumanOperations.ensure input uuid now)
  | getEvidence scope workflowId => reply .record (HumanOperations.getEvidence scope workflowId)
  | beginUpload input uuid => reply .reservation (HumanOperations.beginUpload input uuid now)
  | finishUpload input => reply .snapshot (HumanOperations.finishUpload input now)
  | review input uuid => reply .snapshot (HumanOperations.review input uuid now)
  | transition input => reply .snapshot (HumanOperations.transition input now)
  | recoverStaleUploads scope locked =>
    reply (fun _ => .done) (HumanOperations.recoverStaleUploads scope locked now)
  | purge _ options locked => reply (fun _ => .done) (HumanOperations.purge options locked now)

end Operation

structure Event where
  operation : Operation
  now : ℤ

/-- The clock shows a year of four digits. -/
def machine : Machine Tables Event where
  step t e :=
    if e.operation.Draws t ∧ JS.Date.FourDigitYear e.now then some (storeAfter (e.operation.exec e.now) t) else none

/-- The tables of every scope. An operation sees and changes those of its own. -/
abbrev Database := Scope → Tables

def database : Machine Database Event := machine.family fun e => e.operation.scope

def IsEmpty (t : Tables) : Prop := t = .empty

def Database.IsEmpty (db : Database) : Prop := ∀ scope, HumanOperations.IsEmpty (db scope)

variable {t u : Tables}

theorem database_reachable {db : Database} {scope : Scope}
    (h : database.Reachable Database.IsEmpty db) :
    machine.Reachable IsEmpty (db scope) :=
  (Transition.Refinement.ofFamily machine (fun e => e.operation.scope) scope).reachable
    (fun _ h₀ => h₀ scope) h

theorem database_run {db db' : Database} {scope : Scope} {es : List Event}
    (h : database.run db es = some db') :
    ∃ fs, machine.run (db scope) fs = some (db' scope) :=
  (Transition.Refinement.ofFamily machine (fun e => e.operation.scope) scope).run h

/-! Every operation is a transaction. -/

@[simp] theorem reply_ok {α : Type} {answer : α → Reply} {work : Work α} {r : Reply} :
    (Operation.reply answer work).run t = .ok r u ↔ ∃ a, work.run t = .ok a u ∧ answer a = r := by
  simp only [Operation.reply, Transition.bind_ok, Transition.pure_ok]
  constructor
  · rintro ⟨a, v, h, rfl, rfl⟩
    exact ⟨a, h, rfl⟩
  · rintro ⟨a, h, rfl⟩
    exact ⟨a, u, h, rfl, rfl⟩

theorem reply_error {α : Type} {answer : α → Reply} {work : Work α} {e : Failure}
    (h : (Operation.reply answer (transaction work)).run t = .error e u) : u = t :=
  Transition.transaction_error (Transition.bind_pure_error.mp h)

/-- An operation that throws leaves the tables as they were. -/
theorem exec_error {op : Operation} {now : ℤ} {e : Failure}
    (h : (op.exec now).run t = .error e u) : u = t := by
  cases op <;> exact reply_error h

/-- The tables after a step are those that its operation leaves. -/
theorem step_reply {db db' : Database} {e : Event} {r : Reply}
    (hstep : database.step db e = some db')
    (h : (e.operation.exec e.now).run (db e.operation.scope) = .ok r u) :
    e.operation.Draws (db e.operation.scope) ∧ JS.Date.FourDigitYear e.now ∧
      db' e.operation.scope = u := by
  obtain ⟨v, hv, rfl⟩ := Option.map_eq_some_iff.mp hstep
  simp only [machine] at hv
  split_ifs at hv with hguard
  cases hv
  refine ⟨hguard.1, hguard.2, ?_⟩
  rw [Function.update_self, storeAfter, h]

/-- An operation that throws leaves the tables of every scope. -/
theorem step_failure {db db' : Database} {e : Event} {failure : Failure}
    (hstep : database.step db e = some db')
    (h : (e.operation.exec e.now).run (db e.operation.scope) = .error failure u) : db' = db := by
  obtain ⟨v, hv, rfl⟩ := Option.map_eq_some_iff.mp hstep
  simp only [machine] at hv
  split_ifs at hv with hguard
  cases hv
  rw [storeAfter, h]
  simp only
  rw [exec_error h]
  exact Function.update_eq_self _ _

theorem exec_moves {op : Operation} {now : ℤ} {r : Reply} (hb : t.Bound) (hdraws : op.Draws t)
    (hnow : JS.Date.FourDigitYear now) (h : (op.exec now).run t = .ok r u) :
    t.Moves op.deed u := by
  cases op with
  | openCase input uuid =>
    obtain ⟨row, hrun, -⟩ := reply_ok.mp h
    exact openCase_moves hrun
  | closeCase input =>
    obtain ⟨row, hrun, -⟩ := reply_ok.mp h
    exact closeCase_moves hrun
  | getCase scope caseId =>
    obtain ⟨row, hrun, -⟩ := reply_ok.mp h
    simp only [getCase, Transition.transaction_ok, requireCase_ok] at hrun
    exact hrun.2 ▸ Tables.Moves.refl t _
  | claimCase input =>
    obtain ⟨row, hrun, -⟩ := reply_ok.mp h
    exact claimCase_moves hrun
  | reassignCase input =>
    obtain ⟨row, hrun, -⟩ := reply_ok.mp h
    exact reassignCase_moves hrun
  | decideCase input uuid =>
    obtain ⟨result, hrun, -⟩ := reply_ok.mp h
    exact decideCase_moves hrun
  | isOutboxPending scope eventId =>
    obtain ⟨b, hrun, -⟩ := reply_ok.mp h
    simp only [isOutboxPending, Transition.transaction_ok, Transition.bind_ok, selectOutbox_ok,
      Transition.pure_ok] at hrun
    obtain ⟨_, _, ⟨-, rfl⟩, -, rfl⟩ := hrun
    exact Tables.Moves.refl _ _
  | listPendingOutbox scope limit =>
    obtain ⟨rows, hrun, -⟩ := reply_ok.mp h
    simp only [listPendingOutbox, Transition.transaction_ok, Transition.bind_ok, Transition.get_ok,
      Transition.pure_ok] at hrun
    obtain ⟨_, _, ⟨-, rfl⟩, -, rfl⟩ := hrun
    exact Tables.Moves.refl _ _
  | markOutboxDelivered scope eventId =>
    obtain ⟨i, hrun, -⟩ := reply_ok.mp h
    exact markOutboxDelivered_moves hrun
  | ensure input uuid =>
    obtain ⟨snapshot, hrun, -⟩ := reply_ok.mp h
    exact ensure_moves hrun
  | getEvidence scope workflowId =>
    obtain ⟨record, hrun, -⟩ := reply_ok.mp h
    simp only [getEvidence, Transition.transaction_ok] at hrun
    exact (load_ok hrun).1 ▸ Tables.Moves.refl t _
  | beginUpload input uuid =>
    obtain ⟨reservation, hrun, -⟩ := reply_ok.mp h
    exact (beginUpload_ok hb hdraws hnow hrun).1
  | finishUpload input =>
    obtain ⟨snapshot, hrun, -⟩ := reply_ok.mp h
    exact (finishUpload_ok hb hrun).1
  | review input uuid =>
    obtain ⟨snapshot, hrun, -⟩ := reply_ok.mp h
    exact (review_ok hb hrun).1
  | transition input =>
    obtain ⟨snapshot, hrun, -⟩ := reply_ok.mp h
    exact transition_moves hb hrun
  | recoverStaleUploads scope locked =>
    obtain ⟨i, hrun, -⟩ := reply_ok.mp h
    exact recoverStaleUploads_moves hb hrun
  | purge scope options locked =>
    obtain ⟨i, hrun, -⟩ := reply_ok.mp h
    exact purge_moves hb hrun

theorem step_moves {e : Event} (hb : t.Bound) (h : machine.step t e = some u) :
    t.Moves e.operation.deed u := by
  simp only [machine] at h
  split_ifs at h with hdraws
  cases h
  unfold storeAfter
  cases hrun : (e.operation.exec e.now).run t with
  | ok r v => exact exec_moves hb hdraws.1 hdraws.2 hrun
  | error failure v => exact exec_error hrun ▸ Tables.Moves.refl t _

/-! Invariants of dossiers. -/

/-- What holds of every dossier that is opened and what every step of a dossier keeps. -/
structure Dossier.Invariant (I : Dossier → Prop) : Prop where
  opened : ∀ {deed} d, Opened deed d → I d
  next : ∀ {deed} d d', I d → d.Next deed d' → I d'

namespace Dossier.Invariant
variable {I J : Dossier → Prop}

theorem moves (hI : Dossier.Invariant I) {deed : Dossier.Deed} (hm : t.Moves deed u) (h : ∀ id d, t.dossier id = some d → I d) :
    ∀ id d, u.dossier id = some d → I d := by
  intro id d hd
  have hmove := hm id
  rw [hd] at hmove
  generalize ht : t.dossier id = before at hmove
  cases hmove with
  | same => exact h id d ht
  | opened ho => exact hI.opened d ho
  | next hn => exact hI.next _ d (h id _ ht) hn

theorem and (hI : Dossier.Invariant I) (hJ : Dossier.Invariant J) :
    Dossier.Invariant fun d => I d ∧ J d where
  opened d h := ⟨hI.opened d h, hJ.opened d h⟩
  next d d' h hn := ⟨hI.next d d' h.1 hn, hJ.next d d' h.2 hn⟩

end Dossier.Invariant

theorem Dossier.bound_invariant : Dossier.Invariant Dossier.Bound where
  opened d h := by
    cases h with
    | case input uuid now =>
      intro row hrow
      cases hrow
    | collection input uuid now =>
      intro row hrow
      cases hrow
      rfl
  next d d' h hn := by
    cases hn with
    | closed workflowId details now hopen => exact h
    | assigned staffId details now hopen => exact h
    | decided event hstatus hassigned hallowed hcase hworkflow => exact h
    | delivered eventId => exact h
    | saved row hrow document hnext event actorType actorId details now hevent =>
      intro row' hrow'
      simp only [Dossier.log, Dossier.saveDocument, hrow, Option.map_some, Option.some.injEq] at hrow'
      exact hrow' ▸ h row hrow
    | transitioned row hrow input now haccepted hretired htype hopen =>
      intro row' hrow'
      simp only [Dossier.enterPhase, Dossier.log, Dossier.saveDocument, hrow, Option.map_some,
        Option.some.injEq] at hrow'
      exact hrow' ▸ h row hrow

theorem no_dossier (caseId : String) : Tables.empty.dossier caseId = none := rfl

theorem step_bound {e : Event} (hb : t.Bound) (h : machine.step t e = some u) : u.Bound :=
  Dossier.bound_invariant.moves (step_moves hb h) hb

theorem reachable_bound (h : machine.Reachable IsEmpty t) : t.Bound := by
  apply h.invariant (I := Tables.Bound)
  · intro s hs id d hd
    rw [hs, no_dossier] at hd
    cases hd
  · intro s e u hb hstep
    exact step_bound hb hstep

/-- An invariant of dossiers holds of every dossier of a reachable state. -/
theorem Dossier.Invariant.reachable {I : Dossier → Prop} (hI : Dossier.Invariant I)
    (h : machine.Reachable IsEmpty t) {caseId : String} {d : Dossier}
    (hd : t.dossier caseId = some d) : I d := by
  have hall : t.Bound ∧ ∀ id d, t.dossier id = some d → I d := by
    apply h.invariant (I := fun t => t.Bound ∧ ∀ id d, t.dossier id = some d → I d)
    · intro s hs
      have hnone : ∀ id d, s.dossier id ≠ some d := by
        intro id d hd
        rw [hs, no_dossier] at hd
        cases hd
      exact ⟨fun id d hd => absurd hd (hnone id d), fun id d hd => absurd hd (hnone id d)⟩
    · rintro s e u ⟨hb, hs⟩ hstep
      exact ⟨step_bound hb hstep, hI.moves (step_moves hb hstep) hs⟩
  exact hall.2 caseId d hd

/-- What the steps of a dossier keep of it, every later state keeps: a dossier stays. -/
theorem dossier_run {R : Dossier → Dossier → Prop} (hrefl : ∀ d, R d d)
    (htrans : ∀ d d' d'', R d d' → R d' d'' → R d d'') {I : Dossier → Prop}
    (hI : Dossier.Invariant I) (hR : ∀ {deed} d d', I d → d.Next deed d' → R d d')
    (h : machine.Reachable IsEmpty t) {es : List Event} (hrun : machine.run t es = some u)
    {caseId : String} {d : Dossier} (hd : t.dossier caseId = some d) :
    ∃ d', u.dossier caseId = some d' ∧ R d d' := by
  have hall := Transition.Machine.run_invariant
    (I := fun v => machine.Reachable IsEmpty v ∧ ∃ d', v.dossier caseId = some d' ∧ R d d')
    (by
      rintro s e v ⟨hs, d', hd', hr⟩ hstep
      refine ⟨hs.step hstep, ?_⟩
      have hmove := step_moves (reachable_bound hs) hstep caseId
      rw [hd'] at hmove
      generalize hv : v.dossier caseId = after at hmove
      cases hmove with
      | same => exact ⟨d', rfl, hr⟩
      | next hn => exact ⟨_, rfl, htrans d d' _ hr (hR d' _ (hI.reachable hs hd') hn)⟩)
    ⟨h, d, hd, hrefl d⟩ hrun
  exact hall.2

/-! A case from its collection to its end. -/
namespace Journey

def scope : Scope := ⟨"tenant-1", "production"⟩

def evidenceScope : EvidenceScope := { scope with subjectCustomerId := none }

def caseUuid : JS.Uuid := ⟨"0b9f6a52-3c1d-4e7a-8f00-000000000001", by decide⟩

def photoUuid : JS.Uuid := ⟨"0b9f6a52-3c1d-4e7a-8f00-000000000002", by decide⟩

def caseId : String := "case-0b9f6a52-3c1d-4e7a-8f00-000000000001"

def packet : RefundReviewPacket where
  orderReference := some "T_1001"
  selectedItemIds := some ["line-1"]
  requestedAmount := some ⟨2500, "GBP"⟩
  refundReason := some "DAMAGED"
  policyReasonCodes := ["DAMAGE_EVIDENCE_REQUIRED"]
  evidenceIds := ["fact-1"]
  knowledgeReleaseId := none
  policyVersion := "refund-policy-v2"

def collection : EnsureEvidenceInput where
  scope
  subjectCustomerId := "customer-1"
  workflowId := "refund-1"
  orderId := "order-1"
  proposalId := "proposal-1"
  selectedItemIds := ["line-1"]
  policyVersion := "refund-policy-v2"
  reviewPacket := packet
  workflowAccepted := by decide
  idsAccepted := by decide
  itemsDistinct := by decide
  packetItems := rfl
  packetPolicy := rfl

def staff : HumanAccess := ⟨"staff-1", "tenant-1", "production", .refundApprover⟩

def claim (version : ℕ) (key : String) : ClaimHumanCaseInput where
  scope
  caseId
  staffId := "staff-1"
  expectedCaseVersion := version
  idempotencyKey := key

def upload : BeginUploadInput where
  scope := evidenceScope
  workflowId := "refund-1"
  expectedRevision := 0
  idempotencyKey := "upload-key-1"
  fingerprint := "upload-fingerprint-1"
  byteSize := 4096
  contentType := .jpeg

def uploaded : FinishUploadInput where
  scope := evidenceScope
  workflowId := "refund-1"
  evidenceId := photoUuid.text
  result := .normalized ⟨.jpeg, 2048, 640, 480,
    "9f86d081884c7d659a2feaa0c55ad015a3bf4f1b2b0b822cd15d6c15b0f00a08", by decide, by decide,
    by decide⟩

def acceptance : ReviewInput where
  scope := evidenceScope
  workflowId := "refund-1"
  access := staff
  command := ⟨.acceptEvidence, 4, 2, .damageVisible, none, by decide⟩
  idempotencyKey := "review-key-1"

def phase : TransitionEvidenceInput where
  scope := evidenceScope
  workflowId := "refund-1"
  caseType := .refundApproval
  reviewPacket := packet
  policyVersion := "refund-policy-v2"
  expectedEvidenceVersion := 2
  idempotencyKey := "workflow:refund-1:evidence:transition:REFUND_APPROVAL:2"
  decides := by decide

def decision (version : ℕ) (decision : HumanDecision) : DecideHumanCaseInput where
  scope
  caseId
  staffId := "staff-1"
  decision
  reasonCode := none
  note := none
  expectedCaseVersion := version
  idempotencyKey := "decision-key-1"

def closing : CloseHumanCaseInput := ⟨scope, caseId, "refund-1", none⟩

/-- The collection, with its evidence accepted. -/
def accepted : List Event := [
  ⟨.ensure collection caseUuid, 1786190700000⟩,
  ⟨.claimCase (claim 1 "claim-key-1"), 1786190701000⟩,
  ⟨.beginUpload upload photoUuid, 1786190702000⟩,
  ⟨.finishUpload uploaded, 1786190703000⟩,
  ⟨.review acceptance caseUuid, 1786190704000⟩]

/-- The case after the transition, decided. -/
def decided : List Event := accepted ++ [
  ⟨.transition phase, 1786190705000⟩,
  ⟨.claimCase (claim 6 "claim-key-2"), 1786190706000⟩,
  ⟨.decideCase (decision 7 .approve) photoUuid, 1786190707000⟩]

def closed : List Event := decided ++ [⟨.closeCase closing, 1786190708000⟩]

end Journey
end CSO.HumanOperations
