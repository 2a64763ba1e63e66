import CSO.HumanOperations.Governance
import CSO.JS.Canonical
import CSO.Transition.Frame

/-! Replays of the actions on a case: claims, reassignments and decisions under one key. -/
namespace CSO.HumanOperations
open Transition (Table Leaves)
open Work

variable {t u : Tables} {db db' : Database}

/-! The operations that have no records of their own leave those of others. -/

theorem leaves_selectCase (caseId : String) : Leaves Tables.idempotency (selectCase caseId) := .read _

theorem leaves_selectCaseOf (workflowId : String) :
    Leaves Tables.idempotency (selectCaseOf workflowId) := .read _

theorem leaves_selectOutbox (eventId : String) :
    Leaves Tables.idempotency (selectOutbox eventId) := .read _

theorem leaves_insertCase (row : CaseRow) : Leaves Tables.idempotency (insertCase row) := by
  intro s b v h
  simp only [insertCase, EStateM.run] at h
  split_ifs at h <;> cases h <;> rfl

theorem leaves_updateCase (caseId : String) (change : CaseRow → CaseRow)
    (hid : ∀ row, (change row).caseId = row.caseId)
    (hw : ∀ row, (change row).workflowId = row.workflowId) :
    Leaves Tables.idempotency (updateCase caseId change hid hw) := by
  rintro s i v ⟨⟩
  rfl

theorem leaves_insertAudit (row : AuditRow) : Leaves Tables.idempotency (insertAudit row) := by
  intro s i v h
  obtain ⟨hc, rfl⟩ := insertAudit_ok h
  rfl

theorem leaves_insertOutbox (row : OutboxRow) : Leaves Tables.idempotency (insertOutbox row) := by
  intro s i v h
  obtain ⟨hid, hc, rfl⟩ := insertOutbox_ok h
  rfl

theorem leaves_updateOutbox (eventId : String) :
    Leaves Tables.idempotency (updateOutbox eventId) := by
  rintro s i v ⟨⟩
  rfl

theorem leaves_insertEvidence (row : EvidenceRow) :
    Leaves Tables.idempotency (insertEvidence row) := by
  intro s i v h
  simp only [insertEvidence, EStateM.run] at h
  split_ifs at h
  cases h
  rfl

theorem leaves_updateDocument (workflowId : String) (document : EvidenceDocument) :
    Leaves Tables.idempotency (updateDocument workflowId document) := by
  rintro s i v ⟨⟩
  rfl

theorem leaves_selectRecord (workflowId : String) :
    Leaves Tables.idempotency (selectRecord workflowId) := .read _

theorem leaves_selectBatch (eligible : EvidenceRecord → Bool) (locked : List String) :
    Leaves Tables.idempotency (selectBatch eligible locked) := .read _

theorem leaves_load (subjectCustomerId : Option String) (workflowId : String) :
    Leaves Tables.idempotency (load subjectCustomerId workflowId) :=
  .bind (leaves_selectRecord workflowId) fun found => .bind (.required found _) fun record =>
    .bind (.throwIf _ _) fun _ => .pure record

theorem leaves_appendAudit (humanCase : CaseRow) (eventType : CaseEventType)
    (actorType : ActorType) (actorId : String) (details : List (String × String)) (now : ℤ) :
    Leaves Tables.idempotency (appendAudit humanCase eventType actorType actorId details now) :=
  leaves_insertAudit _

theorem leaves_save (record : EvidenceRecord) (document : EvidenceDocument) (event : CaseEventType)
    (actorType : ActorType) (actorId : String) (details : List (String × String)) (now : ℤ) :
    Leaves Tables.idempotency (save record document event actorType actorId details now) :=
  .bind (leaves_updateDocument _ _) fun _ => .bind (leaves_updateCase _ _ _ _) fun _ =>
    .bind (leaves_selectCase _) fun found => .bind (.required found _) fun changed =>
      .bind (leaves_appendAudit changed _ _ _ _ _) fun _ => .pure _

theorem leaves_requireCase (caseId : String) : Leaves Tables.idempotency (requireCase caseId) :=
  .bind (leaves_selectCase caseId) fun found => .required found _

theorem leaves_reviseCase (caseId : String) (now : ℤ) (change : CaseRow → CaseRow)
    (hid : ∀ row, (change row).caseId = row.caseId)
    (hw : ∀ row, (change row).workflowId = row.workflowId) :
    Leaves Tables.idempotency (reviseCase caseId now change hid hw) :=
  .bind (leaves_updateCase _ _ _ _) fun _ => .bind (leaves_selectCase caseId) fun found =>
    .required found _

theorem leaves_openCase (input : OpenHumanCaseInput) (uuid : JS.Uuid) (now : ℤ) :
    Leaves Tables.idempotency (openCase input uuid now) := by
  refine .transaction (.bind (leaves_selectCaseOf _) fun found => ?_)
  cases found with
  | some current => exact .bind (.throwIf _ _) fun _ => .pure current
  | none =>
    refine .bind (leaves_insertCase _) fun inserted => .ite ?_ ?_
    · exact .bind (leaves_appendAudit _ _ _ _ _ _) fun _ => .pure _
    · exact .bind (leaves_selectCaseOf _) fun found => .bind (.required found _) fun current =>
        .bind (.throwIf _ _) fun _ => .pure current

theorem leaves_closeCase (input : CloseHumanCaseInput) (now : ℤ) :
    Leaves Tables.idempotency (closeCase input now) := by
  refine .transaction (.bind (leaves_requireCase _) fun current => .bind (.throwIf _ _) fun _ =>
    .ite (.pure current) ?_)
  exact .bind (leaves_reviseCase _ _ _ _ _) fun closed =>
    .bind (leaves_appendAudit closed _ _ _ _ _) fun _ => .pure closed

theorem leaves_ensure (input : EnsureEvidenceInput) (uuid : JS.Uuid) (now : ℤ) :
    Leaves Tables.idempotency (ensure input uuid now) := by
  refine .transaction (.bind (leaves_selectRecord _) fun found => .ite ?_ ?_)
  · exact .bind (leaves_load _ _) fun record => .bind (.throwIf _ _) fun _ => .pure _
  · exact .bind (leaves_insertCase _) fun inserted => .bind (.throwIf _ _) fun _ =>
      .bind (leaves_insertEvidence _) fun _ => .bind (leaves_load _ _) fun record =>
        .bind (leaves_appendAudit _ _ _ _ _ _) fun _ => .pure _

theorem leaves_beginUpload (input : BeginUploadInput) (uuid : JS.Uuid) (now : ℤ) :
    Leaves Tables.idempotency (beginUpload input uuid now) := by
  refine .transaction (.bind (leaves_load _ _) fun record => ?_)
  split
  · exact .bind (.throwIf _ _) fun _ => .pure _
  · exact .bind (.throwIf _ _) fun _ => .bind (.throwIf _ _) fun _ => .bind (.throwIf _ _) fun _ =>
      .bind (.required _ _) fun uploadedAt => .bind (leaves_save _ _ _ _ _ _ _) fun saved => .pure _

theorem leaves_finishUpload (input : FinishUploadInput) (now : ℤ) :
    Leaves Tables.idempotency (finishUpload input now) := by
  refine .transaction (.bind (leaves_load _ _) fun record => .bind (.required _ _) fun photo =>
    .ite (.pure _) ?_)
  exact .bind (leaves_save _ _ _ _ _ _ _) fun saved => .pure _

theorem leaves_review (input : ReviewInput) (uuid : JS.Uuid) (now : ℤ) :
    Leaves Tables.idempotency (review input uuid now) := by
  refine .transaction (.bind (leaves_load _ _) fun record => ?_)
  split
  · exact .bind (.throwIf _ _) fun _ => .pure _
  · exact .throw _
  · exact .bind (.throwIf _ _) fun _ => .bind (.throwIf _ _) fun _ => .bind (.throwIf _ _) fun _ =>
      .bind (.throwIf _ _) fun _ => .bind (leaves_save _ _ _ _ _ _ _) fun saved => .pure _

theorem leaves_transition (input : TransitionEvidenceInput) (now : ℤ) :
    Leaves Tables.idempotency (transition input now) := by
  refine .transaction (.bind (leaves_load _ _) fun record => ?_)
  split
  · exact .bind (.throwIf _ _) fun _ => .pure _
  · exact .throw _
  · exact .bind (.throwIf _ _) fun _ => .bind (.throwIf _ _) fun _ => .bind (.throwIf _ _) fun _ =>
      .bind (.throwIf _ _) fun _ => .bind (leaves_updateCase _ _ _ _) fun _ =>
        .bind (leaves_save _ _ _ _ _ _ _) fun saved => .pure _

theorem leaves_recoverStaleUploads (scope : EvidenceScope) (locked : List String) (now : ℤ) :
    Leaves Tables.idempotency (recoverStaleUploads scope locked now) := by
  refine .transaction (.bind (leaves_selectBatch _ _) fun rows => .forM (fun row => ?_) rows)
  exact .bind (leaves_load _ _) fun record => .bind (leaves_save _ _ _ _ _ _ _) fun _ => .pure _

theorem leaves_purge (options : PurgeOptions) (locked : List String) (now : ℤ) :
    Leaves Tables.idempotency (purge options locked now) := by
  refine .transaction (.bind (leaves_selectBatch _ _) fun rows => .forM (fun row => ?_) rows)
  refine .bind (.throwIf _ _) fun _ => .ite ?_ (.pure _)
  exact .bind (leaves_save _ _ _ _ _ _ _) fun _ => .pure _

/-! Records. -/

/-- Every record stays as it is. -/
def Tables.KeepsRecords (t u : Tables) : Prop :=
  ∀ key row, t.idempotency.find? key = some row → u.idempotency.find? key = some row

theorem keepsRecords_of_eq (h : u.idempotency = t.idempotency) : t.KeepsRecords u := by
  intro key row hrow
  rw [h]
  exact hrow

theorem reserveIdempotency_cases {key : IdempotencyKey} {fingerprint : String}
    {r : Option IdempotencyRow} (h : (reserveIdempotency key fingerprint).run t = .ok r u) :
    (r = none ∧ t.idempotency.find? key = none ∧ t.KeepsRecords u ∧
      u.idempotency.find? key = some ⟨key, fingerprint, none⟩) ∨
    ∃ row, r = some row ∧ u = t ∧ t.idempotency.find? key = some row ∧
      row.requestFingerprint = fingerprint := by
  simp only [reserveIdempotency, Transition.bind_ok] at h
  obtain ⟨b, v, hv, h⟩ := h
  simp only [insertIdempotency, EStateM.run] at hv
  split_ifs at hv with hfree
  · cases hv
    simp only [if_true, Transition.pure_ok] at h
    obtain ⟨rfl, rfl⟩ := h
    refine Or.inl ⟨rfl, hfree, fun other row hrow => ?_, ?_⟩
    · show (t.idempotency.insert _ hfree).find? other = some row
      rw [Table.find?_insert, if_neg]
      · exact hrow
      · rintro rfl
        rw [hfree] at hrow
        cases hrow
    · show (t.idempotency.insert _ hfree).find? key = _
      rw [Table.find?_insert, if_pos rfl]
  · cases hv
    simp only [Bool.false_eq_true, if_false, Transition.bind_ok, selectIdempotency_ok,
      Transition.required_ok, Transition.throwIf_ok, Transition.pure_ok, not_not] at h
    obtain ⟨_, _, ⟨hfind, rfl⟩, row, _, ⟨rfl, rfl⟩, _, _, ⟨hsame, rfl⟩, rfl, rfl⟩ := h
    exact Or.inr ⟨row, rfl, rfl, hfind, hsame⟩

/-- What is recorded of a request under its key, when `rest` is run where the key is new. -/
theorem reserved_record {α : Type} {key : IdempotencyKey} {fingerprint : String}
    {rest : Option IdempotencyRow → Work α} {a : α}
    (hrest : ∀ r, Leaves Tables.idempotency (rest r))
    (h : (reserveIdempotency key fingerprint >>= rest).run t = .ok a u) :
    t.KeepsRecords u ∧ ∃ row, u.idempotency.find? key = some row ∧
      row.requestFingerprint = fingerprint := by
  obtain ⟨r, v, hreserve, hrun⟩ := Transition.bind_ok.mp h
  have hleft := (hrest r).run hrun
  rcases reserveIdempotency_cases hreserve with ⟨rfl, -, hkeeps, hfind⟩ | ⟨row, rfl, rfl, hfind, hsame⟩
  · refine ⟨fun other row hrow => ?_, ⟨key, fingerprint, none⟩, ?_, rfl⟩
    · rw [hleft]
      exact hkeeps other row hrow
    · rw [hleft]
      exact hfind
  · refine ⟨keepsRecords_of_eq hleft, row, ?_, hsame⟩
    rw [hleft]
    exact hfind

theorem claimCase_record {input : ClaimHumanCaseInput} {now : ℤ} {row : CaseRow}
    (h : (claimCase input now).run t = .ok row u) :
    t.KeepsRecords u ∧ ∃ record,
      u.idempotency.find? ⟨.claim, input.caseId, input.idempotencyKey⟩ = some record ∧
        record.requestFingerprint = input.fingerprint := by
  refine reserved_record ?_ (Transition.transaction_ok.mp h)
  intro replay
  cases replay with
  | some replay => exact leaves_requireCase _
  | none =>
    refine .bind (leaves_requireCase _) fun current => .bind (.throwIf _ _) fun _ =>
      .bind (.throwIf _ _) fun _ => .ite (.pure current) ?_
    exact .bind (leaves_reviseCase _ _ _ _ _) fun claimed =>
      .bind (leaves_appendAudit claimed _ _ _ _ _) fun _ => .pure claimed

theorem reassignCase_record {input : ReassignHumanCaseInput} {now : ℤ} {row : CaseRow}
    (h : (reassignCase input now).run t = .ok row u) :
    t.KeepsRecords u ∧ ∃ record,
      u.idempotency.find? ⟨.reassign, input.caseId, input.idempotencyKey⟩ = some record ∧
        record.requestFingerprint = input.fingerprint := by
  refine reserved_record ?_ (Transition.transaction_ok.mp h)
  intro replay
  cases replay with
  | some replay => exact leaves_requireCase _
  | none =>
    refine .bind (leaves_requireCase _) fun current => .bind (.throwIf _ _) fun _ =>
      .bind (.throwIf _ _) fun _ => ?_
    exact .bind (leaves_reviseCase _ _ _ _ _) fun reassigned =>
      .bind (leaves_appendAudit reassigned _ _ _ _ _) fun _ => .pure reassigned

theorem find?_updateIdempotency {key : IdempotencyKey} {eventId : String} {i : Unit}
    (h : (updateIdempotency key eventId).run t = .ok i u) (other : IdempotencyKey) :
    u.idempotency.find? other = if other = key then
        (t.idempotency.find? other).map fun row => { row with outboxEventId := some eventId }
      else t.idempotency.find? other := by
  cases h
  rw [Table.find?_modify]
  split_ifs with hkey
  · rw [hkey]
  · rfl

/-- The record of a decision names the event that the decision returned. -/
theorem decideCase_record {input : DecideHumanCaseInput} {uuid : JS.Uuid} {now : ℤ}
    {result : CaseRow × OutboxRow} (h : (decideCase input uuid now).run t = .ok result u) :
    t.KeepsRecords u ∧ ∃ record, u.idempotency.find? input.key = some record ∧
      record.requestFingerprint = input.fingerprint ∧
      record.outboxEventId = some result.2.eventId := by
  simp only [decideCase, Transition.transaction_ok] at h
  obtain ⟨r, v, hreserve, hrun⟩ := Transition.bind_ok.mp h
  clear h
  rcases reserveIdempotency_cases hreserve with ⟨rfl, hnew, hkeeps, hfind⟩ | ⟨row, rfl, rfl, hfind, hsame⟩
  · obtain ⟨current, v₁, h₁, hrun⟩ := Transition.bind_ok.mp hrun
    obtain ⟨_, v₂, h₂, hrun⟩ := Transition.bind_ok.mp hrun
    obtain ⟨_, v₃, h₃, hrun⟩ := Transition.bind_ok.mp hrun
    obtain ⟨decided, v₄, h₄, hrun⟩ := Transition.bind_ok.mp hrun
    obtain ⟨_, v₅, h₅, hrun⟩ := Transition.bind_ok.mp hrun
    obtain ⟨_, v₆, h₆, hrun⟩ := Transition.bind_ok.mp hrun
    obtain ⟨_, v₇, h₇, hrun⟩ := Transition.bind_ok.mp hrun
    obtain ⟨rfl, rfl⟩ := Transition.pure_ok.mp hrun
    have hchecked : v₃.idempotency = v₂.idempotency ∧ v₂.idempotency = v₁.idempotency :=
      ⟨(Leaves.throwIf _ _).run h₃, (Leaves.throwIf _ _).run h₂⟩
    have hleft : v₅.idempotency = v.idempotency := by
      rw [(leaves_insertOutbox _).run h₅, (leaves_reviseCase _ _ _ _ _).run h₄, hchecked.1,
        hchecked.2, (leaves_requireCase _).run h₁]
    have hlast : v₇.idempotency = v₆.idempotency := (leaves_appendAudit _ _ _ _ _ _).run h₇
    constructor
    · intro key row hrow
      have hne : key ≠ input.key := by
        rintro rfl
        rw [hnew] at hrow
        cases hrow
      rw [hlast, find?_updateIdempotency h₆, if_neg hne, hleft]
      exact hkeeps key row hrow
    · refine ⟨⟨input.key, input.fingerprint, some _⟩, ?_, rfl, rfl⟩
      rw [hlast, find?_updateIdempotency h₆, if_pos rfl, hleft, hfind]
      rfl
  · obtain ⟨eventId, v₁, h₁, hrun⟩ := Transition.bind_ok.mp hrun
    obtain ⟨heventId, rfl⟩ := Transition.required_ok.mp h₁
    obtain ⟨found, v₂, h₂, hrun⟩ := Transition.bind_ok.mp hrun
    obtain ⟨hfound, rfl⟩ := selectOutbox_ok.mp h₂
    obtain ⟨event, v₃, h₃, hrun⟩ := Transition.bind_ok.mp hrun
    obtain ⟨rfl, rfl⟩ := Transition.required_ok.mp h₃
    obtain ⟨current, v₄, h₄, hrun⟩ := Transition.bind_ok.mp hrun
    obtain ⟨hcase, rfl⟩ := requireCase_ok.mp h₄
    obtain ⟨rfl, rfl⟩ := Transition.pure_ok.mp hrun
    refine ⟨keepsRecords_of_eq rfl, row, hfind, hsame, ?_⟩
    rw [heventId, ((Table.find?_eq_some _ _).mp hfound).2]

/-- No operation changes what is recorded. -/
theorem exec_keepsRecords {op : Operation} {now : ℤ} {r : Reply}
    (h : (op.exec now).run t = .ok r u) : t.KeepsRecords u := by
  cases op with
  | openCase input uuid =>
    obtain ⟨row, hrun, -⟩ := reply_ok.mp h
    exact keepsRecords_of_eq ((leaves_openCase _ _ _).run hrun)
  | closeCase input =>
    obtain ⟨row, hrun, -⟩ := reply_ok.mp h
    exact keepsRecords_of_eq ((leaves_closeCase _ _).run hrun)
  | getCase scope caseId =>
    obtain ⟨row, hrun, -⟩ := reply_ok.mp h
    exact keepsRecords_of_eq ((leaves_requireCase caseId).transaction.run hrun)
  | claimCase input =>
    obtain ⟨row, hrun, -⟩ := reply_ok.mp h
    exact (claimCase_record hrun).1
  | reassignCase input =>
    obtain ⟨row, hrun, -⟩ := reply_ok.mp h
    exact (reassignCase_record hrun).1
  | decideCase input uuid =>
    obtain ⟨result, hrun, -⟩ := reply_ok.mp h
    exact (decideCase_record hrun).1
  | isOutboxPending scope eventId =>
    obtain ⟨b, hrun, -⟩ := reply_ok.mp h
    have hleaves : Leaves Tables.idempotency (isOutboxPending eventId) :=
      .transaction (.bind (leaves_selectOutbox _) fun found => .pure _)
    exact keepsRecords_of_eq (hleaves.run hrun)
  | listPendingOutbox scope limit =>
    obtain ⟨rows, hrun, -⟩ := reply_ok.mp h
    have hleaves : Leaves Tables.idempotency (listPendingOutbox limit) := .transaction (.read _)
    exact keepsRecords_of_eq (hleaves.run hrun)
  | markOutboxDelivered scope eventId =>
    obtain ⟨i, hrun, -⟩ := reply_ok.mp h
    exact keepsRecords_of_eq ((leaves_updateOutbox eventId).transaction.run hrun)
  | ensure input uuid =>
    obtain ⟨snapshot, hrun, -⟩ := reply_ok.mp h
    exact keepsRecords_of_eq ((leaves_ensure _ _ _).run hrun)
  | getEvidence scope workflowId =>
    obtain ⟨record, hrun, -⟩ := reply_ok.mp h
    exact keepsRecords_of_eq ((leaves_load _ _).transaction.run hrun)
  | beginUpload input uuid =>
    obtain ⟨reservation, hrun, -⟩ := reply_ok.mp h
    exact keepsRecords_of_eq ((leaves_beginUpload _ _ _).run hrun)
  | finishUpload input =>
    obtain ⟨snapshot, hrun, -⟩ := reply_ok.mp h
    exact keepsRecords_of_eq ((leaves_finishUpload _ _).run hrun)
  | review input uuid =>
    obtain ⟨snapshot, hrun, -⟩ := reply_ok.mp h
    exact keepsRecords_of_eq ((leaves_review _ _ _).run hrun)
  | transition input =>
    obtain ⟨snapshot, hrun, -⟩ := reply_ok.mp h
    exact keepsRecords_of_eq ((leaves_transition _ _).run hrun)
  | recoverStaleUploads scope locked =>
    obtain ⟨i, hrun, -⟩ := reply_ok.mp h
    exact keepsRecords_of_eq ((leaves_recoverStaleUploads _ _ _).run hrun)
  | purge scope options locked =>
    obtain ⟨i, hrun, -⟩ := reply_ok.mp h
    exact keepsRecords_of_eq ((leaves_purge _ _ _).run hrun)

theorem step_keepsRecords {e : Event} (h : machine.step t e = some u) : t.KeepsRecords u := by
  simp only [machine] at h
  split_ifs at h
  cases h
  unfold Transition.storeAfter
  cases hrun : (e.operation.exec e.now).run t with
  | ok r v => exact exec_keepsRecords hrun
  | error failure v => exact exec_error hrun ▸ keepsRecords_of_eq rfl

/-! Requests of the routes. -/

/-- A decision as `decisionBodySchema` accepts it, by a verified staff member. -/
structure DecisionCommand where
  scope : Scope
  caseId : String
  staffId : String
  decision : HumanDecision
  reasonCode : Option JS.JsString
  note : Option JS.JsString
  expectedCaseVersion : ℕ
  idempotencyKey : String
  reasonAccepted : ∀ reason ∈ reasonCode, 1 ≤ reason.length ∧ reason.length ≤ 100
  noteAccepted : ∀ text ∈ note, 1 ≤ text.length ∧ text.length ≤ 2000
  noteRequired : decision ≠ .approve → note ≠ none
  deriving DecidableEq

/-- What the repository writes and hashes of a command: UTF-8 texts. -/
def DecisionCommand.input (command : DecisionCommand) : DecideHumanCaseInput where
  scope := command.scope
  caseId := command.caseId
  staffId := command.staffId
  decision := command.decision
  reasonCode := command.reasonCode.map JS.JsString.text
  note := command.note.map JS.JsString.text
  expectedCaseVersion := command.expectedCaseVersion
  idempotencyKey := command.idempotencyKey

def emptyString : JS.JsString := .ofText ""

/-- The template string of the fingerprint. -/
def DecisionCommand.template (command : DecisionCommand) : JS.JsString :=
  .ofText ("decision:" ++ toString command.expectedCaseVersion ++ ":" ++ command.staffId ++ ":" ++
      command.decision.text ++ ":") ++
    (command.reasonCode.getD emptyString ++ JS.JsString.ofText ":" ++
      command.note.getD emptyString)

theorem getD_text (value : Option JS.JsString) :
    (value.getD emptyString).text = (value.map JS.JsString.text).getD "" := by
  cases value with
  | none => rfl
  | some s => rfl

theorem DecisionCommand.fingerprint_eq (command : DecisionCommand) :
    command.input.fingerprint = JS.Sha256.hex command.template.text := by
  rw [template, JS.JsString.text_ofText_append, JS.JsString.text_append_colon, getD_text, getD_text]
  simp only [DecideHumanCaseInput.fingerprint, input, String.append_assoc]

inductive CaseRequest
  | claim (input : ClaimHumanCaseInput)
  | reassign (input : ReassignHumanCaseInput)
  | decision (command : DecisionCommand)
  deriving DecidableEq

namespace CaseRequest

def scope : CaseRequest → Scope
  | claim input => input.scope
  | reassign input => input.scope
  | decision command => command.scope

/-- Action, case and idempotency key. -/
def key : CaseRequest → IdempotencyKey
  | claim input => ⟨.claim, input.caseId, input.idempotencyKey⟩
  | reassign input => ⟨.reassign, input.caseId, input.idempotencyKey⟩
  | decision command => ⟨.decision, command.caseId, command.idempotencyKey⟩

/-- The text that is hashed. -/
def hashed : CaseRequest → String
  | claim input => "claim:" ++ toString input.expectedCaseVersion ++ ":" ++ input.staffId
  | reassign input =>
    "reassign:" ++ toString input.expectedCaseVersion ++ ":" ++ input.assignedStaffId
  | decision command => command.template.text

def operation (uuid : JS.Uuid) : CaseRequest → Operation
  | claim input => .claimCase input
  | reassign input => .reassignCase input
  | decision command => .decideCase command.input uuid

end CaseRequest

/-- The event that a reply is about. -/
def Reply.eventId? : Reply → Option String
  | .decision _ event => some event.eventId
  | _ => none

/-- The request is answered as the recorded one was, and nothing changes. -/
def Tables.Replays (t : Tables) (request : CaseRequest) (reply : Reply) : Prop :=
  ∀ uuid now, ∃ answer, ((request.operation uuid).exec now).run t = .ok answer t ∧
    answer.eventId? = reply.eventId?

/-- The request is refused, and nothing changes. -/
def Tables.Refuses (t : Tables) (request : CaseRequest) : Prop :=
  ∀ uuid now, ((request.operation uuid).exec now).run t =
    .error (.repository .idempotencyConflict) t

/-- What is kept of a request that was answered with `reply`. -/
structure Tables.Holds (t : Tables) (request : CaseRequest) (reply : Reply) : Prop where
  record : ∃ record, t.idempotency.find? request.key = some record ∧
    record.requestFingerprint = JS.Sha256.hex request.hashed ∧
    (request.key.action = .decision → record.outboxEventId = reply.eventId?)
  humanCase : (t.cases.find? request.key.caseId).isSome
  event : request.key.action = .decision →
    ∃ eventId, reply.eventId? = some eventId ∧ (t.outbox.find? eventId).isSome
  other : request.key.action ≠ .decision → reply.eventId? = none

theorem reserve_recorded {key : IdempotencyKey} {record : IdempotencyRow} (fingerprint : String)
    (h : t.idempotency.find? key = some record) : (reserveIdempotency key fingerprint).run t =
      if record.requestFingerprint = fingerprint then .ok (some record) t
      else .error (.repository .idempotencyConflict) t := by
  have hinsert : (insertIdempotency ⟨key, fingerprint, none⟩).run t = .ok false t := by
    simp only [insertIdempotency, EStateM.run]
    rw [dif_neg]
    rw [h]
    exact Option.some_ne_none _
  have hselect : (selectIdempotency key).run t = .ok (some record) t := selectIdempotency_ok.mpr ⟨h, rfl⟩
  rw [reserveIdempotency, Transition.bind_of_ok hinsert, if_neg Bool.false_ne_true,
    Transition.bind_of_ok hselect]
  have hrequired : (Transition.required (some record)
      (.error "Idempotency record disappeared") : Work IdempotencyRow).run t = .ok record t :=
    Transition.required_ok.mpr ⟨rfl, rfl⟩
  rw [Transition.bind_of_ok hrequired]
  split_ifs with hsame
  · have hpass : (Transition.throwIf (record.requestFingerprint ≠ fingerprint)
        (.repository .idempotencyConflict) : Work Unit).run t = .ok () t :=
      Transition.throwIf_ok.mpr ⟨not_not.mpr hsame, rfl⟩
    rw [Transition.bind_of_ok hpass]
    rfl
  · exact Transition.bind_of_error (Transition.throwIf_error.mpr ⟨hsame, rfl, rfl⟩)

theorem reply_of_ok {α : Type} {answer : α → Reply} {work : Work α} {a : α}
    (h : work.run t = .ok a t) : (Operation.reply answer work).run t = .ok (answer a) t :=
  reply_ok.mpr ⟨a, h, rfl⟩

theorem reply_of_error {α : Type} {answer : α → Reply} {work : Work α} {failure : Failure}
    (h : work.run t = .error failure t) :
    (Operation.reply answer work).run t = .error failure t := Transition.bind_pure_error.mpr h

theorem requireCase_of_isSome {caseId : String} (h : (t.cases.find? caseId).isSome) :
    ∃ row, (requireCase caseId).run t = .ok row t := by
  obtain ⟨row, hrow⟩ := Option.isSome_iff_exists.mp h
  exact ⟨row, requireCase_ok.mpr ⟨hrow, rfl⟩⟩

/-- A request under a key that is recorded: the fingerprint decides. -/
theorem Tables.Holds.replays {first second : CaseRequest} {reply : Reply}
    (h : t.Holds first reply) (hkey : second.key = first.key) :
    (JS.Sha256.hex second.hashed = JS.Sha256.hex first.hashed → t.Replays second reply) ∧
      (JS.Sha256.hex second.hashed ≠ JS.Sha256.hex first.hashed → t.Refuses second) := by
  obtain ⟨record, hfind, hfingerprint, hevent⟩ := h.record
  obtain ⟨row, hrow⟩ := requireCase_of_isSome h.humanCase
  have hreserve := reserve_recorded (JS.Sha256.hex second.hashed) hfind
  have hother := h.other
  have hposted := h.event
  rw [hfingerprint] at hreserve
  rw [← hkey] at hreserve hrow hevent hother hposted
  have hreplay (hsame : JS.Sha256.hex second.hashed = JS.Sha256.hex first.hashed) :
      (reserveIdempotency second.key (JS.Sha256.hex second.hashed)).run t =
        .ok (some record) t := by
    rw [hreserve, if_pos hsame.symm]
  have hrefuse (hdiffers : JS.Sha256.hex second.hashed ≠ JS.Sha256.hex first.hashed) :
      (reserveIdempotency second.key (JS.Sha256.hex second.hashed)).run t =
        .error (.repository .idempotencyConflict) t := by
    rw [hreserve, if_neg (Ne.symm hdiffers)]
  clear hreserve
  cases second with
  | claim input =>
    constructor
    · intro hsame uuid now
      exact ⟨_, reply_of_ok (Transition.transaction_ok.mpr
        (Transition.bind_ok.mpr ⟨_, t, hreplay hsame, hrow⟩)), (hother nofun).symm⟩
    · intro hdiffers uuid now
      exact reply_of_error (Transition.run_transaction_error
        (Transition.bind_of_error (hrefuse hdiffers)))
  | reassign input =>
    constructor
    · intro hsame uuid now
      exact ⟨_, reply_of_ok (Transition.transaction_ok.mpr
        (Transition.bind_ok.mpr ⟨_, t, hreplay hsame, hrow⟩)), (hother nofun).symm⟩
    · intro hdiffers uuid now
      exact reply_of_error (Transition.run_transaction_error
        (Transition.bind_of_error (hrefuse hdiffers)))
  | decision command =>
    have hhash : JS.Sha256.hex (CaseRequest.decision command).hashed = command.input.fingerprint :=
      command.fingerprint_eq.symm
    rw [hhash] at hreplay hrefuse
    constructor
    · intro hsame uuid now
      obtain ⟨eventId, hreply, houtbox⟩ := hposted rfl
      obtain ⟨event, hevents⟩ := Option.isSome_iff_exists.mp houtbox
      have hdecide : (decideCase command.input uuid now).run t = .ok (row, event) t := by
        refine Transition.transaction_ok.mpr (Transition.bind_ok.mpr
          ⟨_, t, hreplay (hhash ▸ hsame), Transition.bind_ok.mpr ⟨eventId, t, ?_, ?_⟩⟩)
        · exact Transition.required_ok.mpr ⟨(hevent rfl).trans hreply, rfl⟩
        · refine Transition.bind_ok.mpr ⟨some event, t, selectOutbox_ok.mpr ⟨hevents, rfl⟩, ?_⟩
          refine Transition.bind_ok.mpr ⟨event, t, Transition.required_ok.mpr ⟨rfl, rfl⟩, ?_⟩
          exact Transition.bind_ok.mpr ⟨row, t, hrow, Transition.pure_ok.mpr ⟨rfl, rfl⟩⟩
      refine ⟨.decision row event, reply_of_ok hdecide, ?_⟩
      rw [hreply]
      exact congrArg some ((Table.find?_eq_some _ _).mp hevents).2
    · intro hdiffers uuid now
      exact reply_of_error (Transition.run_transaction_error
        (Transition.bind_of_error (hrefuse (hhash ▸ hdiffers))))

/-! What is kept of a request stays. -/

theorem Tables.Posted.find {event : OutboxRow} (h : t.Posted event) :
    (t.outbox.find? event.eventId).isSome := by
  obtain ⟨row, hrow, heq⟩ := h
  have hid := congrArg OutboxRow.eventId heq
  have hfind : t.outbox.find? event.eventId = some row := by
    rw [Table.find?_eq_some]
    exact ⟨hrow, hid⟩
  rw [hfind]
  rfl

theorem posted_of_find {eventId : String} (h : (t.outbox.find? eventId).isSome) :
    ∃ event, event.eventId = eventId ∧ t.Posted event := by
  obtain ⟨event, hevent⟩ := Option.isSome_iff_exists.mp h
  obtain ⟨hmem, hid⟩ := (Table.find?_eq_some _ _).mp hevent
  exact ⟨event, hid, event, hmem, rfl⟩

theorem Tables.Moves.case {deed : Dossier.Deed} (h : t.Moves deed u) {caseId : String}
    (hcase : (t.cases.find? caseId).isSome) : (u.cases.find? caseId).isSome := by
  obtain ⟨row, hrow⟩ := Option.isSome_iff_exists.mp hcase
  obtain ⟨d, hd, -⟩ := Tables.exists_dossier hrow
  have hmove := h caseId
  rw [hd] at hmove
  generalize hu : u.dossier caseId = after at hmove
  have hlater : ∃ d', after = some d' := by
    cases hmove with
    | same => exact ⟨d, rfl⟩
    | next hn => exact ⟨_, rfl⟩
  obtain ⟨d', rfl⟩ := hlater
  rw [Tables.dossier_case hu]
  rfl

theorem Tables.Holds.keep {first : CaseRequest} {reply : Reply} (h : t.Holds first reply)
    (hrecords : t.KeepsRecords u) {deed : Dossier.Deed} (hmoves : t.Moves deed u) :
    u.Holds first reply where
  record := by
    obtain ⟨record, hfind, hrest⟩ := h.record
    exact ⟨record, hrecords _ _ hfind, hrest⟩
  humanCase := hmoves.case h.humanCase
  event hdecides := by
    obtain ⟨eventId, hreply, hfind⟩ := h.event hdecides
    obtain ⟨event, rfl, hposted⟩ := posted_of_find hfind
    exact ⟨_, hreply, (hmoves.posted hposted).find⟩
  other := h.other

theorem database_keepsRecords {e : Event} (h : database.step db e = some db') (scope : Scope) :
    (db scope).KeepsRecords (db' scope) := by
  obtain ⟨u, hu, rfl⟩ := Option.map_eq_some_iff.mp h
  by_cases hscope : scope = e.operation.scope
  · subst hscope
    rw [Function.update_self]
    exact step_keepsRecords hu
  · rw [Function.update_of_ne hscope]
    exact keepsRecords_of_eq rfl

/-- Whatever the service does after, it still has the request. -/
theorem holds_run (h : database.Reachable Database.IsEmpty db) {scope : Scope}
    {first : CaseRequest} {reply : Reply} (hholds : (db scope).Holds first reply)
    {es : List Event} (hrun : database.run db es = some db') : (db' scope).Holds first reply := by
  have hall := Transition.Machine.run_invariant
    (I := fun db => database.Reachable Database.IsEmpty db ∧ (db scope).Holds first reply)
    (by
      rintro s e v ⟨hs, hholds⟩ hstep
      exact ⟨hs.step hstep, hholds.keep (database_keepsRecords hstep scope)
        (database_moves hs hstep scope)⟩)
    ⟨h, hholds⟩ hrun
  exact hall.2

theorem requireCase_isSome {caseId : String} {row : CaseRow}
    (h : (requireCase caseId).run t = .ok row u) : (t.cases.find? caseId).isSome := by
  rw [(requireCase_ok.mp h).1]
  rfl

/-- A case action needs its case, replay or not. -/
theorem reserved_case {α : Type} {key : IdempotencyKey} {fingerprint caseId : String}
    {rest : Option IdempotencyRow → Work α} {a : α}
    (hrest : ∀ r v, (rest r).run v = .ok a u → (v.cases.find? caseId).isSome)
    (h : (reserveIdempotency key fingerprint >>= rest).run t = .ok a u) :
    (t.cases.find? caseId).isSome := by
  obtain ⟨r, v, hreserve, hrun⟩ := Transition.bind_ok.mp h
  have hcase := hrest r v hrun
  obtain ⟨idempotency, rfl⟩ := reserveIdempotency_ok hreserve
  exact hcase

theorem claimCase_case {input : ClaimHumanCaseInput} {now : ℤ} {row : CaseRow}
    (h : (claimCase input now).run t = .ok row u) : (t.cases.find? input.caseId).isSome := by
  refine reserved_case ?_ (Transition.transaction_ok.mp h)
  intro replay v hrun
  cases replay with
  | some replay => exact requireCase_isSome hrun
  | none =>
    obtain ⟨current, w, hcase, -⟩ := Transition.bind_ok.mp hrun
    exact requireCase_isSome hcase

theorem reassignCase_case {input : ReassignHumanCaseInput} {now : ℤ} {row : CaseRow}
    (h : (reassignCase input now).run t = .ok row u) : (t.cases.find? input.caseId).isSome := by
  refine reserved_case ?_ (Transition.transaction_ok.mp h)
  intro replay v hrun
  cases replay with
  | some replay => exact requireCase_isSome hrun
  | none =>
    obtain ⟨current, w, hcase, -⟩ := Transition.bind_ok.mp hrun
    exact requireCase_isSome hcase

theorem decideCase_posted {input : DecideHumanCaseInput} {uuid : JS.Uuid} {now : ℤ}
    {result : CaseRow × OutboxRow} (h : (decideCase input uuid now).run t = .ok result u) :
    (t.cases.find? input.caseId).isSome ∧ u.Posted result.2 := by
  constructor
  · refine reserved_case ?_ (Transition.transaction_ok.mp h)
    intro replay v hrun
    cases replay with
    | some replay =>
      obtain ⟨eventId, _, hid, hrun⟩ := Transition.bind_ok.mp hrun
      obtain ⟨-, rfl⟩ := Transition.required_ok.mp hid
      obtain ⟨found, _, hfound, hrun⟩ := Transition.bind_ok.mp hrun
      obtain ⟨-, rfl⟩ := selectOutbox_ok.mp hfound
      obtain ⟨event, _, hevent, hrun⟩ := Transition.bind_ok.mp hrun
      obtain ⟨-, rfl⟩ := Transition.required_ok.mp hevent
      obtain ⟨row, _, hcase, -⟩ := Transition.bind_ok.mp hrun
      exact requireCase_isSome hcase
    | none =>
      obtain ⟨current, w, hcase, -⟩ := Transition.bind_ok.mp hrun
      exact requireCase_isSome hcase
  · rcases decideCase_ok h with ⟨hmem, hdossiers⟩ | ⟨d, hd, -, -, -, -, hevent, -, halters⟩
    · rw [HumanOperations.posted_iff, hdossiers, ← HumanOperations.posted_iff]
      exact ⟨result.2, hmem, rfl⟩
    · have hcase : result.2.caseId = input.caseId := by
        rw [hevent]
        exact Tables.dossier_caseId hd
      exact (halters.posted_iff hd hcase result.2).mpr (Or.inr rfl)

/-- An answered request is kept. -/
theorem holds_of_ok {first : CaseRequest} {uuid : JS.Uuid} {now : ℤ} {reply : Reply}
    (h : ((first.operation uuid).exec now).run t = .ok reply u) : u.Holds first reply := by
  cases first with
  | claim input =>
    obtain ⟨row, hrun, rfl⟩ := reply_ok.mp h
    obtain ⟨-, record, hfind, hsame⟩ := claimCase_record hrun
    exact ⟨⟨record, hfind, hsame, nofun⟩, (claimCase_moves hrun).case (claimCase_case hrun), nofun,
      fun _ => rfl⟩
  | reassign input =>
    obtain ⟨row, hrun, rfl⟩ := reply_ok.mp h
    obtain ⟨-, record, hfind, hsame⟩ := reassignCase_record hrun
    exact ⟨⟨record, hfind, hsame, nofun⟩, (reassignCase_moves hrun).case (reassignCase_case hrun),
      nofun, fun _ => rfl⟩
  | decision command =>
    obtain ⟨result, hrun, rfl⟩ := reply_ok.mp h
    obtain ⟨-, record, hfind, hsame, hevent⟩ := decideCase_record hrun
    obtain ⟨hcase, hposted⟩ := decideCase_posted hrun
    exact ⟨⟨record, hfind, hsame.trans command.fingerprint_eq, fun _ => hevent⟩,
      (decideCase_moves hrun).case hcase, fun _ => ⟨_, rfl, hposted.find⟩, fun hne => absurd rfl hne⟩

/-! Which requests have one fingerprint. -/

theorem splitOn_injective (separator : Char) :
    Function.Injective fun text : List Char => text.splitOn separator := by
  intro left right h
  have hjoined := congrArg (List.intercalate [separator]) h
  simpa only [List.intercalate_splitOn] using hjoined

/-- The template after its version, cut at the colons. -/
def DecisionCommand.pieces (command : DecisionCommand) : List (List Char) :=
  command.staffId.toList.splitOn ':' ++ command.decision.text.toList ::
    ((command.input.reasonCode.getD "").toList.splitOn ':' ++
      (command.input.note.getD "").toList.splitOn ':')

/-- Decisions that differ, and are not told apart once the colons have been put between. -/
def CaseRequest.Confused : CaseRequest → CaseRequest → Prop
  | .decision first, .decision second =>
    first ≠ second ∧ first.expectedCaseVersion = second.expectedCaseVersion ∧
      first.pieces = second.pieces
  | _, _ => False

instance : ∀ first second : CaseRequest, Decidable (first.Confused second)
  | .decision _, .decision _ => inferInstanceAs (Decidable (_ ∧ _ ∧ _))
  | .claim _, _ | .reassign _, _ | .decision _, .claim _ | .decision _, .reassign _ =>
    inferInstanceAs (Decidable False)

def DecisionCommand.rest (command : DecisionCommand) : List Char :=
  command.staffId.toList ++ ':' :: (command.decision.text.toList ++ ':' ::
    ((command.input.reasonCode.getD "").toList ++ ':' :: (command.input.note.getD "").toList))

theorem DecisionCommand.splitOn_rest (command : DecisionCommand) :
    command.rest.splitOn ':' = command.pieces := by
  have hdecision : ':' ∉ command.decision.text.toList := by
    cases command.decision <;> decide
  rw [rest, pieces, List.splitOn_append_cons_self,
    List.splitOn_append_cons_self_of_not_mem hdecision, List.splitOn_append_cons_self]

/-- A version is followed by a colon. -/
theorem version_inj {version other : ℕ} {rest rest' : List Char}
    (h : version.repr.toList ++ ':' :: rest = other.repr.toList ++ ':' :: rest') :
    version = other ∧ rest = rest' := by
  obtain ⟨hversion, hrest⟩ := JS.append_inj_of_delimited (JS.isNumeric_repr version)
    (JS.isNumeric_repr other) (by rintro c ⟨⟩; decide) (by rintro c ⟨⟩; decide) h
  exact ⟨Nat.repr_injective (String.toList_inj.mp hversion), (List.cons.inj hrest).2⟩

theorem DecisionCommand.toList_hashed (command : DecisionCommand) :
    (CaseRequest.decision command).hashed.toList =
      "decision:".toList ++ (command.expectedCaseVersion.repr.toList ++ ':' :: command.rest) := by
  rw [CaseRequest.hashed, template, JS.JsString.text_ofText_append, JS.JsString.text_append_colon,
    getD_text, getD_text]
  simp only [String.toList_append, List.append_assoc]
  rfl

theorem labelled_inj (label : String) {version other : ℕ} {staff staff' : String}
    (h : label ++ toString version ++ ":" ++ staff = label ++ toString other ++ ":" ++ staff') :
    version = other ∧ staff = staff' := by
  have hlist := congrArg String.toList h
  simp only [String.toList_append, List.append_assoc] at hlist
  obtain ⟨hversion, hstaff⟩ := version_inj (List.append_cancel_left hlist)
  exact ⟨hversion, String.toList_inj.mp hstaff⟩

/-- The hashed text of a request tells which it is, among those of its key, but for the
confused. -/
theorem hashed_eq_iff {first second : CaseRequest} (hscope : second.scope = first.scope)
    (hkey : second.key = first.key) :
    second.hashed = first.hashed ↔ second = first ∨ first.Confused second := by
  cases first with
  | claim input =>
    cases second with
    | claim other =>
      obtain ⟨scope, caseId, staffId, version, idempotencyKey⟩ := input
      obtain ⟨scope', caseId', staffId', version', idempotencyKey'⟩ := other
      cases hscope
      cases hkey
      constructor
      · intro h
        obtain ⟨rfl, rfl⟩ := labelled_inj "claim:" h
        exact Or.inl rfl
      · rintro (h | h)
        · rw [h]
        · exact h.elim
    | reassign other => cases hkey
    | decision other => cases hkey
  | reassign input =>
    cases second with
    | claim other => cases hkey
    | reassign other =>
      obtain ⟨scope, caseId, staffId, version, idempotencyKey⟩ := input
      obtain ⟨scope', caseId', staffId', version', idempotencyKey'⟩ := other
      cases hscope
      cases hkey
      constructor
      · intro h
        obtain ⟨rfl, rfl⟩ := labelled_inj "reassign:" h
        exact Or.inl rfl
      · rintro (h | h)
        · rw [h]
        · exact h.elim
    | decision other => cases hkey
  | decision first =>
    cases second with
    | claim other => cases hkey
    | reassign other => cases hkey
    | decision second =>
      have hpieces : second.rest = first.rest ↔ first.pieces = second.pieces := by
        rw [← first.splitOn_rest, ← second.splitOn_rest, (splitOn_injective ':').eq_iff]
        exact eq_comm
      have hhashed : (CaseRequest.decision second).hashed = (CaseRequest.decision first).hashed ↔
          first.expectedCaseVersion = second.expectedCaseVersion ∧ first.pieces = second.pieces := by
        rw [← String.toList_inj, DecisionCommand.toList_hashed, DecisionCommand.toList_hashed,
          List.append_cancel_left_eq, ← hpieces]
        constructor
        · intro h
          obtain ⟨hversion, hrest⟩ := version_inj h
          exact ⟨hversion.symm, hrest⟩
        · rintro ⟨hversion, hrest⟩
          rw [hversion, hrest]
      rw [hhashed]
      constructor
      · intro h
        by_cases hsame : second = first
        · exact Or.inl (congrArg CaseRequest.decision hsame)
        · exact Or.inr ⟨Ne.symm hsame, h⟩
      · rintro (h | h)
        · obtain rfl := CaseRequest.decision.inj h
          exact ⟨rfl, rfl⟩
        · exact h.2

theorem CaseRequest.Confused.ne {first second : CaseRequest} (h : first.Confused second) :
    second ≠ first := by
  rintro rfl
  cases second with
  | claim input => exact h
  | reassign input => exact h
  | decision command => exact h.1 rfl

theorem scope_operation (request : CaseRequest) (uuid : JS.Uuid) :
    (request.operation uuid).scope = request.scope := by
  cases request <;> rfl

theorem holds_of_step {first : CaseRequest} {uuid : JS.Uuid} {now : ℤ} {reply : Reply}
    (hstep : database.step db ⟨first.operation uuid, now⟩ = some db')
    (hanswered : ((first.operation uuid).exec now).run (db first.scope) = .ok reply t) :
    (db' first.scope).Holds first reply := by
  have hscope := scope_operation first uuid
  rw [← hscope] at hanswered
  obtain ⟨-, -, htables⟩ := step_reply hstep hanswered
  rw [← hscope, htables]
  exact holds_of_ok hanswered

/-- Under the key of an answered request, whatever has happened since, a request is replayed
exactly where it is the same, unless a confused one comes. -/
theorem case_action_replay {after : Database} (hdb : database.Reachable Database.IsEmpty db)
    {first second : CaseRequest} {uuid : JS.Uuid} {now : ℤ} {reply : Reply} {es : List Event}
    (hstep : database.step db ⟨first.operation uuid, now⟩ = some db')
    (hanswered : ((first.operation uuid).exec now).run (db first.scope) = .ok reply t)
    (hrun : database.run db' es = some after)
    (hscope : second.scope = first.scope) (hkey : second.key = first.key)
    (hsha : JS.Sha256.hex second.hashed = JS.Sha256.hex first.hashed →
      second.hashed = first.hashed) :
    ((second = first → (after first.scope).Replays second reply) ∧
      (second ≠ first → (after first.scope).Refuses second)) ↔ ¬first.Confused second := by
  have hafter : (after first.scope).Holds first reply :=
    holds_run (hdb.step hstep) (holds_of_step hstep hanswered) hrun
  obtain ⟨hreplays, hrefuses⟩ := hafter.replays hkey
  have hhashed : JS.Sha256.hex second.hashed = JS.Sha256.hex first.hashed ↔
      second = first ∨ first.Confused second := by
    rw [← hashed_eq_iff hscope hkey]
    exact ⟨hsha, congrArg JS.Sha256.hex⟩
  constructor
  · rintro ⟨-, hother⟩ hconfused
    have hdiffers : second ≠ first := hconfused.ne
    obtain ⟨answer, hok, -⟩ := hreplays (hhashed.mpr (Or.inr hconfused)) uuid now
    have herror := hother hdiffers uuid now
    rw [hok] at herror
    cases herror
  · intro hclear
    refine ⟨fun hsame => hreplays (hhashed.mpr (Or.inl hsame)), fun hdiffers => hrefuses ?_⟩
    intro hhash
    rcases hhashed.mp hhash with hsame | hconfused
    · exact hdiffers hsame
    · exact hclear hconfused

namespace Journey

/-- A takeover case, claimed. -/
def takenOver : List Event := [
  ⟨.openCase takeover caseUuid, 1786190700000⟩,
  ⟨.claimCase (claim 1 "claim-key-1"), 1786190701000⟩]

/-- The same pieces, `A:B:C`, as two decisions. -/
def resolution : DecisionCommand where
  scope
  caseId
  staffId := "staff-1"
  decision := .resolveTakeover
  reasonCode := some (.ofText "A")
  note := some (.ofText "B:C")
  expectedCaseVersion := 2
  idempotencyKey := "decision-key-1"
  reasonAccepted := by decide
  noteAccepted := by decide
  noteRequired := by decide

def shifted : DecisionCommand where
  scope
  caseId
  staffId := "staff-1"
  decision := .resolveTakeover
  reasonCode := some (.ofText "A:B")
  note := some (.ofText "C")
  expectedCaseVersion := 2
  idempotencyKey := "decision-key-1"
  reasonAccepted := by decide
  noteAccepted := by decide
  noteRequired := by decide

def isOk {ε σ α : Type} : EStateM.Result ε σ α → Bool
  | .ok _ _ => true
  | .error _ _ => false

theorem resolution_answered : ∃ db db' reply t,
    database.run (fun _ => .empty) takenOver = some db ∧
      database.step db ⟨(CaseRequest.decision resolution).operation photoUuid, 1786190702000⟩ =
        some db' ∧
      (((CaseRequest.decision resolution).operation photoUuid).exec 1786190702000).run (db scope) =
        .ok reply t := by
  obtain ⟨db, hrun, hok, hstep⟩ : ∃ db, database.run (fun _ => .empty) takenOver = some db ∧
      isOk ((((CaseRequest.decision resolution).operation photoUuid).exec 1786190702000).run
        (db scope)) = true ∧
      (database.step db
        ⟨(CaseRequest.decision resolution).operation photoUuid, 1786190702000⟩).isSome = true :=
    Transition.Machine.exists_run (by decide +kernel)
  obtain ⟨db', hdb'⟩ := Option.isSome_iff_exists.mp hstep
  cases hresult : (((CaseRequest.decision resolution).operation photoUuid).exec
      1786190702000).run (db scope) with
  | ok reply t => exact ⟨db, db', reply, t, hrun, hdb', hresult⟩
  | error failure t =>
    rw [hresult] at hok
    cases hok

end Journey

/-- The decision of a takeover, sent again. -/
theorem case_action_replay_again : ∃ (db : Database) (reply : Reply),
    (db Journey.scope).Replays (.decision Journey.resolution) reply := by
  obtain ⟨db, db', reply, t, hrun, hstep, hanswered⟩ := Journey.resolution_answered
  have hlater : database.run db' [] = some db' := rfl
  have hiff := case_action_replay ⟨_, _, fun _ => rfl, hrun⟩ hstep hanswered hlater rfl rfl
    (fun _ => rfl)
  exact ⟨db', reply, (hiff.mpr (fun hconfused => hconfused.ne rfl)).1 rfl⟩

/-- Another reason code and another note are taken for a replay. -/
theorem case_action_confused : ∃ (db db' : Database) (reply : Reply) (t : Tables),
    database.run (fun _ => .empty) Journey.takenOver = some db ∧
      database.step db ⟨(CaseRequest.decision Journey.resolution).operation Journey.photoUuid,
        1786190702000⟩ = some db' ∧
      (((CaseRequest.decision Journey.resolution).operation Journey.photoUuid).exec
        1786190702000).run (db Journey.scope) = .ok reply t ∧
      (CaseRequest.decision Journey.shifted).key = (CaseRequest.decision Journey.resolution).key ∧
      CaseRequest.decision Journey.shifted ≠ CaseRequest.decision Journey.resolution ∧
      (db' Journey.scope).Replays (.decision Journey.shifted) reply ∧
      ¬(db' Journey.scope).Refuses (.decision Journey.shifted) := by
  obtain ⟨db, db', reply, t, hrun, hstep, hanswered⟩ := Journey.resolution_answered
  have hholds : (db' Journey.scope).Holds (.decision Journey.resolution) reply :=
    holds_of_step hstep hanswered
  have hconfused : (CaseRequest.decision Journey.resolution).Confused
      (.decision Journey.shifted) := by decide
  have hkey : (CaseRequest.decision Journey.shifted).key =
    (CaseRequest.decision Journey.resolution).key := rfl
  have hhashed : (CaseRequest.decision Journey.shifted).hashed =
      (CaseRequest.decision Journey.resolution).hashed := by
    refine (hashed_eq_iff ?_ hkey).mpr (Or.inr hconfused)
    rfl
  have hreplays := (hholds.replays hkey).1 (congrArg JS.Sha256.hex hhashed)
  refine ⟨db, db', reply, t, hrun, hstep, hanswered, hkey, hconfused.ne, hreplays, ?_⟩
  intro hrefuses
  obtain ⟨answer, hok, -⟩ := hreplays Journey.photoUuid 0
  rw [hrefuses Journey.photoUuid 0] at hok
  cases hok

end CSO.HumanOperations
