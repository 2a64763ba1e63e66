import CSO.HumanOperations.EvidenceRepository

/-! The dossier of a case: all that the tables hold about it. The statements seen through the
dossiers, and the steps of one dossier that the operations are made of. -/
namespace CSO.HumanOperations
open Transition (Table transaction throwIf required)

structure Dossier where
  case : CaseRow
  audit : List AuditRow
  outbox : List OutboxRow
  evidence : Option EvidenceRow
  deriving DecidableEq, Repr

namespace Tables
variable (t : Tables)

def dossier (caseId : String) : Option Dossier :=
  (t.cases.find? caseId).map fun row => {
    case := row
    audit := t.audit.filter fun event => event.caseId = caseId
    outbox := t.outbox.rows.filter fun event => event.caseId = caseId
    evidence := t.evidence.rows.find? fun evidence => evidence.caseId = caseId }

/-- Only the dossier of one case differs, by `f`. -/
def Alters (t u : Tables) (caseId : String) (f : Dossier → Dossier) : Prop :=
  ∀ id, u.dossier id = if id = caseId then (t.dossier id).map f else t.dossier id

variable {t} {u v : Tables} {caseId : String} {f g : Dossier → Dossier}

theorem Alters.trans (h : Alters t v caseId f) (h' : Alters v u caseId g) :
    Alters t u caseId (g ∘ f) := by
  intro id
  rw [h' id, h id]
  split_ifs
  · rw [Option.map_map]
  · rfl

theorem Alters.self (h : Alters t u caseId f) {d : Dossier} (hd : t.dossier caseId = some d) :
    u.dossier caseId = some (f d) := by
  rw [h caseId, if_pos rfl, hd]
  rfl

theorem dossier_case {d : Dossier} (hd : t.dossier caseId = some d) :
    t.cases.find? caseId = some d.case := by
  obtain ⟨row, hrow, rfl⟩ := Option.map_eq_some_iff.mp hd
  exact hrow

theorem dossier_caseId {d : Dossier} (hd : t.dossier caseId = some d) : d.case.caseId = caseId :=
  ((t.cases.find?_eq_some caseId).mp (dossier_case hd)).2

theorem dossier_audit {d : Dossier} (hd : t.dossier caseId = some d) :
    d.audit = t.audit.filter fun event => event.caseId = caseId := by
  obtain ⟨row, -, rfl⟩ := Option.map_eq_some_iff.mp hd
  rfl

theorem dossier_outbox {d : Dossier} (hd : t.dossier caseId = some d) :
    d.outbox = t.outbox.rows.filter fun event => event.caseId = caseId := by
  obtain ⟨row, -, rfl⟩ := Option.map_eq_some_iff.mp hd
  rfl

theorem exists_dossier {row : CaseRow} (h : t.cases.find? caseId = some row) :
    ∃ d, t.dossier caseId = some d ∧ d.case = row := by
  cases hd : t.dossier caseId with
  | none => simp [dossier, h] at hd
  | some d =>
    have hc := dossier_case hd
    rw [h] at hc
    exact ⟨d, rfl, (Option.some.inj hc).symm⟩

theorem dossier_eq_none : t.dossier caseId = none ↔ t.cases.find? caseId = none := by
  simp [dossier]

/-- A collection stands in the dossier of its case. -/
theorem dossier_evidence {row : EvidenceRow} (h : row ∈ t.evidence.rows) :
    ∃ d, t.dossier row.caseId = some d ∧ d.evidence = some row := by
  obtain ⟨humanCase, hc⟩ := Option.isSome_iff_exists.mp (t.evidenceReferences row h)
  refine ⟨_, by rw [dossier, hc]; rfl, ?_⟩
  cases hf : t.evidence.rows.find? fun evidence => evidence.caseId = row.caseId with
  | none => simpa using List.find?_eq_none.mp hf row h
  | some other =>
    have ho := List.mem_of_find?_eq_some hf
    have hid : other.caseId = row.caseId := by simpa using List.find?_some hf
    rw [Table.eq_of_unique t.oneCollection ho h hid]

theorem mem_of_dossier_evidence {d : Dossier} {row : EvidenceRow}
    (hd : t.dossier caseId = some d) (he : d.evidence = some row) :
    row ∈ t.evidence.rows ∧ row.caseId = caseId := by
  obtain ⟨humanCase, -, rfl⟩ := Option.map_eq_some_iff.mp hd
  exact ⟨List.mem_of_find?_eq_some he, by simpa using List.find?_some he⟩

/-! Updates. -/

theorem dossier_addCase {row : CaseRow} (hid : t.cases.find? row.caseId = none)
    (hw : ∀ r ∈ t.cases.rows, r.workflowId ≠ row.workflowId) (id : String) :
    (t.addCase row hid hw).dossier id =
      if id = row.caseId then some ⟨row, [], [], none⟩ else t.dossier id := by
  unfold dossier addCase
  rw [Table.find?_insert]
  by_cases h : row.caseId = id
  · subst h
    have hfresh : ∀ {α : Type} {key : α → String} {rows : List α},
        (∀ r ∈ rows, (t.cases.find? (key r)).isSome) → ∀ r ∈ rows, ¬key r = row.caseId := by
      intro α key rows hrefs r hr heq
      have h := hrefs r hr
      rw [heq, hid] at h
      simp at h
    have haudit : t.audit.filter (fun event => event.caseId = row.caseId) = [] :=
      List.filter_eq_nil_iff.mpr fun r hr => by simpa using hfresh t.auditReferences r hr
    have houtbox : t.outbox.rows.filter (fun event => event.caseId = row.caseId) = [] :=
      List.filter_eq_nil_iff.mpr fun r hr => by simpa using hfresh t.outboxReferences r hr
    have hevidence : t.evidence.rows.find? (fun event => event.caseId = row.caseId) = none :=
      List.find?_eq_none.mpr fun r hr => by simpa using hfresh t.evidenceReferences r hr
    simp only [if_true, Option.map_some, haudit, houtbox, hevidence]
  · simp only [h, if_false, Ne.symm h]

theorem alters_changeCase (caseId : String) (change : CaseRow → CaseRow)
    (hid : ∀ row, (change row).caseId = row.caseId)
    (hw : ∀ row, (change row).workflowId = row.workflowId) :
    Alters t (t.changeCase caseId change hid hw) caseId
      fun d => { d with case := change d.case } := by
  intro id
  unfold dossier changeCase
  rw [Table.find?_modify]
  by_cases h : id = caseId
  · subst h
    simp only [if_true, Option.map_map]
    rfl
  · simp only [h, if_false]

theorem alters_addAudit {row : AuditRow} (h : (t.cases.find? row.caseId).isSome) :
    Alters t (t.addAudit row h) row.caseId fun d => { d with audit := d.audit ++ [row] } := by
  intro id
  unfold dossier addAudit
  by_cases hid : id = row.caseId
  · subst hid
    simp only [if_true, Option.map_map, List.filter_append]
    congr 1
    funext humanCase
    simp
  · simp [hid, Ne.symm hid, List.filter_append]

theorem alters_addOutbox {row : OutboxRow} (hid : t.outbox.find? row.eventId = none)
    (h : (t.cases.find? row.caseId).isSome) :
    Alters t (t.addOutbox row hid h) row.caseId fun d => { d with outbox := d.outbox ++ [row] } := by
  intro id
  unfold dossier addOutbox Table.insert
  by_cases hid : id = row.caseId
  · subst hid
    simp only [if_true, Option.map_map, List.filter_append]
    congr 1
    funext humanCase
    simp
  · simp [hid, Ne.symm hid, List.filter_append]

theorem dossier_changeOutbox (eventId : String) (id : String) :
    (t.changeOutbox eventId).dossier id = (t.dossier id).map fun d =>
      { d with outbox := d.outbox.map fun row =>
          if row.eventId = eventId then deliver row else row } := by
  unfold dossier changeOutbox Table.modify
  simp only [Option.map_map]
  congr 1
  funext humanCase
  simp only [Function.comp_apply, List.filter_map, Dossier.mk.injEq, true_and, and_true]
  congr 1
  apply List.filter_congr
  intro row _
  simp only [Function.comp_apply]
  split_ifs <;> rfl

theorem alters_addEvidence {row : EvidenceRow} (hid : t.evidence.find? row.workflowId = none)
    (hc : ∀ r ∈ t.evidence.rows, r.caseId ≠ row.caseId) (h : (t.cases.find? row.caseId).isSome) :
    Alters t (t.addEvidence row hid hc h) row.caseId fun d => { d with evidence := some row } := by
  intro id
  unfold dossier addEvidence Table.insert
  by_cases hid : id = row.caseId
  · subst hid
    have hnone : t.evidence.rows.find? (fun evidence => evidence.caseId = row.caseId) = none :=
      List.find?_eq_none.mpr fun r hr => by simpa using hc r hr
    simp only [if_true, Option.map_map, List.find?_append, hnone]
    congr 1
    funext humanCase
    simp
  · simp [hid, Ne.symm hid, List.find?_append]

/-- The document of a workflow is the one in the dossier of its case. -/
theorem alters_changeDocument {row : EvidenceRow} (hrow : row ∈ t.evidence.rows)
    (document : EvidenceDocument) :
    Alters t (t.changeDocument row.workflowId document) row.caseId fun d =>
      { d with evidence := d.evidence.map fun e => { e with document } } := by
  intro id
  unfold dossier changeDocument Table.modify
  simp only [List.find?_map]
  have hkey : ((fun evidence : EvidenceRow => decide (evidence.caseId = id)) ∘ fun e =>
      if e.workflowId = row.workflowId then { e with document } else e) =
      fun evidence => decide (evidence.caseId = id) := by
    funext e
    simp only [Function.comp_apply]
    split_ifs <;> rfl
  rw [hkey]
  have hother : ∀ e, t.evidence.rows.find? (fun evidence => decide (evidence.caseId = id)) =
      some e → (e.workflowId = row.workflowId ↔ id = row.caseId) := by
    intro e he
    have hmem := List.mem_of_find?_eq_some he
    have hid : e.caseId = id := by simpa using List.find?_some he
    constructor
    · intro hw
      rw [← hid, Table.eq_of_unique t.evidence.unique hmem hrow hw]
    · intro hc
      rw [Table.eq_of_unique t.oneCollection hmem hrow (hid.trans hc)]
  cases he : t.evidence.rows.find? fun evidence => decide (evidence.caseId = id) with
  | none => split_ifs <;> simp [Function.comp_def]
  | some e =>
    by_cases hid : id = row.caseId
    · simp [hid, (hother e he).mpr hid, Function.comp_def]
    · have hw : ¬e.workflowId = row.workflowId := fun hw => hid ((hother e he).mp hw)
      simp [hid, hw]

end Tables

namespace EvidenceRecord

/-- What an operation can make of the document of a collection. -/
inductive Next (record : EvidenceRecord) : EvidenceDocument → Prop
  | reserved (input : BeginUploadInput) (uuid : JS.Uuid) (now : ℤ) (uploadedAt : String)
      (hnow : JS.Date.FourDigitYear now) (hinstant : JS.Date.toISOString now = some uploadedAt)
      (hid : ∀ photo ∈ record.document.attachments, photo.evidenceId ≠ uuid.text)
      (hopen : record.frozen = false) (hspace : record.document.full input.byteSize = false) :
      Next record (record.document.reserve (input.photo uuid.text uploadedAt))
  | finished (photo : StoredPhoto) (result : UploadResult)
      (hphoto : photo ∈ record.document.attachments) (hstatus : photo.technicalStatus = .processing) :
      Next record (record.document.finish photo.evidenceId
        (record.uploadResult photo.evidenceId result))
  | reviewed (access : HumanAccess) (command : EvidenceReview) (uuid : JS.Uuid)
      (key fingerprint : String) (hright : canReviewEvidence access record = true)
      (hreviews : record.document.reviewKeys.length < maxReviews) :
      Next record (record.document.review command uuid.text key fingerprint)
  | recovered (now : ℤ) (hstale : record.hasStale now = true) :
      Next record (record.document.recover now)
  | purged (options : PurgeOptions)
      (hchanges : options.changes (options.expired record.case) record.document = true) :
      Next record (options.purgeDocument (options.expired record.case) record.document)

end EvidenceRecord

namespace Dossier
variable (d : Dossier)

/-- An audit event at the version of the case. -/
def log (event : CaseEventType) (actorType : ActorType) (actorId : String)
    (details : List (String × String)) (now : ℤ) : Dossier :=
  { d with
    audit := d.audit ++ [{
      caseId := d.case.caseId
      eventType := event
      occurredAt := now
      actorType
      actorId
      caseVersion := d.case.caseVersion
      details }] }

def revise (change : CaseRow → CaseRow) (now : ℤ) : Dossier :=
  { d with
    case := { change d.case with caseVersion := d.case.caseVersion + 1, updatedAt := now } }

def saveDocument (document : EvidenceDocument) (now : ℤ) : Dossier :=
  { d with
    case := d.case.touch now
    evidence := d.evidence.map fun row => { row with document } }

/-- A decision with its outbox event. -/
def recordDecision (event : OutboxRow) : Dossier :=
  { d.revise (fun row => { row with
      status := .decisionPending
      decidedAt := some event.decidedAt }) event.decidedAt with
    outbox := d.outbox ++ [event] }.log .decisionRecorded .human event.decidedBy
    [("decision", event.decision.text)] event.decidedAt

/-- A case that leaves its evidence review, with the document it had. -/
def enterPhase (document : EvidenceDocument) (input : TransitionEvidenceInput) (now : ℤ) :
    Dossier :=
  ({ d with case := d.case.enterPhase input.caseType input.reviewPacket }.saveDocument
    { document with transitionKeys :=
      (input.idempotencyKey, input.fingerprint) :: document.transitionKeys } now).log
    .casePhaseChanged .workflow input.workflowId [("case_type", input.caseType.text),
      ("evidence_version", toString document.revision)] now

/-- A collection belongs to the workflow of its case. -/
def Bound : Prop := ∀ row, d.evidence = some row → row.workflowId = d.case.workflowId

/-- What kind of operation changes a dossier. -/
inductive Deed
  | opening
  | collecting
  | closing
  | assigning
  | deciding
  | delivering
  | saving
  | transitioning
  deriving DecidableEq, Repr

/-- What one operation can make of the dossier of a case. -/
inductive Next (d : Dossier) : Deed → Dossier → Prop
  | closed (workflowId : String) (details : List (String × String)) (now : ℤ)
      (hopen : d.case.status ≠ .closed) :
      Next d .closing ((d.revise (fun row => { row with status := .closed }) now).log .caseClosed .workflow
        workflowId details now)
  | assigned (staffId : String) (details : List (String × String)) (now : ℤ)
      (hopen : d.case.status.undecided = true) :
      Next d .assigning
        ((d.revise (CaseRow.assign · staffId) now).log .caseClaimed .human staffId details now)
  | decided (event : OutboxRow) (hstatus : d.case.status = .claimed)
      (hassigned : d.case.assignedStaffId = some event.decidedBy)
      (hallowed : event.decision ∈ allowedActionsForCaseType d.case.caseType)
      (hcase : event.caseId = d.case.caseId) (hworkflow : event.workflowId = d.case.workflowId) :
      Next d .deciding (d.recordDecision event)
  | delivered (eventId : String) :
      Next d .delivering { d with outbox := d.outbox.map fun row =>
        if row.eventId = eventId then Tables.deliver row else row }
  | saved (row : EvidenceRow) (hrow : d.evidence = some row) (document : EvidenceDocument)
      (hnext : (row.record d.case).Next document) (event : CaseEventType) (actorType : ActorType)
      (actorId : String) (details : List (String × String)) (now : ℤ)
      (hevent : event ≠ .decisionRecorded) :
      Next d .saving ((d.saveDocument document now).log event actorType actorId details now)
  | transitioned (row : EvidenceRow) (hrow : d.evidence = some row)
      (input : TransitionEvidenceInput) (now : ℤ)
      (haccepted : row.document.assessment = .accepted) (hretired : row.document.retired = false)
      (htype : d.case.caseType = .refundEvidenceReview) (hopen : d.case.status ≠ .closed) :
      Next d .transitioning (d.enterPhase row.document input now)

inductive Opened : Deed → Dossier → Prop
  | case (input : OpenHumanCaseInput) (uuid : JS.Uuid) (now : ℤ) :
      Opened .opening (({ case := input.row uuid now, audit := [], outbox := [], evidence := none } :
        Dossier).log .caseOpened .workflow input.workflowId
        [("case_type", input.caseType.text)] now)
  | collection (input : EnsureEvidenceInput) (uuid : JS.Uuid) (now : ℤ) :
      Opened .collecting (({
        case := input.caseRow uuid now
        audit := []
        outbox := []
        evidence := some (input.evidenceRow (input.caseRow uuid now).caseId) } : Dossier).log
        .caseOpened .workflow input.workflowId
        [("case_type", HumanCaseType.refundEvidenceReview.text)] now)

/-- A dossier before and after an operation. -/
inductive Move (deed : Deed) : Option Dossier → Option Dossier → Prop
  | same (d : Option Dossier) : Move deed d d
  | opened {d : Dossier} (h : Opened deed d) : Move deed none (some d)
  | next {d d' : Dossier} (h : d.Next deed d') : Move deed (some d) (some d')

end Dossier

namespace Tables
variable {t u : Tables} {caseId : String} {deed : Dossier.Deed}

/-- Every dossier moves by one step at most, of one kind. -/
def Moves (t : Tables) (deed : Dossier.Deed) (u : Tables) : Prop :=
  ∀ id, Dossier.Move deed (t.dossier id) (u.dossier id)

theorem Moves.refl (t : Tables) (deed : Dossier.Deed) : Moves t deed t := fun _ => .same _

theorem moves_of_eq (h : ∀ id, u.dossier id = t.dossier id) : Moves t deed u := by
  intro id
  rw [h id]
  exact .same _

theorem Alters.moves {f : Dossier → Dossier} (h : Alters t u caseId f) {d : Dossier}
    (hd : t.dossier caseId = some d) (hnext : d.Next deed (f d)) : Moves t deed u := by
  intro id
  rw [h id]
  by_cases hid : id = caseId
  · rw [if_pos hid, hid, hd]
    exact .next hnext
  · rw [if_neg hid]
    exact .same _

/-- Every collection belongs to the workflow of its case. -/
def Bound (t : Tables) : Prop := ∀ id d, t.dossier id = some d → d.Bound

end Tables
end CSO.HumanOperations
