import CSO.HumanOperations.Evidence
import CSO.Transition.Table
import CSO.Transition.Transaction

/-! The tables of one tenant and environment, which row security shows to a transaction, with
their constraints, and the statements that the repositories run on them. -/
namespace CSO.HumanOperations
open Transition (Table)

/-- A row of `refund_evidence`. -/
structure EvidenceRow where
  workflowId : String
  caseId : String
  subjectCustomerId : String
  orderId : String
  proposalId : String
  selectedItemIds : List String
  document : EvidenceDocument
  deriving DecidableEq, Repr

structure Tables where
  cases : Table CaseRow String CaseRow.caseId
  audit : List AuditRow
  idempotency : Table IdempotencyRow IdempotencyKey IdempotencyRow.key
  outbox : Table OutboxRow String OutboxRow.eventId
  evidence : Table EvidenceRow String EvidenceRow.workflowId
  oneCase : (cases.rows.map CaseRow.workflowId).Nodup
  oneCollection : (evidence.rows.map EvidenceRow.caseId).Nodup
  auditReferences : ∀ row ∈ audit, (cases.find? row.caseId).isSome
  outboxReferences : ∀ row ∈ outbox.rows, (cases.find? row.caseId).isSome
  evidenceReferences : ∀ row ∈ evidence.rows, (cases.find? row.caseId).isSome

namespace Tables

def empty : Tables where
  cases := Table.empty
  audit := []
  idempotency := Table.empty
  outbox := Table.empty
  evidence := Table.empty
  oneCase := List.nodup_nil
  oneCollection := List.nodup_nil
  auditReferences := by simp
  outboxReferences := by simp [Table.empty]
  evidenceReferences := by simp [Table.empty]

variable (t : Tables)

theorem isSome_find?_insert {row : CaseRow} (h : t.cases.find? row.caseId = none) {caseId : String}
    (hc : (t.cases.find? caseId).isSome) : ((t.cases.insert row h).find? caseId).isSome := by
  rw [Table.find?_insert]
  split_ifs
  · rfl
  · exact hc

theorem isSome_find?_modify (key : String) {change : CaseRow → CaseRow}
    {hid : ∀ row, (change row).caseId = row.caseId} {caseId : String}
    (hc : (t.cases.find? caseId).isSome) :
    ((t.cases.modify key change hid).find? caseId).isSome := by
  rw [Table.find?_modify]
  split_ifs with h
  · subst h
    simpa using hc
  · exact hc

def addCase (row : CaseRow) (hid : t.cases.find? row.caseId = none)
    (hw : ∀ r ∈ t.cases.rows, r.workflowId ≠ row.workflowId) : Tables :=
  { t with
    cases := t.cases.insert row hid
    oneCase := Table.nodup_concat t.oneCase hw
    auditReferences := fun r hr => t.isSome_find?_insert hid (t.auditReferences r hr)
    outboxReferences := fun r hr => t.isSome_find?_insert hid (t.outboxReferences r hr)
    evidenceReferences := fun r hr => t.isSome_find?_insert hid (t.evidenceReferences r hr) }

def changeCase (caseId : String) (change : CaseRow → CaseRow)
    (hid : ∀ row, (change row).caseId = row.caseId)
    (hw : ∀ row, (change row).workflowId = row.workflowId) : Tables :=
  { t with
    cases := t.cases.modify caseId change hid
    oneCase := by
      rw [Table.modify, Table.map_update hw]
      exact t.oneCase
    auditReferences := fun r hr => t.isSome_find?_modify caseId (t.auditReferences r hr)
    outboxReferences := fun r hr => t.isSome_find?_modify caseId (t.outboxReferences r hr)
    evidenceReferences := fun r hr => t.isSome_find?_modify caseId (t.evidenceReferences r hr) }

def addAudit (row : AuditRow) (h : (t.cases.find? row.caseId).isSome) : Tables :=
  { t with
    audit := t.audit ++ [row]
    auditReferences := by
      intro r hr
      rcases List.mem_append.mp hr with hr | hr
      · exact t.auditReferences r hr
      · rw [List.mem_singleton.mp hr]
        exact h }

def addOutbox (row : OutboxRow) (hid : t.outbox.find? row.eventId = none)
    (h : (t.cases.find? row.caseId).isSome) : Tables :=
  { t with
    outbox := t.outbox.insert row hid
    outboxReferences := by
      intro r hr
      rcases (Table.mem_insert _).mp hr with hr | hr
      · exact t.outboxReferences r hr
      · rw [hr]
        exact h }

def deliver (row : OutboxRow) : OutboxRow := { row with status := .delivered }

def changeOutbox (eventId : String) : Tables :=
  { t with
    outbox := t.outbox.modify eventId deliver fun _ => rfl
    outboxReferences := by
      intro r hr
      obtain ⟨row, hrow, rfl⟩ := (Table.mem_modify _ _).mp hr
      have h := t.outboxReferences row hrow
      split_ifs
      · exact h
      · exact h }

def addEvidence (row : EvidenceRow) (hid : t.evidence.find? row.workflowId = none)
    (hc : ∀ r ∈ t.evidence.rows, r.caseId ≠ row.caseId)
    (h : (t.cases.find? row.caseId).isSome) : Tables :=
  { t with
    evidence := t.evidence.insert row hid
    oneCollection := Table.nodup_concat t.oneCollection hc
    evidenceReferences := by
      intro r hr
      rcases (Table.mem_insert _).mp hr with hr | hr
      · exact t.evidenceReferences r hr
      · rw [hr]
        exact h }

def changeDocument (workflowId : String) (document : EvidenceDocument) : Tables :=
  { t with
    evidence := t.evidence.modify workflowId (fun row => { row with document }) fun _ => rfl
    oneCollection := by
      have hg : ∀ row : EvidenceRow, EvidenceRow.caseId { row with document } = row.caseId :=
        fun _ => rfl
      rw [Table.modify, Table.map_update hg]
      exact t.oneCollection
    evidenceReferences := by
      intro r hr
      obtain ⟨row, hrow, rfl⟩ := (Table.mem_modify _ _).mp hr
      have h := t.evidenceReferences row hrow
      split_ifs
      · exact h
      · exact h }

/-- The case of a workflow. -/
def caseOf (workflowId : String) : Option CaseRow :=
  t.cases.rows.find? fun row => row.workflowId = workflowId

end Tables

abbrev Work := EStateM Failure Tables

/-! Statements. -/
namespace Work
open Transition (required)

def selectCase (caseId : String) : Work (Option CaseRow) := do
  return (← get).cases.find? caseId

def selectCaseOf (workflowId : String) : Work (Option CaseRow) := do
  return (← get).caseOf workflowId

/-- `ON CONFLICT (tenant_id, environment_id, workflow_id) DO NOTHING`. -/
def insertCase (row : CaseRow) : Work Bool := fun t =>
  if hw : ∀ r ∈ t.cases.rows, r.workflowId ≠ row.workflowId then
    if hid : t.cases.find? row.caseId = none then .ok true (t.addCase row hid hw)
    else .error .constraint t
  else .ok false t

def updateCase (caseId : String) (change : CaseRow → CaseRow)
    (hid : ∀ row, (change row).caseId = row.caseId := by intro; rfl)
    (hw : ∀ row, (change row).workflowId = row.workflowId := by intro; rfl) : Work Unit := fun t =>
  .ok () (t.changeCase caseId change hid hw)

def insertAudit (row : AuditRow) : Work Unit := fun t =>
  if h : (t.cases.find? row.caseId).isSome then .ok () (t.addAudit row h)
  else .error .constraint t

def insertOutbox (row : OutboxRow) : Work Unit := fun t =>
  if h : t.outbox.find? row.eventId = none ∧ (t.cases.find? row.caseId).isSome then
    .ok () (t.addOutbox row h.1 h.2)
  else .error .constraint t

def selectOutbox (eventId : String) : Work (Option OutboxRow) := do
  return (← get).outbox.find? eventId

def updateOutbox (eventId : String) : Work Unit := fun t => .ok () (t.changeOutbox eventId)

/-- `ON CONFLICT DO NOTHING`. -/
def insertIdempotency (row : IdempotencyRow) : Work Bool := fun t =>
  if h : t.idempotency.find? row.key = none then
    .ok true { t with idempotency := t.idempotency.insert row h }
  else .ok false t

def selectIdempotency (key : IdempotencyKey) : Work (Option IdempotencyRow) := do
  return (← get).idempotency.find? key

def updateIdempotency (key : IdempotencyKey) (outboxEventId : String) : Work Unit := fun t =>
  let change (row : IdempotencyRow) : IdempotencyRow :=
    { row with outboxEventId := some outboxEventId }
  .ok () { t with idempotency := t.idempotency.modify key change fun _ => rfl }

def selectEvidence (workflowId : String) : Work (Option EvidenceRow) := do
  return (← get).evidence.find? workflowId

def insertEvidence (row : EvidenceRow) : Work Unit := fun t =>
  if h : t.evidence.find? row.workflowId = none ∧
      (∀ r ∈ t.evidence.rows, r.caseId ≠ row.caseId) ∧ (t.cases.find? row.caseId).isSome then
    .ok () (t.addEvidence row h.1 h.2.1 h.2.2)
  else .error .constraint t

def updateDocument (workflowId : String) (document : EvidenceDocument) : Work Unit := fun t =>
  .ok () (t.changeDocument workflowId document)

end Work
end CSO.HumanOperations
