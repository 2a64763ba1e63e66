import CSO.JS.Schema
import CSO.Workers.Activities

/-! What the worker accepts as a snapshot of the evidence. -/
namespace CSO.Workers
open JS (Reader Json)

inductive TechnicalStatus
  | processing
  | ready
  | rejected
  deriving DecidableEq, Repr

structure EvidenceFile where
  evidenceId : String
  technicalStatus : TechnicalStatus
  deriving DecidableEq, Repr

structure SnapshotEvidence where
  evidenceVersion : ℕ
  assessment : EvidenceAssessment
  canUpload : Bool
  attachments : List EvidenceFile
  deriving DecidableEq, Repr

structure SnapshotBinding where
  orderId : String
  proposalId : String
  selectedItemIds : List String
  policyVersion : String
  deriving DecidableEq, Repr

structure SnapshotValue where
  caseId : String
  evidence : SnapshotEvidence
  binding : SnapshotBinding
  acceptedManifestHash : Option String
  assessmentId : Option String
  deriving DecidableEq, Repr

/-- `z.string().min(1)`. -/
def nonEmptyText : Reader String := .refine .text (· ≠ "")

def evidenceFileSchema : Reader EvidenceFile := fun json => do
  let fields ← Reader.object json
  return {
    evidenceId := ← fields.required "evidence_id" (.refine .text JS.isUuid)
    technicalStatus := ← fields.required "technical_status" (.member
      [("PROCESSING", .processing), ("READY", .ready), ("REJECTED", .rejected)]) }

def snapshotEvidenceSchema : Reader SnapshotEvidence := fun json => do
  let fields ← Reader.object json
  let _ ← fields.required "version" (.member [("v1", ())])
  let _ ← fields.required "requirement" (.member [("DAMAGE_PHOTO", ())])
  return {
    evidenceVersion := ← fields.required "evidence_version" .safeInteger
    assessment := ← fields.required "assessment" (.member
      [("UNREVIEWED", .unreviewed), ("ACCEPTED", .accepted), ("MORE_REQUIRED", .moreRequired)])
    canUpload := ← fields.required "can_upload" .bool
    attachments := ← fields.required "attachments"
      (.refine (.array evidenceFileSchema) fun files => files.length ≤ 5) }

def snapshotBindingSchema : Reader SnapshotBinding := fun json => do
  let fields ← Reader.strict ["order_id", "proposal_id", "selected_item_ids", "policy_version"] json
  return {
    orderId := ← fields.required "order_id" nonEmptyText
    proposalId := ← fields.required "proposal_id" nonEmptyText
    selectedItemIds := ← fields.required "selected_item_ids" (.array nonEmptyText)
    policyVersion := ← fields.required "policy_version" nonEmptyText }

def snapshotSchema : Reader SnapshotValue := fun json => do
  let fields ← Reader.strict ["case_id", "case_status", "evidence", "binding",
    "accepted_manifest_hash", "assessment_id"] json
  let _ ← fields.required "case_status" (.member
    [("OPEN", ()), ("CLAIMED", ()), ("DECISION_PENDING", ()), ("CLOSED", ())])
  return {
    caseId := ← fields.required "case_id" nonEmptyText
    evidence := ← fields.required "evidence" snapshotEvidenceSchema
    binding := ← fields.required "binding" snapshotBindingSchema
    acceptedManifestHash := ← fields.optional "accepted_manifest_hash" (.refine .text JS.isSha256)
    assessmentId := ← fields.optional "assessment_id" (.refine .text JS.isUuid) }

/-- What the worker reports of a set that is accepted. -/
def SnapshotValue.accepted (value : SnapshotValue) (now : ℤ) :
    Except String (Option AcceptedDamageEvidence) :=
  if value.evidence.assessment ≠ .accepted then .ok none
  else
    match value.acceptedManifestHash, value.assessmentId with
    | some manifestHash, some assessmentId =>
      if value.evidence.canUpload ∨ value.evidence.evidenceVersion < 1 ∨
          value.evidence.attachments = [] ∨
          value.evidence.attachments.any (fun file => file.technicalStatus ≠ .ready) then
        .error "INVALID_ACCEPTED_EVIDENCE"
      else
        match JS.Date.toISOString now with
        | none => .error "Invalid time value"
        | some observedAt => .ok (some {
            evidenceVersion := value.evidence.evidenceVersion
            assessmentId
            manifestHash
            observedAt })
    | _, _ => .error "INVALID_ACCEPTED_EVIDENCE"

/-- The schema's own error is told apart by its name only. -/
def parseEvidenceSnapshot (data : Json) (input : EvidenceAccess) (now : ℤ) :
    Except String EvidenceSnapshot := do
  match snapshotSchema data with
  | none => .error "ZodError"
  | some value =>
    let expected := input.proposal.intent
    if value.binding.orderId ≠ expected.orderId ∨
        value.binding.proposalId ≠ input.proposal.proposalId ∨
        value.binding.policyVersion ≠ input.policyVersion ∨
        value.binding.selectedItemIds.insertionSort (fun a b => JS.notAfter a b) ≠
          expected.itemIds.insertionSort (fun a b => JS.notAfter a b) then
      .error "REFUND_EVIDENCE_BINDING_MISMATCH"
    else
      let files := value.evidence.attachments
      if ¬(files.map EvidenceFile.evidenceId).Nodup then .error "DUPLICATE_EVIDENCE_ID"
      else
        let accepted ← value.accepted now
        return {
          caseId := value.caseId
          assessment := value.evidence.assessment
          evidenceVersion := value.evidence.evidenceVersion
          readyCount := (files.filter fun file => file.technicalStatus = .ready).length
          processingCount := (files.filter fun file => file.technicalStatus = .processing).length
          accepted }

end CSO.Workers
