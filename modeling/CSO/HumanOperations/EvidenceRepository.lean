import CSO.HumanOperations.CaseRepository

/-! The repository of photo evidence. Every operation is one transaction on the collection and
the case it is bound to, and reads the clock once. -/
namespace CSO.HumanOperations
open Transition (transaction throwIf required)
open Work

structure EvidenceScope extends Scope where
  subjectCustomerId : Option String
  deriving DecidableEq, Repr

/-- A collection to open, as `ensureSchema` accepts it. -/
structure EnsureEvidenceInput where
  scope : Scope
  subjectCustomerId : String
  workflowId : String
  orderId : String
  proposalId : String
  selectedItemIds : List String
  policyVersion : String
  reviewPacket : RefundReviewPacket
  workflowAccepted : evidenceWorkflowId workflowId = true
  idsAccepted : ∀ id ∈ orderId :: proposalId :: policyVersion :: selectedItemIds,
    opaqueId id = true
  itemsDistinct : selectedItemIds.Nodup ∧ selectedItemIds.length ≤ 100
  packetItems : sorted selectedItemIds = sorted (reviewPacket.selectedItemIds.getD [])
  packetPolicy : policyVersion = reviewPacket.policyVersion
  deriving DecidableEq, Repr

structure BeginUploadInput where
  scope : EvidenceScope
  workflowId : String
  expectedRevision : ℕ
  idempotencyKey : String
  fingerprint : String
  byteSize : ℕ
  contentType : ContentType
  deriving DecidableEq, Repr

/-- A photo as it is stored after validation. -/
structure NormalizedPhoto where
  contentType : ContentType
  byteSize : ℕ
  width : ℕ
  height : ℕ
  sha256 : String
  sizePositive : 1 ≤ byteSize
  widthBounds : 1 ≤ width ∧ width ≤ 65535
  heightBounds : 1 ≤ height ∧ height ≤ 65535
  deriving DecidableEq, Repr

inductive UploadResult
  | normalized (photo : NormalizedPhoto)
  | rejected (code : RejectionCode)
  deriving DecidableEq, Repr

structure FinishUploadInput where
  scope : EvidenceScope
  workflowId : String
  evidenceId : String
  result : UploadResult
  deriving DecidableEq, Repr

structure ReviewInput where
  scope : EvidenceScope
  workflowId : String
  access : HumanAccess
  command : EvidenceReview
  idempotencyKey : String
  deriving DecidableEq, Repr

/-- A case leaves its evidence review for one of the two phases that decide. -/
structure TransitionEvidenceInput where
  scope : EvidenceScope
  workflowId : String
  caseType : HumanCaseType
  reviewPacket : RefundReviewPacket
  policyVersion : String
  expectedEvidenceVersion : ℕ
  idempotencyKey : String
  decides : caseType ≠ .refundEvidenceReview
  deriving DecidableEq, Repr

/-- `remove` is whether the callback deletes the object under a storage key, or throws. -/
structure PurgeOptions where
  retentionDays : ℤ
  now : ℤ
  remove : String → Bool

def tenMinutes : ℤ := 600000
def oneDay : ℤ := 86400000
def maxBatch : ℕ := 100

/-- The row of a collection joined with the row of its case. -/
def EvidenceRow.record (row : EvidenceRow) (humanCase : CaseRow) : EvidenceRecord where
  case := humanCase
  customerId := row.subjectCustomerId
  binding := ⟨row.orderId, row.proposalId, row.selectedItemIds, humanCase.policyVersion⟩
  document := row.document

namespace Tables
variable (t : Tables)

def record? (row : EvidenceRow) : Option EvidenceRecord :=
  (t.cases.find? row.caseId).map row.record

def records : List EvidenceRecord := t.evidence.rows.filterMap t.record?

end Tables

def selectRecord (workflowId : String) : Work (Option EvidenceRecord) := do
  let t ← get
  return (t.evidence.find? workflowId).bind t.record?

/-- `ORDER BY updated_at LIMIT 100 FOR UPDATE SKIP LOCKED`, with the workflows whose rows another
transaction has locked. -/
def selectBatch (eligible : EvidenceRecord → Bool) (locked : List String) :
    Work (List EvidenceRecord) := do
  let rows := (← get).records.filter fun record =>
    eligible record && record.case.workflowId ∉ locked
  return (rows.insertionSort fun a b => a.case.updatedAt ≤ b.case.updatedAt).take maxBatch

def load (subjectCustomerId : Option String) (workflowId : String) : Work EvidenceRecord := do
  let record ← required (← selectRecord workflowId) (.evidence .evidenceNotFound)
  throwIf (subjectCustomerId.any (· ≠ record.customerId)) (.evidence .evidenceNotFound)
  return record

/-- A saved document is a new version of the case, which its `updated_at` shows until the case
is closed. -/
def CaseRow.touch (row : CaseRow) (now : ℤ) : CaseRow :=
  { row with
    caseVersion := row.caseVersion + 1
    updatedAt := if row.status = .closed then row.updatedAt else now }

def save (record : EvidenceRecord) (document : EvidenceDocument) (event : CaseEventType)
    (actorType : ActorType) (actorId : String) (details : List (String × String)) (now : ℤ) :
    Work EvidenceRecord := do
  updateDocument record.case.workflowId document
  updateCase record.case.caseId (CaseRow.touch · now)
  let changed ← required (← selectCase record.case.caseId) (.error "Evidence case disappeared")
  appendAudit changed event actorType actorId details now
  return { record with case := changed, document }

def EnsureEvidenceInput.fingerprint (input : EnsureEvidenceInput) : String :=
  digest (.obj [("customer", .str input.subjectCustomerId), ("order", .str input.orderId),
    ("proposal", .str input.proposalId), ("items", strings (sorted input.selectedItemIds)),
    ("policy", .str input.policyVersion), ("packet", input.reviewPacket.json)])

/-- The case row that `ensure` inserts. -/
def EnsureEvidenceInput.caseRow (input : EnsureEvidenceInput) (uuid : JS.Uuid) (now : ℤ) :
    CaseRow where
  caseId := "case-" ++ uuid.text
  tenantId := input.scope.tenantId
  environmentId := input.scope.environmentId
  workflowId := input.workflowId
  caseType := .refundEvidenceReview
  status := .opened
  assignedStaffId := none
  caseVersion := 1
  reviewPacket := input.reviewPacket
  policyVersion := input.policyVersion
  createdAt := now
  updatedAt := now
  decidedAt := none

def EvidenceDocument.initial (ensureFingerprint : String) : EvidenceDocument where
  revision := 0
  assessment := .unreviewed
  reasonCode := none
  assessmentId := none
  manifestHash := none
  ensureFingerprint
  attachments := []
  reviewKeys := []
  transitionKeys := []
  retired := false

def EnsureEvidenceInput.evidenceRow (input : EnsureEvidenceInput) (caseId : String) :
    EvidenceRow where
  workflowId := input.workflowId
  caseId
  subjectCustomerId := input.subjectCustomerId
  orderId := input.orderId
  proposalId := input.proposalId
  selectedItemIds := input.selectedItemIds
  document := .initial input.fingerprint

def ensure (input : EnsureEvidenceInput) (uuid : JS.Uuid) (now : ℤ) : Work EvidenceSnapshot :=
  transaction do
    if (← selectRecord input.workflowId).isSome then
      let record ← load (some input.subjectCustomerId) input.workflowId
      throwIf (record.document.ensureFingerprint ≠ input.fingerprint)
        (.evidence .idempotencyConflict)
      return evidenceSnapshot record
    else
      let created := input.caseRow uuid now
      throwIf (¬(← insertCase created)) (.evidence .evidenceCaseConflict)
      insertEvidence (input.evidenceRow created.caseId)
      let record ← load (some input.subjectCustomerId) input.workflowId
      appendAudit record.case .caseOpened .workflow input.workflowId
        [("case_type", HumanCaseType.refundEvidenceReview.text)] now
      return evidenceSnapshot record

def getEvidence (scope : EvidenceScope) (workflowId : String) : Work EvidenceRecord :=
  transaction (load scope.subjectCustomerId workflowId)

structure UploadReservation where
  record : EvidenceRecord
  photo : StoredPhoto
  created : Bool
  deriving DecidableEq, Repr

def ContentType.extension : ContentType → String
  | .jpeg => "jpg"
  | .png => "png"

/-- The photo that `beginUpload` adds. -/
def BeginUploadInput.photo (input : BeginUploadInput) (evidenceId uploadedAt : String) :
    StoredPhoto where
  evidenceId
  displayLabel := "Photo 1"
  byteSize := input.byteSize
  uploadedAt
  technicalStatus := .processing
  contentType := some input.contentType
  width := none
  height := none
  rejectionCode := none
  storageKey := evidenceId ++ "." ++ input.contentType.extension
  sha256 := none
  uploadKey := input.idempotencyKey
  fingerprint := input.fingerprint
  purged := false
  superseded := false

/-- A new photo withdraws the assessment. -/
def EvidenceDocument.reserve (document : EvidenceDocument) (photo : StoredPhoto) :
    EvidenceDocument :=
  { document with
    attachments := document.attachments ++ [photo]
    revision := document.revision + 1
    assessment := .unreviewed
    reasonCode := none
    assessmentId := none
    manifestHash := none }

/-- Uploads are refused from acceptance or retirement on, and outside the evidence phase. -/
def EvidenceRecord.frozen (record : EvidenceRecord) : Bool :=
  record.document.assessment = .accepted || record.document.retired ||
    record.case.caseType ≠ .refundEvidenceReview ||
    !(record.case.status = .opened || record.case.status = .claimed)

def EvidenceDocument.full (document : EvidenceDocument) (byteSize : ℕ) : Bool :=
  maxPhotos ≤ document.active.length || maxUploadAttempts ≤ document.attachments.length ||
    maxSetBytes < totalBytes document.active + byteSize

def beginUpload (input : BeginUploadInput) (uuid : JS.Uuid) (now : ℤ) : Work UploadReservation :=
  transaction do
    let record ← load input.scope.subjectCustomerId input.workflowId
    match record.document.attachments.find? fun photo => photo.uploadKey = input.idempotencyKey with
    | some existing =>
      throwIf (existing.fingerprint ≠ input.fingerprint) (.evidence .idempotencyConflict)
      return ⟨record, existing, false⟩
    | none =>
      throwIf record.frozen (.evidence .evidenceFrozen)
      throwIf (record.document.revision ≠ input.expectedRevision)
        (.evidence .staleEvidenceVersion)
      throwIf (record.document.full input.byteSize) (.evidence .evidenceLimitExceeded)
      let uploadedAt ← required (JS.Date.toISOString now) (.error "Invalid time value")
      let photo := input.photo uuid.text uploadedAt
      let document := record.document.reserve photo
      let saved ← save record document .evidenceUploadReserved .customer record.customerId
        [("evidence_id", photo.evidenceId), ("evidence_version", toString document.revision)] now
      return ⟨saved, photo, true⟩

def StoredPhoto.accept (photo : StoredPhoto) (normalized : NormalizedPhoto) : StoredPhoto :=
  { photo with
    technicalStatus := .ready
    contentType := some normalized.contentType
    byteSize := normalized.byteSize
    width := some normalized.width
    height := some normalized.height
    sha256 := some normalized.sha256 }

def StoredPhoto.settle (photo : StoredPhoto) : UploadResult → StoredPhoto
  | .normalized normalized => photo.accept normalized
  | .rejected code => photo.reject code

/-- A result that comes after the case was closed, or that exceeds the set, is a rejection. -/
def EvidenceRecord.uploadResult (record : EvidenceRecord) (evidenceId : String)
    (result : UploadResult) : UploadResult :=
  let result := if record.case.status = .closed ∨ record.document.retired then
    .rejected .validationUnavailable else result
  let others := record.document.active.filter fun photo => photo.evidenceId ≠ evidenceId
  match result with
  | .rejected code => .rejected code
  | .normalized photo =>
    if maxSetBytes < totalBytes others + photo.byteSize then .rejected .fileTooLarge
    else .normalized photo

/-- Identifiers of photos are unique. -/
def EvidenceDocument.finish (document : EvidenceDocument) (evidenceId : String)
    (result : UploadResult) : EvidenceDocument :=
  { document with
    attachments := document.attachments.map fun photo =>
      if photo.evidenceId = evidenceId then photo.settle result else photo
    revision := document.revision + 1 }

def TechnicalStatus.text : TechnicalStatus → String
  | .processing => "PROCESSING"
  | .ready => "READY"
  | .rejected => "REJECTED"

def finishUpload (input : FinishUploadInput) (now : ℤ) : Work EvidenceSnapshot :=
  transaction do
    let record ← load input.scope.subjectCustomerId input.workflowId
    let photo ← required
      (record.document.attachments.find? fun photo => photo.evidenceId = input.evidenceId)
      (.evidence .evidenceNotFound)
    if photo.technicalStatus ≠ .processing then
      return evidenceSnapshot record
    else
      let result := record.uploadResult input.evidenceId input.result
      let document := record.document.finish input.evidenceId result
      let saved ← save record document .evidenceValidated .workflow input.workflowId
        [("evidence_id", input.evidenceId),
          ("technical_status", (photo.settle result).technicalStatus.text),
          ("evidence_version", toString document.revision)] now
      return evidenceSnapshot saved

def ReviewInput.fingerprint (input : ReviewInput) : String :=
  digest (.obj (("staff", .str input.access.staffId) :: input.command.fields))

/-- Acceptance freezes the current set. A request for more starts a fresh one and keeps the old
photos, which still count against the upload attempts. -/
def EvidenceDocument.review (document : EvidenceDocument) (command : EvidenceReview)
    (assessmentId key fingerprint : String) : EvidenceDocument :=
  let reviewed := { document with
    reasonCode := some command.reasonCode
    assessmentId := some assessmentId
    reviewKeys := (key, fingerprint) :: document.reviewKeys }
  match command.action with
  | .acceptEvidence => { reviewed with
      assessment := .accepted
      manifestHash := some (HumanOperations.manifestHash document.available) }
  | .requestMoreEvidence => { reviewed with
      assessment := .moreRequired
      attachments := document.attachments.map fun photo =>
        if photo.available then { photo with superseded := true } else photo
      revision := document.revision + 1
      manifestHash := none }

def Assessment.text : Assessment → String
  | .unreviewed => "UNREVIEWED"
  | .accepted => "ACCEPTED"
  | .moreRequired => "MORE_REQUIRED"

def reviewDetails (reviewed document : EvidenceDocument) (command : EvidenceReview)
    (assessmentId : String) : List (String × String) :=
  [("assessment", document.assessment.text), ("assessment_id", assessmentId),
    ("reviewed_evidence_version", toString reviewed.revision),
    ("evidence_version", toString document.revision),
    ("reviewed_evidence_ids",
      (strings (reviewed.available.map fun photo => photo.evidenceId)).stringify)] ++
    (document.manifestHash.toList.map fun hash => ("accepted_manifest_hash", hash)) ++
    [("reason_code", command.reasonCode.text)] ++
    (command.note.toList.map fun note => ("note", note))

def review (input : ReviewInput) (uuid : JS.Uuid) (now : ℤ) : Work EvidenceSnapshot :=
  transaction do
    let record ← load input.scope.subjectCustomerId input.workflowId
    match member record.document.reviewKeys input.idempotencyKey with
    | .text existing =>
      throwIf (existing ≠ input.fingerprint) (.evidence .idempotencyConflict)
      return evidenceSnapshot record
    | .inherited => throw (.evidence .idempotencyConflict)
    | .absent =>
      throwIf (¬canReviewEvidence input.access record) (.evidence .evidenceReviewForbidden)
      throwIf (record.case.caseVersion ≠ input.command.expectedCaseVersion)
        (.evidence .staleCaseVersion)
      throwIf (record.document.revision ≠ input.command.expectedEvidenceVersion)
        (.evidence .staleEvidenceVersion)
      throwIf (maxReviews ≤ record.document.reviewKeys.length) (.evidence .evidenceLimitExceeded)
      let document := record.document.review input.command uuid.text input.idempotencyKey
        input.fingerprint
      let saved ← save record document .evidenceReviewed .human input.access.staffId
        (reviewDetails record.document document input.command uuid.text) now
      return evidenceSnapshot saved

def TransitionEvidenceInput.fingerprint (input : TransitionEvidenceInput) : String :=
  digest (.obj [("type", .str input.caseType.text), ("packet", input.reviewPacket.json),
    ("policy", .str input.policyVersion), ("revision", .num input.expectedEvidenceVersion)])

/-- The packet and the version belong to the collection and to the packet of its case. -/
def TransitionEvidenceInput.bound (input : TransitionEvidenceInput) (record : EvidenceRecord) :
    Bool :=
  let packet := record.case.reviewPacket
  sorted (input.reviewPacket.selectedItemIds.getD []) = sorted record.binding.selectedItemIds &&
    input.reviewPacket.orderReference = packet.orderReference &&
    input.reviewPacket.refundReason = packet.refundReason &&
    input.reviewPacket.requestedAmount.map Money.amountMinor =
      packet.requestedAmount.map Money.amountMinor &&
    input.reviewPacket.requestedAmount.map Money.currency =
      packet.requestedAmount.map Money.currency

/-- The case in its new phase. -/
def CaseRow.enterPhase (row : CaseRow) (caseType : HumanCaseType) (packet : RefundReviewPacket) :
    CaseRow :=
  { row with caseType, status := .opened, assignedStaffId := none, reviewPacket := packet }

def transition (input : TransitionEvidenceInput) (now : ℤ) : Work EvidenceSnapshot :=
  transaction do
    let record ← load input.scope.subjectCustomerId input.workflowId
    match member record.document.transitionKeys input.idempotencyKey with
    | .text prior =>
      throwIf (prior ≠ input.fingerprint) (.evidence .idempotencyConflict)
      return evidenceSnapshot record
    | .inherited => throw (.evidence .idempotencyConflict)
    | .absent =>
      throwIf (record.document.assessment ≠ .accepted ∨ record.document.retired ∨
        record.document.revision ≠ input.expectedEvidenceVersion) (.evidence .evidenceNotAccepted)
      throwIf (record.binding.policyVersion ≠ input.policyVersion ∨
        input.reviewPacket.policyVersion ≠ input.policyVersion) (.evidence .evidenceBindingConflict)
      throwIf (record.case.caseType ≠ .refundEvidenceReview ∨ record.case.status = .closed)
        (.evidence .evidenceCaseConflict)
      throwIf (¬input.bound record) (.evidence .evidenceBindingConflict)
      updateCase record.case.caseId (CaseRow.enterPhase · input.caseType input.reviewPacket)
      let document := { record.document with
        transitionKeys := (input.idempotencyKey, input.fingerprint) ::
          record.document.transitionKeys }
      let saved ← save record document .casePhaseChanged .workflow input.workflowId
        [("case_type", input.caseType.text), ("evidence_version", toString document.revision)] now
      return evidenceSnapshot saved

/-- An upload whose validation never came to an end. -/
def StoredPhoto.stale (photo : StoredPhoto) (now : ℤ) : Bool :=
  photo.technicalStatus = .processing && (photo.age now).any (tenMinutes ≤ ·)

/-- A rejected photo whose object is still stored after a day. -/
def StoredPhoto.leftover (photo : StoredPhoto) (now : ℤ) : Bool :=
  photo.technicalStatus = .rejected && !photo.purged && (photo.age now).any (oneDay ≤ ·)

def StoredPhoto.recover (photo : StoredPhoto) (now : ℤ) : StoredPhoto :=
  if photo.stale now then photo.reject .validationUnavailable else photo

def EvidenceDocument.recover (document : EvidenceDocument) (now : ℤ) : EvidenceDocument :=
  { document with
    attachments := document.attachments.map (StoredPhoto.recover · now)
    revision := document.revision + 1 }

def EvidenceRecord.hasStale (now : ℤ) (record : EvidenceRecord) : Bool :=
  record.document.attachments.any (StoredPhoto.stale · now)

def recoverRecord (subjectCustomerId : Option String) (now : ℤ) (row : EvidenceRecord) :
    Work Unit := do
  let record ← load subjectCustomerId row.case.workflowId
  let _ ← save record (record.document.recover now) .evidenceValidated .workflow
    record.case.workflowId
    [("technical_status", "REJECTED"), ("reason", "STALE_PROCESSING_RECOVERED")] now

def recoverStaleUploads (scope : EvidenceScope) (locked : List String) (now : ℤ) : Work Unit :=
  transaction do
    forM (← selectBatch (EvidenceRecord.hasStale now) locked)
      (recoverRecord scope.subjectCustomerId now)

/-- A closed case whose retention is over. -/
def PurgeOptions.expired (options : PurgeOptions) (row : CaseRow) : Bool :=
  row.status = .closed && options.retentionDays * oneDay ≤ options.now - row.updatedAt

def PurgeOptions.eligible (options : PurgeOptions) (record : EvidenceRecord) : Bool :=
  options.expired record.case && !record.document.retired ||
    record.document.attachments.any fun photo =>
      photo.stale options.now || photo.leftover options.now

/-- The object of a photo is deleted with its expired case, or as a leftover. -/
def PurgeOptions.removes (options : PurgeOptions) (expired : Bool) (photo : StoredPhoto) : Bool :=
  !photo.purged && expired || photo.leftover options.now

def PurgeOptions.purgePhoto (options : PurgeOptions) (expired : Bool) (photo : StoredPhoto) :
    StoredPhoto :=
  let photo := photo.recover options.now
  if options.removes expired photo then { photo with purged := true } else photo

/-- An accepted set keeps its revision until it is retired. -/
def PurgeOptions.purgeDocument (options : PurgeOptions) (expired : Bool)
    (document : EvidenceDocument) : EvidenceDocument :=
  let retired := document.retired || expired
  { document with
    attachments := document.attachments.map (options.purgePhoto expired)
    retired
    revision := if document.assessment ≠ .accepted ∨ retired then document.revision + 1
      else document.revision }

def PurgeOptions.changes (options : PurgeOptions) (expired : Bool) (document : EvidenceDocument) :
    Bool :=
  expired && !document.retired || document.attachments.any fun photo =>
    photo.stale options.now || options.removes expired (photo.recover options.now)

def boolText (b : Bool) : String := if b then "true" else "false"

def purgeRecord (options : PurgeOptions) (now : ℤ) (record : EvidenceRecord) : Work Unit := do
  let expired := options.expired record.case
  throwIf (record.document.attachments.any fun photo =>
    options.removes expired (photo.recover options.now) && !options.remove photo.storageKey)
    .callback
  if options.changes expired record.document then
    let document := options.purgeDocument expired record.document
    let _ ← save record document .evidencePurged .workflow record.case.workflowId
      [("retired", boolText document.retired)] now
  else
    return ()

def purge (options : PurgeOptions) (locked : List String) (now : ℤ) : Work Unit :=
  transaction do
    forM (← selectBatch options.eligible locked) (purgeRecord options now)

end CSO.HumanOperations
