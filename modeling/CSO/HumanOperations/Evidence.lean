import CSO.HumanOperations.Case
import CSO.JS.Date
import Mathlib.Data.List.Sort

/-! Photo evidence: the document of a collection, who may review it and the snapshot that is
reported of it. -/
namespace CSO.HumanOperations

def maxPhotoBytes : ℕ := 10 * 1024 * 1024
def maxSetBytes : ℕ := 25 * 1024 * 1024
def maxPhotos : ℕ := 5
def maxUploadAttempts : ℕ := 20
def maxReviews : ℕ := 100

inductive TechnicalStatus
  | processing
  | ready
  | rejected
  deriving DecidableEq, Repr

inductive ContentType
  | jpeg
  | png
  deriving DecidableEq, Repr

inductive RejectionCode
  | fileTooLarge
  | unsupportedType
  | invalidImage
  | imageLimitExceeded
  | unsafeFile
  | validationUnavailable
  deriving DecidableEq, Repr

inductive Assessment
  | unreviewed
  | accepted
  | moreRequired
  deriving DecidableEq, Repr

inductive ReviewAction
  | acceptEvidence
  | requestMoreEvidence
  deriving DecidableEq, Repr

def ReviewAction.text : ReviewAction → String
  | .acceptEvidence => "ACCEPT_EVIDENCE"
  | .requestMoreEvidence => "REQUEST_MORE_EVIDENCE"

inductive ReviewReason
  | damageVisible
  | photoUnclear
  | damagedItemNotVisible
  | orderItemNotIdentifiable
  deriving DecidableEq, Repr

def ReviewReason.text : ReviewReason → String
  | .damageVisible => "DAMAGE_VISIBLE"
  | .photoUnclear => "PHOTO_UNCLEAR"
  | .damagedItemNotVisible => "DAMAGED_ITEM_NOT_VISIBLE"
  | .orderItemNotIdentifiable => "ORDER_ITEM_NOT_IDENTIFIABLE"

/-- A review that `evidenceReviewSchema` accepts. -/
structure EvidenceReview where
  action : ReviewAction
  expectedCaseVersion : ℕ
  expectedEvidenceVersion : ℕ
  reasonCode : ReviewReason
  note : Option String
  reasonMatches : action = .acceptEvidence ↔ reasonCode = .damageVisible
  deriving DecidableEq, Repr

def EvidenceReview.fields (review : EvidenceReview) : List (String × JS.Json) :=
  [("version", .str "v1"), ("action", .str review.action.text),
    ("expected_case_version", .num review.expectedCaseVersion),
    ("expected_evidence_version", .num review.expectedEvidenceVersion),
    ("reason_code", .str review.reasonCode.text)] ++
    optionalField "note" (review.note.map JS.Json.str)

structure EvidenceBinding where
  orderId : String
  proposalId : String
  selectedItemIds : List String
  policyVersion : String
  deriving DecidableEq, Repr

structure EvidencePhoto where
  evidenceId : String
  displayLabel : String
  byteSize : ℕ
  uploadedAt : String
  technicalStatus : TechnicalStatus
  contentType : Option ContentType
  width : Option ℕ
  height : Option ℕ
  rejectionCode : Option RejectionCode
  deriving DecidableEq, Repr

structure StoredPhoto extends EvidencePhoto where
  storageKey : String
  sha256 : Option String
  uploadKey : String
  fingerprint : String
  purged : Bool
  superseded : Bool
  deriving DecidableEq, Repr

structure EvidenceDocument where
  revision : ℕ
  assessment : Assessment
  reasonCode : Option ReviewReason
  assessmentId : Option String
  manifestHash : Option String
  ensureFingerprint : String
  attachments : List StoredPhoto
  reviewKeys : List (String × String)
  transitionKeys : List (String × String)
  retired : Bool
  deriving DecidableEq, Repr

/-- A case with the collection that is bound to it. -/
structure EvidenceRecord where
  case : CaseRow
  customerId : String
  binding : EvidenceBinding
  document : EvidenceDocument
  deriving DecidableEq, Repr

structure EvidenceSummary where
  evidenceVersion : ℕ
  assessment : Assessment
  canUpload : Bool
  customerMessageCode : Option ReviewReason
  attachments : List EvidencePhoto
  deriving DecidableEq, Repr

structure EvidenceSnapshot where
  caseId : String
  caseStatus : HumanCaseStatus
  evidence : EvidenceSummary
  binding : EvidenceBinding
  acceptedManifestHash : Option String
  assessmentId : Option String
  deriving DecidableEq, Repr

def opaqueId : String → Bool := JS.isIdentifier 160
def evidenceWorkflowId : String → Bool := JS.isIdentifier 200

def digest (value : JS.Json) : String := JS.Sha256.hex value.stringify

/-- `[...ids].sort()`. -/
def sorted (ids : List String) : List String := ids.insertionSort fun a b => JS.notAfter a b

/-- `items.slice(start)`. -/
def slice {α : Type} (items : List α) (start : ℤ) : List α :=
  items.drop (if start < 0 then items.length - (-start).toNat else start.toNat)

/-- The keys that every object inherits. -/
def inheritedKeys : List String :=
  ["constructor", "__defineGetter__", "__defineSetter__", "hasOwnProperty", "__lookupGetter__",
    "__lookupSetter__", "isPrototypeOf", "propertyIsEnumerable", "toString", "valueOf",
    "__proto__", "toLocaleString"]

/-- What `record[key]` finds in an object of texts. Inherited members are no text, so they
compare unequal to every fingerprint. -/
inductive Member
  | absent
  | text (value : String)
  | inherited

def member (keys : List (String × String)) (key : String) : Member :=
  match keys.lookup key with
  | some value => .text value
  | none => if key ∈ inheritedKeys then .inherited else .absent

namespace StoredPhoto
variable (photo : StoredPhoto)

/-- Part of the current set. -/
def available : Bool := !photo.purged && !photo.superseded

/-- Counts against the limits of the current set. -/
def active : Bool := photo.technicalStatus ≠ .rejected && photo.available

/-- Milliseconds since the upload, where the recorded instant can be read. -/
def age (now : ℤ) : Option ℤ := (JS.Date.parse photo.uploadedAt).map fun uploaded => now - uploaded

def reject (code : RejectionCode) : StoredPhoto :=
  { photo with technicalStatus := .rejected, rejectionCode := some code }

end StoredPhoto

namespace EvidenceDocument
variable (document : EvidenceDocument)

def available : List StoredPhoto := document.attachments.filter StoredPhoto.available

def active : List StoredPhoto := document.attachments.filter StoredPhoto.active

/-- The ready photos of the current set. -/
def ready : List StoredPhoto :=
  document.available.filter fun photo => photo.technicalStatus = .ready

end EvidenceDocument

def totalBytes (photos : List StoredPhoto) : ℕ := (photos.map fun photo => photo.byteSize).sum

def canReviewEvidence (access : HumanAccess) (record : EvidenceRecord) : Bool :=
  (access.role = .refundApprover ∨ access.role = .refundSupervisor) &&
    record.case.caseType = .refundEvidenceReview && record.case.status = .claimed &&
    record.case.tenantId = access.tenantId && record.case.environmentId = access.environmentId &&
    record.case.assignedStaffId = some access.staffId && record.document.assessment ≠ .accepted &&
    (record.document.attachments.any fun photo =>
      photo.technicalStatus = .ready && photo.available) &&
    !record.document.attachments.any fun photo =>
      photo.technicalStatus = .processing && !photo.superseded

/-- What the assessment shows of the current set. -/
def EvidenceDocument.visible (document : EvidenceDocument) : List StoredPhoto :=
  let rejected := document.available.filter fun photo => photo.technicalStatus = .rejected
  if document.assessment = .accepted then document.ready
  else (document.active ++ slice rejected (-((maxPhotos : ℤ) - document.active.length))).take
    maxPhotos

/-- Photos in a summary are numbered from one. -/
def summaryPhotos (photos : List StoredPhoto) : List EvidencePhoto :=
  photos.zipIdx.map fun (photo, index) => {
    evidenceId := photo.evidenceId
    displayLabel := "Photo " ++ toString (index + 1)
    byteSize := photo.byteSize
    uploadedAt := photo.uploadedAt
    technicalStatus := photo.technicalStatus
    contentType := photo.contentType
    width := photo.width
    height := if photo.width.isNone then none else photo.height
    rejectionCode := photo.rejectionCode }

def canUpload (record : EvidenceRecord) : Bool :=
  let document := record.document
  !document.retired && document.assessment ≠ .accepted &&
    record.case.caseType = .refundEvidenceReview &&
    (record.case.status = .opened ∨ record.case.status = .claimed) &&
    document.active.length < maxPhotos && document.attachments.length < maxUploadAttempts &&
    totalBytes document.active < maxSetBytes

def evidenceSummary (record : EvidenceRecord) : EvidenceSummary where
  evidenceVersion := record.document.revision
  assessment := if record.document.retired then .unreviewed else record.document.assessment
  canUpload := canUpload record
  customerMessageCode :=
    if !record.document.retired && record.document.assessment = .moreRequired then
      record.document.reasonCode
    else none
  attachments := if record.document.retired then [] else summaryPhotos record.document.visible

def evidenceSnapshot (record : EvidenceRecord) : EvidenceSnapshot where
  caseId := record.case.caseId
  caseStatus := record.case.status
  evidence := evidenceSummary record
  binding := record.binding
  acceptedManifestHash := record.document.manifestHash
  assessmentId := record.document.assessmentId

/-- The text under `manifestHash`, and what it is computed from. Identifiers are compared by
code units, as `localeCompare` does on lower-case UUIDs. -/
def manifestHash (photos : List StoredPhoto) : String :=
  let ready := photos.filter fun photo => photo.technicalStatus = .ready
  let ordered := ready.insertionSort fun a b => JS.notAfter a.evidenceId b.evidenceId
  "sha256:" ++ digest (.arr (ordered.map fun photo =>
    .obj (("id", .str photo.evidenceId) :: optionalField "sha256" (photo.sha256.map JS.Json.str))))

end CSO.HumanOperations
