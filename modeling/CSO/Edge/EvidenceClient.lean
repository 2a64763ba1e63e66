import CSO.JS.Date
import CSO.JS.Schema

/-! What the edge accepts as the evidence of a refund. -/
namespace CSO.Edge
open JS (Reader Json)

inductive MediaType
  | jpeg
  | png
  deriving DecidableEq, Repr

inductive TechnicalStatus
  | processing
  | ready
  | rejected
  deriving DecidableEq, Repr

inductive RejectionCode
  | fileTooLarge
  | unsupportedType
  | invalidImage
  | imageLimitExceeded
  | unsafeFile
  | validationUnavailable
  deriving DecidableEq, Repr

inductive Requirement
  | damagePhoto
  | none
  deriving DecidableEq, Repr

inductive Assessment
  | unreviewed
  | accepted
  | moreRequired
  deriving DecidableEq, Repr

inductive CustomerMessageCode
  | photoUnclear
  | damagedItemNotVisible
  | orderItemNotIdentifiable
  deriving DecidableEq, Repr

structure Attachment where
  evidenceId : String
  displayLabel : String
  contentType : Option MediaType
  byteSize : ℕ
  width : Option ℕ
  height : Option ℕ
  uploadedAt : String
  technicalStatus : TechnicalStatus
  rejectionCode : Option RejectionCode
  deriving DecidableEq, Repr

structure RefundEvidenceSummary where
  requirement : Requirement
  evidenceVersion : ℕ
  assessment : Assessment
  canUpload : Bool
  customerMessageCode : Option CustomerMessageCode
  attachments : List Attachment
  deriving DecidableEq, Repr

/-- `Photo 1` to `Photo 5`. -/
def isDisplayLabel (text : String) : Bool :=
  JS.matches? ("Photo ".toList.map (fun c d => c == d) ++ [fun c => '1' ≤ c && c ≤ '5']) text.toList

/-- A side of an image in pixels. -/
def side : Reader ℕ := .refine .safeInteger fun n => 1 ≤ n && n ≤ 65535

namespace Attachment

/-- Only a ready image has its metadata, and only a rejected one its code. -/
def consistent (value : Attachment) : Bool :=
  (if value.technicalStatus = .ready then
    value.contentType.isSome && value.width.isSome && value.height.isSome && 1 ≤ value.byteSize
  else value.width.isNone && value.height.isNone) &&
    ((value.technicalStatus = .rejected) == value.rejectionCode.isSome)

end Attachment

def attachmentSchema : Reader Attachment := .refine (fun json => do
  let fields ← Reader.strict ["evidence_id", "display_label", "content_type", "byte_size", "width",
    "height", "uploaded_at", "technical_status", "rejection_code"] json
  return {
    evidenceId := ← fields.required "evidence_id" (.refine .text JS.isUuid)
    displayLabel := ← fields.required "display_label" (.refine .text isDisplayLabel)
    contentType := ← fields.optional "content_type" (.member
      [("image/jpeg", .jpeg), ("image/png", .png)])
    byteSize := ← fields.required "byte_size" .safeInteger
    width := ← fields.optional "width" side
    height := ← fields.optional "height" side
    uploadedAt := ← fields.required "uploaded_at" (.refine .text JS.Date.isDateTime)
    technicalStatus := ← fields.required "technical_status" (.member
      [("PROCESSING", .processing), ("READY", .ready), ("REJECTED", .rejected)])
    rejectionCode := ← fields.optional "rejection_code" (.member
      [("FILE_TOO_LARGE", .fileTooLarge), ("UNSUPPORTED_TYPE", .unsupportedType),
        ("INVALID_IMAGE", .invalidImage), ("IMAGE_LIMIT_EXCEEDED", .imageLimitExceeded),
        ("UNSAFE_FILE", .unsafeFile), ("VALIDATION_UNAVAILABLE", .validationUnavailable)]) })
  Attachment.consistent

namespace RefundEvidenceSummary
variable (value : RefundEvidenceSummary)

def invalidAbsentRequirement : Bool :=
  value.requirement = .none && (value.canUpload || value.evidenceVersion ≠ 0 ||
    value.assessment ≠ .unreviewed || value.attachments ≠ [] || value.customerMessageCode.isSome)

def invalidInitialRevision : Bool :=
  value.evidenceVersion = 0 && (value.assessment ≠ .unreviewed || value.attachments ≠ [])

def invalidAcceptedSet : Bool :=
  value.assessment = .accepted && (value.requirement ≠ .damagePhoto || value.evidenceVersion < 1 ||
    value.canUpload || value.attachments = [] ||
    value.attachments.any fun item => item.technicalStatus ≠ .ready)

def invalidCustomerReviewMessage : Bool :=
  (value.assessment = .moreRequired) != value.customerMessageCode.isSome ||
    value.assessment = .moreRequired && value.evidenceVersion < 1

def consistent : Bool :=
  (value.attachments.map Attachment.evidenceId).Nodup && !value.invalidAbsentRequirement &&
    !value.invalidInitialRevision && !value.invalidAcceptedSet &&
    !value.invalidCustomerReviewMessage

end RefundEvidenceSummary

def refundEvidenceSummarySchema : Reader RefundEvidenceSummary := .refine (fun json => do
  let fields ← Reader.strict ["version", "requirement", "evidence_version", "assessment",
    "can_upload", "customer_message_code", "attachments"] json
  let _ ← fields.required "version" (.member [("v1", ())])
  return {
    requirement := ← fields.required "requirement" (.member
      [("DAMAGE_PHOTO", .damagePhoto), ("NONE", .none)])
    evidenceVersion := ← fields.required "evidence_version" .safeInteger
    assessment := ← fields.required "assessment" (.member
      [("UNREVIEWED", .unreviewed), ("ACCEPTED", .accepted), ("MORE_REQUIRED", .moreRequired)])
    canUpload := ← fields.required "can_upload" .bool
    customerMessageCode := ← fields.optional "customer_message_code" (.member
      [("PHOTO_UNCLEAR", .photoUnclear), ("DAMAGED_ITEM_NOT_VISIBLE", .damagedItemNotVisible),
        ("ORDER_ITEM_NOT_IDENTIFIABLE", .orderItemNotIdentifiable)])
    attachments := ← fields.required "attachments"
      (.refine (.array attachmentSchema) fun items => items.length ≤ 5) })
  RefundEvidenceSummary.consistent

end CSO.Edge
