import CSO.Edge.EvidenceClient
import CSO.JS.Form

/-! The summary of refund evidence, as the edge checks it and as its contract is published. -/
namespace CSO.Edge.Contract
open JS (Value JsonTree Form Json Reader)
open JS.Form (readText readNatural readMember readArray readStrict)
open JS.JsonSchema

/-- What the formats `uuid` and `date-time` are. -/
structure Formats where
  uuid : String → Bool
  dateTime : String → Bool

/-! The edge's own schema. -/

def mediaTypes : List (String × MediaType) := [("image/jpeg", .jpeg), ("image/png", .png)]

def technicalStatuses : List (String × TechnicalStatus) :=
  [("PROCESSING", .processing), ("READY", .ready), ("REJECTED", .rejected)]

def rejectionCodes : List (String × RejectionCode) :=
  [("FILE_TOO_LARGE", .fileTooLarge), ("UNSUPPORTED_TYPE", .unsupportedType),
    ("INVALID_IMAGE", .invalidImage), ("IMAGE_LIMIT_EXCEEDED", .imageLimitExceeded),
    ("UNSAFE_FILE", .unsafeFile), ("VALIDATION_UNAVAILABLE", .validationUnavailable)]

def requirements : List (String × Requirement) := [("DAMAGE_PHOTO", .damagePhoto), ("NONE", .none)]

def assessments : List (String × Assessment) :=
  [("UNREVIEWED", .unreviewed), ("ACCEPTED", .accepted), ("MORE_REQUIRED", .moreRequired)]

def customerMessageCodes : List (String × CustomerMessageCode) :=
  [("PHOTO_UNCLEAR", .photoUnclear), ("DAMAGED_ITEM_NOT_VISIBLE", .damagedItemNotVisible),
    ("ORDER_ITEM_NOT_IDENTIFIABLE", .orderItemNotIdentifiable)]

def attachmentKeys : List String := ["evidence_id", "display_label", "content_type", "byte_size",
  "width", "height", "uploaded_at", "technical_status", "rejection_code"]

def summaryKeys : List String := ["version", "requirement", "evidence_version", "assessment",
  "can_upload", "customer_message_code", "attachments"]

def safeInteger : Value → Option ℕ := readNatural 0 9007199254740991

def side : Value → Option ℕ := readNatural 1 65535

def attachmentSchema (formats : Formats) (value : Value) : Option Attachment := do
  let fields ← readStrict attachmentKeys value
  let attachment : Attachment := {
    evidenceId := ← JsonTree.required fields "evidence_id" (readText formats.uuid)
    displayLabel := ← JsonTree.required fields "display_label" (readText isDisplayLabel)
    contentType := ← JsonTree.optional fields "content_type" (readMember mediaTypes)
    byteSize := ← JsonTree.required fields "byte_size" safeInteger
    width := ← JsonTree.optional fields "width" side
    height := ← JsonTree.optional fields "height" side
    uploadedAt := ← JsonTree.required fields "uploaded_at" (readText formats.dateTime)
    technicalStatus := ← JsonTree.required fields "technical_status" (readMember technicalStatuses)
    rejectionCode := ← JsonTree.optional fields "rejection_code" (readMember rejectionCodes) }
  if attachment.consistent then some attachment else none

def refundEvidenceSummarySchema (formats : Formats) (value : Value) :
    Option RefundEvidenceSummary := do
  let fields ← readStrict summaryKeys value
  let _ ← JsonTree.required fields "version" (readMember [("v1", ())])
  let summary : RefundEvidenceSummary := {
    requirement := ← JsonTree.required fields "requirement" (readMember requirements)
    evidenceVersion := ← JsonTree.required fields "evidence_version" safeInteger
    assessment := ← JsonTree.required fields "assessment" (readMember assessments)
    canUpload := ← JsonTree.required fields "can_upload" JsonTree.bool?
    customerMessageCode := ← JsonTree.optional fields "customer_message_code"
      (readMember customerMessageCodes)
    attachments := ← JsonTree.required fields "attachments"
      (readArray (attachmentSchema formats) 5) }
  if summary.consistent then some summary else none

/-! The published schema. -/

def texts (names : List String) : List Value := names.map .str

/-- The keyword `properties` with one empty schema for each key. -/
def mentions (keys : List String) : Schema := properties (keys.map fun key => (key, allOf []))

/-- `properties`, `required` and `type` of a condition on one field. -/
def hasField (key : String) (expected : Value) : Schema :=
  allOf [properties [(key, const expected)], required [key], isObject]

/-- The same without a condition on its value. -/
def hasKey (key : String) : Schema := allOf [required [key], isObject, mentions [key]]

namespace Published

/-- Only a ready image has its metadata. -/
def readiness : Schema := ifThenElse (hasField "technical_status" (.str "READY"))
  (allOf [required ["content_type", "width", "height"],
    properties [("byte_size", allOf [minimum 1, isInteger]), ("content_type", allOf []),
      ("width", allOf []), ("height", allOf [])],
    isObject])
  (JS.JsonSchema.not (anyOf [hasKey "width", hasKey "height"]))

/-- Only a rejected image has a code. -/
def rejection : Schema := ifThenElse (hasField "technical_status" (.str "REJECTED"))
  (hasKey "rejection_code") (JS.JsonSchema.not (hasKey "rejection_code"))

def attachment (formats : Formats) : Schema := allOf [
  isObject,
  noAdditionalProperties ["evidence_id", "display_label", "content_type", "byte_size", "width",
    "height", "uploaded_at", "technical_status", "rejection_code"],
  required ["evidence_id", "display_label", "byte_size", "uploaded_at", "technical_status"],
  properties [
    ("evidence_id", allOf [isString, satisfies formats.uuid]),
    ("display_label", allOf [isString, satisfies isDisplayLabel]),
    ("content_type", enum (texts ["image/jpeg", "image/png"])),
    ("byte_size", allOf [isInteger, minimum 0, maximum 9007199254740991]),
    ("width", allOf [isInteger, minimum 1, maximum 65535]),
    ("height", allOf [isInteger, minimum 1, maximum 65535]),
    ("uploaded_at", allOf [isString, satisfies formats.dateTime]),
    ("technical_status", enum (texts ["PROCESSING", "READY", "REJECTED"])),
    ("rejection_code", enum (texts ["FILE_TOO_LARGE", "UNSUPPORTED_TYPE", "INVALID_IMAGE",
      "IMAGE_LIMIT_EXCEEDED", "UNSAFE_FILE", "VALIDATION_UNAVAILABLE"]))],
  allOf [readiness, rejection]]

def absentRequirement : Schema := ifThen (hasField "requirement" (.str "NONE"))
  (allOf [
    properties [("can_upload", const (.bool false)), ("evidence_version", const (.num (.finite 0))),
      ("assessment", const (.str "UNREVIEWED")), ("attachments", allOf [maxItems 0, isArray])],
    JS.JsonSchema.not (hasKey "customer_message_code"),
    isObject])

def initialRevision : Schema := ifThen (hasField "evidence_version" (.num (.finite 0)))
  (allOf [
    properties [("assessment", const (.str "UNREVIEWED")),
      ("attachments", allOf [maxItems 0, isArray])],
    isObject])

def acceptedSet : Schema := ifThen (hasField "assessment" (.str "ACCEPTED"))
  (allOf [
    properties [("requirement", const (.str "DAMAGE_PHOTO")),
      ("evidence_version", allOf [minimum 1, isInteger]), ("can_upload", const (.bool false)),
      ("attachments", allOf [minItems 1, items (hasField "technical_status" (.str "READY")),
        isArray])],
    isObject])

def customerReviewMessage : Schema := ifThenElse (hasField "assessment" (.str "MORE_REQUIRED"))
  (allOf [required ["customer_message_code"],
    properties [("evidence_version", allOf [minimum 1, isInteger]),
      ("customer_message_code", allOf [])],
    isObject])
  (JS.JsonSchema.not (hasKey "customer_message_code"))

/-- `RefundEvidenceSummaryV1`. -/
def refundEvidenceSummary (formats : Formats) : Schema := allOf [
  isObject,
  noAdditionalProperties ["version", "requirement", "evidence_version", "assessment", "can_upload",
    "customer_message_code", "attachments"],
  required ["version", "requirement", "evidence_version", "assessment", "can_upload",
    "attachments"],
  properties [
    ("version", const (.str "v1")),
    ("requirement", enum (texts ["DAMAGE_PHOTO", "NONE"])),
    ("evidence_version", allOf [isInteger, minimum 0, maximum 9007199254740991]),
    ("assessment", enum (texts ["UNREVIEWED", "ACCEPTED", "MORE_REQUIRED"])),
    ("can_upload", isBoolean),
    ("customer_message_code", enum (texts ["PHOTO_UNCLEAR", "DAMAGED_ITEM_NOT_VISIBLE",
      "ORDER_ITEM_NOT_IDENTIFIABLE"])),
    ("attachments", allOf [isArray, maxItems 5, uniqueItems, items (attachment formats)])],
  allOf [absentRequirement, initialRevision, acceptedSet, customerReviewMessage]]

end Published

/-! What a value stands for on both sides. -/

/-- The fields of an attachment, each by itself. -/
structure AttachmentFields (formats : Formats) (fields : List (String × Value)) (a : Attachment) :
    Prop where
  evidenceId : (Form.text formats.uuid).Required fields "evidence_id" a.evidenceId
  displayLabel : (Form.text isDisplayLabel).Required fields "display_label" a.displayLabel
  contentType : (Form.member mediaTypes).Optional fields "content_type" a.contentType
  byteSize : (Form.natural 0 9007199254740991).Required fields "byte_size" a.byteSize
  width : (Form.natural 1 65535).Optional fields "width" a.width
  height : (Form.natural 1 65535).Optional fields "height" a.height
  uploadedAt : (Form.text formats.dateTime).Required fields "uploaded_at" a.uploadedAt
  technicalStatus :
    (Form.member technicalStatuses).Required fields "technical_status" a.technicalStatus
  rejectionCode : (Form.member rejectionCodes).Optional fields "rejection_code" a.rejectionCode

def attachmentForm (formats : Formats) : Form Attachment := fun value a =>
  ∃ fields, value = .obj fields ∧ (∀ field ∈ fields, field.1 ∈ attachmentKeys) ∧
    AttachmentFields formats fields a ∧ a.consistent = true

variable {formats : Formats} {value : Value} {fields : List (String × Value)} {a : Attachment}

theorem strict_eq_some {keys : List String} : readStrict keys value = some fields ↔
    value = .obj fields ∧ ∀ field ∈ fields, field.1 ∈ keys := by
  unfold readStrict
  rw [Option.filter_eq_some_iff, JsonTree.fields?_eq_some, List.all_eq_true]
  simp only [decide_eq_true_eq]

theorem safeInteger_reads : (Form.natural 0 9007199254740991).Reads safeInteger :=
  JS.Form.natural_reads (le_refl _)

theorem side_reads : (Form.natural 1 65535).Reads side := JS.Form.natural_reads (by decide)

theorem attachment_reads (formats : Formats) :
    (attachmentForm formats).Reads (attachmentSchema formats) := by
  intro value a
  have hmedia : (Form.member mediaTypes).Reads (readMember mediaTypes) :=
    JS.Form.member_reads (by decide)
  have hstatus : (Form.member technicalStatuses).Reads (readMember technicalStatuses) :=
    JS.Form.member_reads (by decide)
  have hcode : (Form.member rejectionCodes).Reads (readMember rejectionCodes) :=
    JS.Form.member_reads (by decide)
  unfold attachmentSchema attachmentForm
  simp only [bind, Option.bind_eq_some_iff, strict_eq_some, (JS.Form.text_reads _).required,
    safeInteger_reads.required, side_reads.optional, hmedia.optional, hstatus.required,
    hcode.optional]
  constructor
  · rintro ⟨fields, ⟨rfl, hkeys⟩, evidenceId, h₁, displayLabel, h₂, contentType, h₃, byteSize, h₄,
      width, h₅, height, h₆, uploadedAt, h₇, technicalStatus, h₈, rejectionCode, h₉, h⟩
    split_ifs at h with hconsistent
    obtain rfl := Option.some.inj h
    exact ⟨fields, rfl, hkeys, ⟨h₁, h₂, h₃, h₄, h₅, h₆, h₇, h₈, h₉⟩, hconsistent⟩
  · rintro ⟨fields, rfl, hkeys, h, hconsistent⟩
    exact ⟨fields, ⟨rfl, hkeys⟩, _, h.evidenceId, _, h.displayLabel, _, h.contentType, _,
      h.byteSize, _, h.width, _, h.height, _, h.uploadedAt, _, h.technicalStatus, _,
      h.rejectionCode, if_pos hconsistent⟩

/-! The published side. -/

theorem hasField_required {α : Type} {form : Form α} {key : String} {expected : Value} {a b : α}
    [DecidableEq α] (h : form.Required fields key a)
    (hexpected : ∀ value, form value a → (value = expected ↔ a = b))
    (hequal : ∀ value, JsonTree.equal expected value = true ↔ value = expected) :
    hasField key expected (.obj fields) = decide (a = b) := by
  have hall : (List.lookup key fields).all (const expected) = decide (a = b) :=
    h.all (p := fun a => a = b) fun value hform => (hequal value).trans (hexpected value hform)
  simp [hasField, hall, h.isSome]

theorem hasKey_optional {α : Type} {form : Form α} {key : String} {a : Option α}
    (h : form.Optional fields key a) : hasKey key (.obj fields) = a.isSome := by
  simp [hasKey, mentions, h.isSome]

theorem hasField_status {status : TechnicalStatus} {name : String}
    (h : (Form.member technicalStatuses).Required fields "technical_status" a.technicalStatus)
    (hname : (name, status) ∈ technicalStatuses) :
    hasField "technical_status" (.str name) (.obj fields) = decide (a.technicalStatus = status) :=
  hasField_required h (fun _ hform => JS.Form.eq_str_of_member (by decide) (by decide) hname hform)
    fun _ => JsonTree.equal_str

theorem minimum_one {min max n : ℕ} {key : String}
    (h : (Form.natural min max).Required fields key n) :
    (List.lookup key fields).all (allOf [minimum 1, isInteger]) = decide (1 ≤ n) :=
  h.all fun value hform => by
    have hminimum := JS.Form.minimum_of_natural (m := 1) hform
    rwa [Nat.cast_one] at hminimum

theorem readiness_fields (h : AttachmentFields formats fields a) :
    Published.readiness (.obj fields) = if a.technicalStatus = .ready then
      a.contentType.isSome && a.width.isSome && a.height.isSome && decide (1 ≤ a.byteSize)
    else a.width.isNone && a.height.isNone := by
  have hsize := minimum_one h.byteSize
  unfold Published.readiness ifThenElse
  rw [hasField_status h.technicalStatus (by decide : ("READY", TechnicalStatus.ready) ∈ _)]
  by_cases hready : a.technicalStatus = .ready
  · simp [hready, h.contentType.isSome, h.width.isSome, h.height.isSome, hsize, Bool.and_assoc]
  · simp [hready, hasKey_optional h.width, hasKey_optional h.height]

theorem rejection_fields (h : AttachmentFields formats fields a) :
    Published.rejection (.obj fields) =
      (decide (a.technicalStatus = .rejected) == a.rejectionCode.isSome) := by
  unfold Published.rejection ifThenElse
  rw [hasField_status h.technicalStatus (by decide : ("REJECTED", TechnicalStatus.rejected) ∈ _)]
  by_cases hrejected : a.technicalStatus = .rejected <;>
    simp [hrejected, hasKey_optional h.rejectionCode]

theorem attachment_describes (formats : Formats) :
    (attachmentForm formats).Describes (Published.attachment formats) := by
  have htext : ∀ check : String → Bool, (Form.text check).Describes
    (allOf [isString, satisfies check]) := JS.Form.text_describes
  have hmedia : (Form.member mediaTypes).Describes (enum (texts ["image/jpeg", "image/png"])) :=
    JS.Form.member_describes mediaTypes
  have hstatus : (Form.member technicalStatuses).Describes
      (enum (texts ["PROCESSING", "READY", "REJECTED"])) :=
    JS.Form.member_describes technicalStatuses
  have hcode : (Form.member rejectionCodes).Describes (enum (texts ["FILE_TOO_LARGE",
      "UNSUPPORTED_TYPE", "INVALID_IMAGE", "IMAGE_LIMIT_EXCEEDED", "UNSAFE_FILE",
      "VALIDATION_UNAVAILABLE"])) := JS.Form.member_describes rejectionCodes
  have hsize : (Form.natural 0 9007199254740991).Describes
      (allOf [isInteger, minimum 0, maximum 9007199254740991]) := by
    have h := JS.Form.natural_describes 0 9007199254740991
    rwa [Nat.cast_zero] at h
  have hside : (Form.natural 1 65535).Describes
      (allOf [isInteger, minimum 1, maximum 65535]) := by
    have h := JS.Form.natural_describes 1 65535
    rwa [Nat.cast_one] at h
  intro value
  unfold Published.attachment
  rw [allOf_cons, Bool.and_eq_true, isObject_iff]
  constructor
  · rintro ⟨⟨fields, rfl⟩, h⟩
    simp only [allOf_cons, allOf_nil, required_cons, required_nil, properties_cons, properties_nil,
      Bool.and_true, Bool.and_eq_true, noAdditionalProperties_obj] at h
    obtain ⟨hkeys, ⟨s₁, s₂, s₃, s₄, s₅⟩, ⟨p₁, p₂, p₃, p₄, p₅, p₆, p₇, p₈, p₉⟩, hready, hrejected⟩ := h
    obtain ⟨evidenceId, h₁⟩ := (htext formats.uuid).required.mp ⟨s₁, p₁⟩
    obtain ⟨displayLabel, h₂⟩ := (htext isDisplayLabel).required.mp ⟨s₂, p₂⟩
    obtain ⟨contentType, h₃⟩ := hmedia.optional.mp p₃
    obtain ⟨byteSize, h₄⟩ := hsize.required.mp ⟨s₃, p₄⟩
    obtain ⟨width, h₅⟩ := hside.optional.mp p₅
    obtain ⟨height, h₆⟩ := hside.optional.mp p₆
    obtain ⟨uploadedAt, h₇⟩ := (htext formats.dateTime).required.mp ⟨s₄, p₇⟩
    obtain ⟨technicalStatus, h₈⟩ := hstatus.required.mp ⟨s₅, p₈⟩
    obtain ⟨rejectionCode, h₉⟩ := hcode.optional.mp p₉
    have hfields : AttachmentFields formats fields ⟨evidenceId, displayLabel, contentType,
      byteSize, width, height, uploadedAt, technicalStatus, rejectionCode⟩ :=
      ⟨h₁, h₂, h₃, h₄, h₅, h₆, h₇, h₈, h₉⟩
    refine ⟨_, fields, rfl, hkeys, hfields, ?_⟩
    rw [readiness_fields hfields] at hready
    rw [rejection_fields hfields] at hrejected
    unfold Attachment.consistent
    rw [hready, hrejected]
    rfl
  · rintro ⟨a, fields, rfl, hkeys, hfields, hconsistent⟩
    refine ⟨⟨fields, rfl⟩, ?_⟩
    unfold Attachment.consistent at hconsistent
    rw [← readiness_fields hfields, ← rejection_fields hfields, Bool.and_eq_true] at hconsistent
    simp only [allOf_cons, allOf_nil, required_cons, required_nil, properties_cons, properties_nil,
      Bool.and_true, Bool.and_eq_true, noAdditionalProperties_obj]
    have h₁ := (htext formats.uuid).required.mpr ⟨_, hfields.evidenceId⟩
    have h₂ := (htext isDisplayLabel).required.mpr ⟨_, hfields.displayLabel⟩
    have h₄ := hsize.required.mpr ⟨_, hfields.byteSize⟩
    have h₇ := (htext formats.dateTime).required.mpr ⟨_, hfields.uploadedAt⟩
    have h₈ := hstatus.required.mpr ⟨_, hfields.technicalStatus⟩
    exact ⟨hkeys, ⟨h₁.1, h₂.1, h₄.1, h₇.1, h₈.1⟩,
      ⟨h₁.2, h₂.2, hmedia.optional.mpr ⟨_, hfields.contentType⟩, h₄.2,
        hside.optional.mpr ⟨_, hfields.width⟩, hside.optional.mpr ⟨_, hfields.height⟩, h₇.2, h₈.2,
        hcode.optional.mpr ⟨_, hfields.rejectionCode⟩⟩, hconsistent⟩

/-! The summary. -/

structure SummaryFields (formats : Formats) (fields : List (String × Value))
    (s : RefundEvidenceSummary) : Prop where
  version : (Form.member [("v1", ())]).Required fields "version" ()
  requirement : (Form.member requirements).Required fields "requirement" s.requirement
  evidenceVersion :
    (Form.natural 0 9007199254740991).Required fields "evidence_version" s.evidenceVersion
  assessment : (Form.member assessments).Required fields "assessment" s.assessment
  canUpload : Form.flag.Required fields "can_upload" s.canUpload
  customerMessageCode : (Form.member customerMessageCodes).Optional fields "customer_message_code"
    s.customerMessageCode
  attachments : ((attachmentForm formats).array 5).Required fields "attachments" s.attachments

def summaryForm (formats : Formats) : Form RefundEvidenceSummary := fun value s =>
  ∃ fields, value = .obj fields ∧ (∀ field ∈ fields, field.1 ∈ summaryKeys) ∧
    SummaryFields formats fields s ∧ s.consistent = true

theorem summary_reads (formats : Formats) :
    (summaryForm formats).Reads (refundEvidenceSummarySchema formats) := by
  intro value s
  have hversion : (Form.member [("v1", ())]).Reads (readMember [("v1", ())]) :=
    JS.Form.member_reads (by decide)
  have hrequirement : (Form.member requirements).Reads (readMember requirements) :=
    JS.Form.member_reads (by decide)
  have hassessment : (Form.member assessments).Reads (readMember assessments) :=
    JS.Form.member_reads (by decide)
  have hcode : (Form.member customerMessageCodes).Reads (readMember customerMessageCodes) :=
    JS.Form.member_reads (by decide)
  have hattachments := JS.Form.array_reads (attachment_reads formats) 5
  unfold refundEvidenceSummarySchema summaryForm
  simp only [bind, Option.bind_eq_some_iff, strict_eq_some, hversion.required,
    hrequirement.required, safeInteger_reads.required, hassessment.required,
    JS.Form.flag_reads.required, hcode.optional, hattachments.required]
  constructor
  · rintro ⟨fields, ⟨rfl, hkeys⟩, ⟨⟩, h₁, requirement, h₂, evidenceVersion, h₃, assessment, h₄,
      canUpload, h₅, customerMessageCode, h₆, attachments, h₇, h⟩
    split_ifs at h with hconsistent
    obtain rfl := Option.some.inj h
    exact ⟨fields, rfl, hkeys, ⟨h₁, h₂, h₃, h₄, h₅, h₆, h₇⟩, hconsistent⟩
  · rintro ⟨fields, rfl, hkeys, h, hconsistent⟩
    exact ⟨fields, ⟨rfl, hkeys⟩, _, h.version, _, h.requirement, _, h.evidenceVersion, _,
      h.assessment, _, h.canUpload, _, h.customerMessageCode, _, h.attachments,
      if_pos hconsistent⟩

variable {s : RefundEvidenceSummary}

theorem hasField_member {α : Type} [DecidableEq α] {members : List (String × α)} {key name : String}
    {a b : α} (h : (Form.member members).Required fields key a)
    (hkeys : (members.map Prod.fst).Nodup) (hvalues : (members.map Prod.snd).Nodup)
    (hname : (name, b) ∈ members) : hasField key (.str name) (.obj fields) = decide (a = b) :=
  hasField_required h (fun _ hform => JS.Form.eq_str_of_member hkeys hvalues hname hform)
    fun _ => JsonTree.equal_str

theorem const_member {α : Type} [DecidableEq α] {members : List (String × α)} {key name : String}
    {a b : α} (h : (Form.member members).Required fields key a)
    (hkeys : (members.map Prod.fst).Nodup) (hvalues : (members.map Prod.snd).Nodup)
    (hname : (name, b) ∈ members) :
    (List.lookup key fields).all (const (.str name)) = decide (a = b) :=
  h.all (p := fun a => a = b) fun _ hform =>
    JsonTree.equal_str.trans (JS.Form.eq_str_of_member hkeys hvalues hname hform)

theorem const_zero {min max n : ℕ} {key : String}
    (h : (Form.natural min max).Required fields key n) :
    (List.lookup key fields).all (const (.num (.finite 0))) = decide (n = 0) :=
  h.all (p := fun n => n = 0) fun _ hform =>
    JsonTree.equal_num.trans (by
      have hzero := JS.Form.eq_num_of_natural (m := 0) hform
      rwa [Nat.cast_zero] at hzero)

theorem const_false {b : Bool} {key : String} (h : Form.flag.Required fields key b) :
    (List.lookup key fields).all (const (.bool false)) = decide (b = false) :=
  h.all (p := fun b => b = false) fun value hform => by
    obtain rfl : value = .bool b := hform
    exact JsonTree.equal_bool.trans (by simp)

theorem attachments_empty
    (h : ((attachmentForm formats).array 5).Required fields "attachments" s.attachments) :
    (List.lookup "attachments" fields).all (allOf [maxItems 0, isArray]) =
      decide (s.attachments = []) :=
  h.all (p := fun values => values = []) fun value hform => by
    obtain ⟨values, rfl, hforall, -⟩ := hform
    simp [maxItems, isArray, hforall.length_eq]

theorem ready_item (h : attachmentForm formats value a) :
    hasField "technical_status" (.str "READY") value = decide (a.technicalStatus = .ready) := by
  obtain ⟨fields, rfl, -, hfields, -⟩ := h
  exact hasField_status hfields.technicalStatus (by decide)

theorem attachments_ready
    (h : ((attachmentForm formats).array 5).Required fields "attachments" s.attachments) :
    (List.lookup "attachments" fields).all (allOf [minItems 1,
        items (hasField "technical_status" (.str "READY")), isArray]) =
      decide (s.attachments ≠ [] ∧ ∀ a ∈ s.attachments, a.technicalStatus = .ready) :=
  h.all (p := fun values => values ≠ [] ∧ ∀ a ∈ values, a.technicalStatus = .ready)
    fun value hform => by
      obtain ⟨values, rfl, hforall, -⟩ := hform
      have hitems : values.all (hasField "technical_status" (.str "READY")) = true ↔
          ∀ a ∈ s.attachments, a.technicalStatus = .ready := by
        clear h
        generalize s.attachments = as at hforall
        induction hforall with
        | nil => simp
        | cons hitem hrest ih => simp [ready_item hitem, ih]
      have hlength : 1 ≤ values.length ↔ s.attachments ≠ [] := by
        rw [hforall.length_eq, Nat.one_le_iff_ne_zero, ne_eq, List.length_eq_zero_iff]
      simp [minItems, isArray, items, hitems, hlength]

theorem absentRequirement_fields (h : SummaryFields formats fields s) :
    Published.absentRequirement (.obj fields) = !s.invalidAbsentRequirement := by
  have hassessment := const_member h.assessment (by decide) (by decide)
    (by decide : ("UNREVIEWED", Assessment.unreviewed) ∈ _)
  unfold Published.absentRequirement ifThen ifThenElse
  rw [hasField_member h.requirement (by decide) (by decide)
    (by decide : ("NONE", Requirement.none) ∈ _)]
  unfold RefundEvidenceSummary.invalidAbsentRequirement
  by_cases hnone : s.requirement = .none
  · simp [hnone, const_false h.canUpload, const_zero h.evidenceVersion, hassessment,
      attachments_empty h.attachments, hasKey_optional h.customerMessageCode, Bool.and_assoc]
  · simp [hnone]

theorem initialRevision_fields (h : SummaryFields formats fields s) :
    Published.initialRevision (.obj fields) = !s.invalidInitialRevision := by
  have hassessment := const_member h.assessment (by decide) (by decide)
    (by decide : ("UNREVIEWED", Assessment.unreviewed) ∈ _)
  have hzero : hasField "evidence_version" (.num (.finite 0)) (.obj fields) =
      decide (s.evidenceVersion = 0) := by
    simp [hasField, const_zero h.evidenceVersion, h.evidenceVersion.isSome]
  unfold Published.initialRevision ifThen ifThenElse
  rw [hzero]
  unfold RefundEvidenceSummary.invalidInitialRevision
  by_cases hinitial : s.evidenceVersion = 0
  · simp [hinitial, hassessment, attachments_empty h.attachments]
  · simp [hinitial]

theorem one_le (n : ℕ) : decide (1 ≤ n) = !decide (n = 0) := by
  rw [Bool.eq_iff_iff]
  simp [Nat.one_le_iff_ne_zero]

theorem acceptedSet_fields (h : SummaryFields formats fields s) :
    Published.acceptedSet (.obj fields) = !s.invalidAcceptedSet := by
  have hrequirement := const_member h.requirement (by decide) (by decide)
    (by decide : ("DAMAGE_PHOTO", Requirement.damagePhoto) ∈ _)
  have hready : decide (∀ item ∈ s.attachments, item.technicalStatus = .ready) =
      !s.attachments.any fun item => !decide (item.technicalStatus = .ready) := by
    rw [Bool.eq_iff_iff]
    simp
  unfold Published.acceptedSet ifThen ifThenElse
  rw [hasField_member h.assessment (by decide) (by decide)
    (by decide : ("ACCEPTED", Assessment.accepted) ∈ _)]
  unfold RefundEvidenceSummary.invalidAcceptedSet
  by_cases haccepted : s.assessment = .accepted
  · simp [haccepted, hrequirement, minimum_one h.evidenceVersion, const_false h.canUpload,
      attachments_ready h.attachments, one_le, hready, Bool.and_assoc]
  · simp [haccepted]

theorem customerReviewMessage_fields (h : SummaryFields formats fields s) :
    Published.customerReviewMessage (.obj fields) = !s.invalidCustomerReviewMessage := by
  unfold Published.customerReviewMessage ifThenElse
  rw [hasField_member h.assessment (by decide) (by decide)
    (by decide : ("MORE_REQUIRED", Assessment.moreRequired) ∈ _)]
  unfold RefundEvidenceSummary.invalidCustomerReviewMessage
  by_cases hmore : s.assessment = .moreRequired
  · simp [hmore, h.customerMessageCode.isSome, minimum_one h.evidenceVersion, one_le]
  · simp [hmore, hasKey_optional h.customerMessageCode]

/-! The two sides. -/

def evidenceId? (item : Value) : Option String :=
  (item.fields?.bind (List.lookup "evidence_id")).bind JsonTree.string?

/-- The evidence ids of the attachments of a summary. -/
def evidenceIds (value : Value) : List String :=
  match (value.fields?.bind (List.lookup "attachments")).bind JsonTree.items? with
  | some items => items.filterMap evidenceId?
  | none => []

theorem evidenceId_form (h : attachmentForm formats value a) :
    evidenceId? value = some a.evidenceId := by
  obtain ⟨fields, rfl, -, hfields, -⟩ := h
  obtain ⟨value, hlookup, rfl, -⟩ := hfields.evidenceId
  unfold evidenceId?
  rw [JsonTree.fields?, Option.bind_some, hlookup]
  rfl

theorem filterMap_evidenceId {values : List Value} {as : List Attachment}
    (h : List.Forall₂ (attachmentForm formats) values as) :
    values.filterMap evidenceId? = as.map Attachment.evidenceId := by
  induction h with
  | nil => rfl
  | cons hitem hrest ih => rw [List.filterMap_cons, evidenceId_form hitem, ih, List.map_cons]

theorem evidenceIds_eq (h : SummaryFields formats fields s) :
    evidenceIds (.obj fields) = s.attachments.map Attachment.evidenceId := by
  obtain ⟨value, hlookup, items, rfl, hforall, -⟩ := h.attachments
  unfold evidenceIds
  rw [JsonTree.fields?, Option.bind_some, hlookup, Option.bind_some]
  exact filterMap_evidenceId hforall

/-- Attachments with ids of their own are different values. -/
theorem not_equal_of_ids {item other : Value} {b : Attachment}
    (h : attachmentForm formats item a) (h' : attachmentForm formats other b)
    (hne : a.evidenceId ≠ b.evidenceId) : ¬JsonTree.equal item other = true := by
  intro hequal
  obtain ⟨fields, rfl, -, hfields, -⟩ := h
  obtain ⟨others, rfl, -, hothers, -⟩ := h'
  obtain ⟨value, hlookup, rfl, -⟩ := hfields.evidenceId
  obtain ⟨value', hlookup', rfl, -⟩ := hothers.evidenceId
  obtain ⟨like, hlike, hsame⟩ := JsonTree.equal_lookup hequal hlookup
  obtain rfl := Option.some.inj (hlookup'.symm.trans hlike)
  have hid := JsonTree.equal_str.mp hsame
  exact hne (JsonTree.str.inj hid).symm

theorem uniqueItems_of_ids {values : List Value} {as : List Attachment}
    (h : List.Forall₂ (attachmentForm formats) values as)
    (hnodup : (as.map Attachment.evidenceId).Nodup) : uniqueItems (.arr values) = true := by
  unfold uniqueItems
  rw [decide_eq_true_iff]
  induction h with
  | nil => exact List.Pairwise.nil
  | cons hitem hrest ih =>
    obtain ⟨hfirst, hnodup⟩ := List.nodup_cons.mp hnodup
    refine List.pairwise_cons.mpr ⟨fun other hother => ?_, ih hnodup⟩
    obtain ⟨b, hb, hform⟩ := JS.Form.exists_of_forall₂ hrest hother
    exact not_equal_of_ids hitem hform fun heq => hfirst (heq ▸ List.mem_map_of_mem hb)

/-- A summary without the check of the ids: the published schema says all the rest. -/
theorem published_iff (value : Value) :
    Published.refundEvidenceSummary formats value = true ↔ ∃ fields s, value = .obj fields ∧
      (∀ field ∈ fields, field.1 ∈ summaryKeys) ∧ SummaryFields formats fields s ∧
      (List.lookup "attachments" fields).all uniqueItems = true ∧
      s.invalidAbsentRequirement = false ∧ s.invalidInitialRevision = false ∧
      s.invalidAcceptedSet = false ∧ s.invalidCustomerReviewMessage = false := by
  have hversion : (Form.member [("v1", ())]).Describes (const (.str "v1")) := by
    have h := JS.Form.member_describes [("v1", ())]
    intro value
    rw [← h value]
    simp [enum, const]
  have hrequirement : (Form.member requirements).Describes
      (enum (texts ["DAMAGE_PHOTO", "NONE"])) := JS.Form.member_describes requirements
  have hassessment : (Form.member assessments).Describes
      (enum (texts ["UNREVIEWED", "ACCEPTED", "MORE_REQUIRED"])) :=
    JS.Form.member_describes assessments
  have hcode : (Form.member customerMessageCodes).Describes (enum (texts ["PHOTO_UNCLEAR",
      "DAMAGED_ITEM_NOT_VISIBLE", "ORDER_ITEM_NOT_IDENTIFIABLE"])) :=
    JS.Form.member_describes customerMessageCodes
  have hsize : (Form.natural 0 9007199254740991).Describes
      (allOf [isInteger, minimum 0, maximum 9007199254740991]) := by
    have h := JS.Form.natural_describes 0 9007199254740991
    rwa [Nat.cast_zero] at h
  have hflag := JS.Form.flag_describes
  have hattachments := JS.Form.array_describes (attachment_describes formats) 5
  have hsplit : ∀ field : Option Value,
      field.all (allOf [isArray, maxItems 5, uniqueItems, items (Published.attachment formats)]) =
        (field.all (allOf [isArray, maxItems 5, items (Published.attachment formats)]) &&
          field.all uniqueItems) := by
    intro field
    cases field with
    | none => rfl
    | some value =>
      simp only [Option.all_some, allOf_cons, allOf_nil, Bool.and_true]
      grind
  unfold Published.refundEvidenceSummary
  rw [allOf_cons, Bool.and_eq_true, isObject_iff]
  constructor
  · rintro ⟨⟨fields, rfl⟩, h⟩
    rw [allOf_cons, allOf_cons, allOf_cons, properties_cons, properties_cons, properties_cons,
      properties_cons, properties_cons, properties_cons, properties_cons, hsplit] at h
    simp only [allOf_cons, allOf_nil, required_cons, required_nil, properties_nil,
      Bool.and_true, Bool.and_eq_true, noAdditionalProperties_obj] at h
    obtain ⟨hkeys, ⟨s₁, s₂, s₃, s₄, s₅, s₆⟩, ⟨p₁, p₂, p₃, p₄, p₅, p₆, p₇, hunique⟩,
      c₁, c₂, c₃, c₄⟩ := h
    obtain ⟨⟨⟩, h₁⟩ := hversion.required.mp ⟨s₁, p₁⟩
    obtain ⟨requirement, h₂⟩ := hrequirement.required.mp ⟨s₂, p₂⟩
    obtain ⟨evidenceVersion, h₃⟩ := hsize.required.mp ⟨s₃, p₃⟩
    obtain ⟨assessment, h₄⟩ := hassessment.required.mp ⟨s₄, p₄⟩
    obtain ⟨canUpload, h₅⟩ := hflag.required.mp ⟨s₅, p₅⟩
    obtain ⟨customerMessageCode, h₆⟩ := hcode.optional.mp p₆
    obtain ⟨attachments, h₇⟩ := hattachments.required.mp ⟨s₆, p₇⟩
    have hfields : SummaryFields formats fields ⟨requirement, evidenceVersion, assessment,
      canUpload, customerMessageCode, attachments⟩ := ⟨h₁, h₂, h₃, h₄, h₅, h₆, h₇⟩
    rw [absentRequirement_fields hfields, Bool.not_eq_true'] at c₁
    rw [initialRevision_fields hfields, Bool.not_eq_true'] at c₂
    rw [acceptedSet_fields hfields, Bool.not_eq_true'] at c₃
    rw [customerReviewMessage_fields hfields, Bool.not_eq_true'] at c₄
    exact ⟨fields, _, rfl, hkeys, hfields, hunique, c₁, c₂, c₃, c₄⟩
  · rintro ⟨fields, s, rfl, hkeys, hfields, hunique, c₁, c₂, c₃, c₄⟩
    refine ⟨⟨fields, rfl⟩, ?_⟩
    rw [← Bool.not_eq_true', ← absentRequirement_fields hfields] at c₁
    rw [← Bool.not_eq_true', ← initialRevision_fields hfields] at c₂
    rw [← Bool.not_eq_true', ← acceptedSet_fields hfields] at c₃
    rw [← Bool.not_eq_true', ← customerReviewMessage_fields hfields] at c₄
    have h₁ := hversion.required.mpr ⟨_, hfields.version⟩
    have h₂ := hrequirement.required.mpr ⟨_, hfields.requirement⟩
    have h₃ := hsize.required.mpr ⟨_, hfields.evidenceVersion⟩
    have h₄ := hassessment.required.mpr ⟨_, hfields.assessment⟩
    have h₅ := hflag.required.mpr ⟨_, hfields.canUpload⟩
    have h₇ := hattachments.required.mpr ⟨_, hfields.attachments⟩
    rw [allOf_cons, allOf_cons, allOf_cons, properties_cons, properties_cons, properties_cons,
      properties_cons, properties_cons, properties_cons, properties_cons, hsplit]
    simp only [allOf_cons, allOf_nil, required_cons, required_nil, properties_nil,
      Bool.and_true, Bool.and_eq_true, noAdditionalProperties_obj]
    exact ⟨hkeys, ⟨h₁.1, h₂.1, h₃.1, h₄.1, h₅.1, h₇.1⟩, ⟨h₁.2, h₂.2, h₃.2, h₄.2, h₅.2,
      hcode.optional.mpr ⟨_, hfields.customerMessageCode⟩, h₇.2, hunique⟩, c₁, c₂, c₃, c₄⟩

/-- The edge accepts a value if and only if the published schema does and no two attachments share
an evidence id. -/
theorem edge_is_published (formats : Formats) (value : Value) :
    (refundEvidenceSummarySchema formats value).isSome = true ↔
      Published.refundEvidenceSummary formats value = true ∧ (evidenceIds value).Nodup := by
  rw [Option.isSome_iff_exists, published_iff]
  constructor
  · rintro ⟨s, hs⟩
    obtain ⟨fields, rfl, hkeys, hfields, hconsistent⟩ := (summary_reads formats value s).mp hs
    unfold RefundEvidenceSummary.consistent at hconsistent
    simp only [Bool.and_eq_true, Bool.not_eq_true', decide_eq_true_eq] at hconsistent
    obtain ⟨⟨⟨⟨hnodup, c₁⟩, c₂⟩, c₃⟩, c₄⟩ := hconsistent
    refine ⟨⟨fields, s, rfl, hkeys, hfields, ?_, c₁, c₂, c₃, c₄⟩, evidenceIds_eq hfields ▸ hnodup⟩
    obtain ⟨_, hlookup, items, rfl, hforall, -⟩ := hfields.attachments
    rw [hlookup, Option.all_some]
    exact uniqueItems_of_ids hforall hnodup
  · rintro ⟨⟨fields, s, rfl, hkeys, hfields, -, c₁, c₂, c₃, c₄⟩, hnodup⟩
    rw [evidenceIds_eq hfields] at hnodup
    refine ⟨s, (summary_reads formats _ s).mpr ⟨fields, rfl, hkeys, hfields, ?_⟩⟩
    unfold RefundEvidenceSummary.consistent
    simp [hnodup, c₁, c₂, c₃, c₄]

/-! The reader of the evidence client on the same values. -/

section Client

mutual

/-- A JSON value with integers only, among all values. -/
def ofJson : Json → Value
  | .null => .null
  | .bool b => .bool b
  | .num n => .num (.finite n)
  | .str s => .str s
  | .arr items => .arr (ofItems items)
  | .obj fields => .obj (ofFields fields)

def ofItems : List Json → List Value
  | [] => []
  | item :: items => ofJson item :: ofItems items

def ofFields : List (String × Json) → List (String × Value)
  | [] => []
  | (key, json) :: fields => (key, ofJson json) :: ofFields fields

end

variable {json : Json} {fields : List (String × Json)} {α : Type}

theorem lookup_ofFields (key : String) (fields : List (String × Json)) :
    List.lookup key (ofFields fields) = (List.lookup key fields).map ofJson := by
  induction fields with
  | nil => rfl
  | cons field fields ih =>
    obtain ⟨k, json⟩ := field
    rw [ofFields, List.lookup_cons, List.lookup_cons]
    split
    · rfl
    · exact ih

theorem required_ofFields {read : Value → Option α} {reader : Reader α} (key : String)
    (h : ∀ json, read (ofJson json) = reader json) :
    JsonTree.required (ofFields fields) key read = JS.Fields.required fields key reader := by
  rw [JsonTree.required, JS.Fields.required, lookup_ofFields]
  cases List.lookup key fields with
  | none => rfl
  | some json => exact h json

theorem optional_ofFields {read : Value → Option α} {reader : Reader α} (key : String)
    (h : ∀ json, read (ofJson json) = reader json) :
    JsonTree.optional (ofFields fields) key read = JS.Fields.optional fields key reader := by
  rw [JsonTree.optional, JS.Fields.optional, lookup_ofFields]
  cases List.lookup key fields with
  | none => rfl
  | some json => exact congrArg (Option.map some) (h json)

theorem readText_ofJson (check : String → Bool) (json : Json) :
    readText check (ofJson json) = Reader.refine .text check json := by
  cases json <;> simp [readText, ofJson, JsonTree.string?, Reader.refine, Reader.text, Option.filter]

theorem safeInteger_eq_some {n : ℕ} :
    Reader.safeInteger json = some n ↔ json = .num n ∧ n ≤ JS.maxSafeInteger := by
  constructor
  · intro h
    cases json with
    | num z =>
      unfold Reader.safeInteger at h
      dsimp only at h
      split_ifs at h with hrange
      obtain rfl := Option.some.inj h
      exact ⟨congrArg Json.num (Int.toNat_of_nonneg hrange.1).symm, hrange.2⟩
    | null => cases h
    | bool b => cases h
    | str s => cases h
    | arr items => cases h
    | obj fields => cases h
  · rintro ⟨rfl, hmax⟩
    exact Reader.safeInteger_num hmax

theorem ofJson_eq_num {n : ℕ} : ofJson json = .num (.finite n) ↔ json = .num n := by
  cases json with
  | num z =>
    simp only [ofJson, JsonTree.num.injEq, JS.Number.finite.injEq, Json.num.injEq]
    exact ⟨fun h => by exact_mod_cast h, fun h => by exact_mod_cast h⟩
  | null => simp [ofJson]
  | bool b => simp [ofJson]
  | str s => simp [ofJson]
  | arr items => simp [ofJson]
  | obj fields => simp [ofJson]

theorem readNatural_ofJson {min max : ℕ} (hmax : max ≤ JS.maxSafeInteger) (json : Json) :
    readNatural min max (ofJson json) =
      Reader.refine .safeInteger (fun n => min ≤ n && n ≤ max) json := by
  ext n
  rw [JS.Form.natural_reads hmax, JS.Form.natural, ofJson_eq_num, Reader.refine,
    Option.filter_eq_some_iff, safeInteger_eq_some, Bool.and_eq_true, decide_eq_true_iff,
    decide_eq_true_iff]
  constructor
  · intro h
    exact ⟨⟨h.1, h.2.2.trans hmax⟩, h.2⟩
  · intro h
    exact ⟨h.1.1, h.2⟩

theorem safeInteger_ofJson (json : Json) : safeInteger (ofJson json) = Reader.safeInteger json := by
  ext n
  rw [safeInteger_reads, JS.Form.natural, ofJson_eq_num, safeInteger_eq_some]
  constructor
  · intro h
    exact ⟨h.1, h.2.2⟩
  · intro h
    exact ⟨h.1, Nat.zero_le n, h.2⟩

theorem readMember_ofJson (members : List (String × α)) (json : Json) :
    readMember members (ofJson json) = Reader.member members json := by
  cases json <;> rfl

theorem readArray_ofJson {read : Value → Option α} {reader : Reader α} (max : ℕ)
    (h : ∀ json, read (ofJson json) = reader json) (json : Json) :
    readArray read max (ofJson json) =
      Reader.refine (.array reader) (fun items => items.length ≤ max) json := by
  have hitems : ∀ items, (ofItems items).mapM read = items.mapM reader := by
    intro items
    induction items with
    | nil => rfl
    | cons item items ih => rw [ofItems, List.mapM_cons, List.mapM_cons, h item, ih]
  cases json with
  | arr items => exact congrArg (Option.filter _) (hitems items)
  | null => rfl
  | bool b => rfl
  | num z => rfl
  | str s => rfl
  | obj fields => rfl

theorem readStrict_ofJson (keys : List String) (json : Json) :
    readStrict keys (ofJson json) = (Reader.strict keys json).map ofFields := by
  have hkeys : ∀ fields : List (String × Json), ((ofFields fields).all fun field => field.1 ∈ keys) =
      fields.all fun field => field.1 ∈ keys := by
    intro fields
    induction fields with
    | nil => rfl
    | cons field fields ih =>
      obtain ⟨key, json⟩ := field
      rw [ofFields, List.all_cons, List.all_cons, ih]
  cases json with
  | obj fields =>
    unfold readStrict Reader.strict
    dsimp only
    rw [ofJson, JsonTree.fields?, Option.filter_some, hkeys]
    split_ifs <;> rfl
  | null => rfl
  | bool b => rfl
  | num z => rfl
  | str s => rfl
  | arr items => rfl

/-- The formats that zod has. -/
def zodFormats : Formats := ⟨JS.isUuid, JS.Date.isDateTime⟩

theorem refine_eq_some {reader : Reader α} {check : α → Bool} {a : α} :
    Reader.refine reader check json = some a ↔ reader json = some a ∧ check a = true :=
  Option.filter_eq_some_iff

theorem attachmentSchema_ofJson (json : Json) :
    attachmentSchema zodFormats (ofJson json) = Edge.attachmentSchema json := by
  have hside : ∀ json, side (ofJson json) = Edge.side json := readNatural_ofJson (by decide)
  ext a
  rw [Edge.attachmentSchema, refine_eq_some]
  unfold attachmentSchema
  simp only [bind, Option.bind_eq_some_iff, readStrict_ofJson, Option.map_eq_some_iff,
    exists_exists_and_eq_and, required_ofFields _ (readText_ofJson _),
    required_ofFields _ safeInteger_ofJson, optional_ofFields _ hside,
    required_ofFields _ (readMember_ofJson _), optional_ofFields _ (readMember_ofJson _)]
  constructor
  · rintro ⟨fields, hkeys, _, h₁, _, h₂, _, h₃, _, h₄, _, h₅, _, h₆, _, h₇, _, h₈, _, h₉, h⟩
    split_ifs at h with hconsistent
    obtain rfl := Option.some.inj h
    exact ⟨⟨fields, hkeys, _, h₁, _, h₂, _, h₃, _, h₄, _, h₅, _, h₆, _, h₇, _, h₈, _, h₉, rfl⟩,
      hconsistent⟩
  · rintro ⟨⟨fields, hkeys, _, h₁, _, h₂, _, h₃, _, h₄, _, h₅, _, h₆, _, h₇, _, h₈, _, h₉, h⟩,
      hconsistent⟩
    obtain rfl := Option.some.inj h
    exact ⟨fields, hkeys, _, h₁, _, h₂, _, h₃, _, h₄, _, h₅, _, h₆, _, h₇, _, h₈, _, h₉,
      if_pos hconsistent⟩

/-- On values with integers only, this is the reader that the evidence client has. -/
theorem refundEvidenceSummarySchema_ofJson (json : Json) :
    refundEvidenceSummarySchema zodFormats (ofJson json) = Edge.refundEvidenceSummarySchema json := by
  have hflag : ∀ json, (ofJson json).bool? = Reader.bool json := by
    intro json
    cases json <;> rfl
  ext s
  rw [Edge.refundEvidenceSummarySchema, refine_eq_some]
  unfold refundEvidenceSummarySchema
  simp only [bind, Option.bind_eq_some_iff, readStrict_ofJson, Option.map_eq_some_iff,
    exists_exists_and_eq_and, required_ofFields _ safeInteger_ofJson, required_ofFields _ hflag,
    required_ofFields _ (readMember_ofJson _), optional_ofFields _ (readMember_ofJson _),
    required_ofFields _ (readArray_ofJson 5 attachmentSchema_ofJson)]
  constructor
  · rintro ⟨fields, hkeys, _, h₁, _, h₂, _, h₃, _, h₄, _, h₅, _, h₆, _, h₇, h⟩
    split_ifs at h with hconsistent
    obtain rfl := Option.some.inj h
    exact ⟨⟨fields, hkeys, _, h₁, _, h₂, _, h₃, _, h₄, _, h₅, _, h₆, _, h₇, rfl⟩, hconsistent⟩
  · rintro ⟨⟨fields, hkeys, _, h₁, _, h₂, _, h₃, _, h₄, _, h₅, _, h₆, _, h₇, h⟩, hconsistent⟩
    obtain rfl := Option.some.inj h
    exact ⟨fields, hkeys, _, h₁, _, h₂, _, h₃, _, h₄, _, h₅, _, h₆, _, h₇, if_pos hconsistent⟩

end Client

end CSO.Edge.Contract
