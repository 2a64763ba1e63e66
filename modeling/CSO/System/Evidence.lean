import CSO.Edge.EvidenceClient
import CSO.HumanOperations.Frozen
import CSO.HumanOperations.Snapshot
import CSO.Workers.EvidenceClient

/-! The snapshots that Human Operations reports, as the edge and the worker read them. -/
namespace CSO.System
open HumanOperations (EvidencePhoto EvidenceRecord EvidenceDocument EvidenceSnapshot
  EvidenceSummary StoredPhoto Scope Database evidenceSnapshot evidenceSummary summaryPhotos)
open JS (Reader Fields)

/-! Photos of a summary. -/

theorem mem_summaryPhotos {photos : List StoredPhoto} {photo : EvidencePhoto}
    (h : photo ∈ summaryPhotos photos) : ∃ stored ∈ photos, ∃ i < photos.length,
      photo = { stored.toEvidencePhoto with
        displayLabel := "Photo " ++ toString (i + 1)
        height := if stored.width.isNone then none else stored.height } := by
  obtain ⟨⟨stored, i⟩, hmem, rfl⟩ := List.mem_map.mp h
  obtain ⟨-, hi, hstored⟩ := List.mem_zipIdx hmem
  refine ⟨stored, ?_, i, by omega, rfl⟩
  rw [hstored]
  exact List.getElem_mem _

theorem map_summaryPhotos {α : Type} {f : EvidencePhoto → α} {g : StoredPhoto → α}
    (h : ∀ stored : StoredPhoto, ∀ label height,
      f { stored.toEvidencePhoto with displayLabel := label, height } = g stored)
    (photos : List StoredPhoto) : (summaryPhotos photos).map f = photos.map g := by
  rw [summaryPhotos, List.map_map]
  conv_rhs => rw [← List.zipIdx_map_fst 0 photos, List.map_map]
  apply List.map_congr_left
  rintro ⟨stored, i⟩ -
  exact h stored _ _

/-- A photo as it stands in a summary. -/
structure Shown (photo : EvidencePhoto) : Prop where
  uuid : JS.isUuid photo.evidenceId = true
  label : Edge.isDisplayLabel photo.displayLabel = true
  size : photo.byteSize ≤ JS.maxSafeInteger
  instant : JS.Date.isDateTime photo.uploadedAt = true
  width : ∀ w, photo.width = some w → 1 ≤ w ∧ w ≤ 65535
  height : ∀ h, photo.height = some h → 1 ≤ h ∧ h ≤ 65535
  ready : photo.technicalStatus = .ready → photo.contentType.isSome = true ∧ 1 ≤ photo.byteSize ∧
    photo.width.isSome = true ∧ photo.height.isSome = true
  plain : photo.technicalStatus ≠ .ready → photo.width = none ∧ photo.height = none
  rejected : photo.technicalStatus = .rejected ↔ photo.rejectionCode.isSome = true

theorem shown_summaryPhotos {photos : List StoredPhoto} (hlength : photos.length ≤ 5)
    (hvalid : ∀ photo ∈ photos, photo.Valid) : ∀ photo ∈ summaryPhotos photos, Shown photo := by
  intro photo hp
  obtain ⟨stored, hstored, i, hi, rfl⟩ := mem_summaryPhotos hp
  have h := hvalid stored hstored
  have hlabel : ∀ i < 5, Edge.isDisplayLabel ("Photo " ++ toString (i + 1)) = true := by decide
  obtain ⟨t, hyear, htext⟩ := h.instant
  have hready := h.ready
  have hplain := h.plain
  constructor
  case uuid => exact h.uuid
  case label => exact hlabel i (by omega)
  case size =>
    have hsize := h.size
    have hlimit : HumanOperations.maxSetBytes ≤ JS.maxSafeInteger := by decide
    exact le_trans hsize hlimit
  case instant => exact JS.Date.isDateTime_toISOString hyear htext
  case rejected => exact h.rejected
  all_goals
    simp only
    by_cases hs : stored.technicalStatus = .ready
    · obtain ⟨htype, hbytes, ⟨w, hw, hw₁, hw₂⟩, k, hk, hk₁, hk₂⟩ := hready hs
      simp [hw, hk, hs, htype, hbytes, hw₁, hw₂, hk₁, hk₂]
    · obtain ⟨hw, hk⟩ := hplain hs
      simp [hw, hs]

theorem lookup_optionalField (k key : String) (value : Option JS.Json) :
    List.lookup k (HumanOperations.optionalField key value) = if k == key then value else none := by
  cases value with
  | none => simp [HumanOperations.optionalField]
  | some json =>
    simp only [HumanOperations.optionalField, List.lookup_cons, List.lookup_nil]
    cases k == key <;> rfl

theorem mem_optionalField {key : String} {value : Option JS.Json} {field : String × JS.Json}
    (h : field ∈ HumanOperations.optionalField key value) : field.1 = key := by
  cases value <;> simp_all [HumanOperations.optionalField]

/-! The enumerations of the two readers. -/

def mediaType : HumanOperations.ContentType → Edge.MediaType
  | .jpeg => .jpeg
  | .png => .png

def statusAtEdge : HumanOperations.TechnicalStatus → Edge.TechnicalStatus
  | .processing => .processing
  | .ready => .ready
  | .rejected => .rejected

def statusAtWorker : HumanOperations.TechnicalStatus → Workers.TechnicalStatus
  | .processing => .processing
  | .ready => .ready
  | .rejected => .rejected

def rejectionAtEdge : HumanOperations.RejectionCode → Edge.RejectionCode
  | .fileTooLarge => .fileTooLarge
  | .unsupportedType => .unsupportedType
  | .invalidImage => .invalidImage
  | .imageLimitExceeded => .imageLimitExceeded
  | .unsafeFile => .unsafeFile
  | .validationUnavailable => .validationUnavailable

def assessmentAtEdge : HumanOperations.Assessment → Edge.Assessment
  | .unreviewed => .unreviewed
  | .accepted => .accepted
  | .moreRequired => .moreRequired

def assessmentAtWorker : HumanOperations.Assessment → Workers.EvidenceAssessment
  | .unreviewed => .unreviewed
  | .accepted => .accepted
  | .moreRequired => .moreRequired

/-- Acceptance has no message for the customer. -/
def messageAtEdge : HumanOperations.ReviewReason → Option Edge.CustomerMessageCode
  | .damageVisible => none
  | .photoUnclear => some .photoUnclear
  | .damagedItemNotVisible => some .damagedItemNotVisible
  | .orderItemNotIdentifiable => some .orderItemNotIdentifiable

def attachmentAtEdge (photo : EvidencePhoto) : Edge.Attachment where
  evidenceId := photo.evidenceId
  displayLabel := photo.displayLabel
  contentType := photo.contentType.map mediaType
  byteSize := photo.byteSize
  width := photo.width
  height := photo.height
  uploadedAt := photo.uploadedAt
  technicalStatus := statusAtEdge photo.technicalStatus
  rejectionCode := photo.rejectionCode.map rejectionAtEdge

theorem side_number {n : ℕ} (h : 1 ≤ n ∧ n ≤ 65535) : Edge.side (HumanOperations.number n) = some n := by
  apply JS.Reader.refine_some (JS.Reader.safeInteger_num _)
  · simpa using h
  · unfold JS.maxSafeInteger
    omega

theorem lookup_photo (photo : EvidencePhoto) :
    List.lookup "content_type" photo.fields = photo.contentType.map (fun type => .str type.text) ∧
      List.lookup "width" photo.fields = photo.width.map HumanOperations.number ∧
      List.lookup "height" photo.fields = photo.height.map HumanOperations.number ∧
      List.lookup "rejection_code" photo.fields =
        photo.rejectionCode.map fun code => .str code.text := by
  simp only [EvidencePhoto.fields, List.lookup_append, lookup_optionalField]
  simp [List.lookup_cons]

theorem Shown.consistent {photo : EvidencePhoto} (h : Shown photo) :
    (attachmentAtEdge photo).consistent = true := by
  have hrejected := h.rejected
  cases hs : photo.technicalStatus with
  | ready =>
    obtain ⟨htype, hbytes, hwidth, hheight⟩ := h.ready hs
    have hcode : photo.rejectionCode = none := by simpa [hs] using hrejected
    simp [Edge.Attachment.consistent, attachmentAtEdge, statusAtEdge, hs, htype, hbytes, hwidth,
      hheight, hcode]
  | processing =>
    obtain ⟨hwidth, hheight⟩ := h.plain (by rw [hs]; decide)
    have hcode : photo.rejectionCode = none := by simpa [hs] using hrejected
    simp [Edge.Attachment.consistent, attachmentAtEdge, statusAtEdge, hs, hwidth, hheight, hcode]
  | rejected =>
    obtain ⟨hwidth, hheight⟩ := h.plain (by rw [hs]; decide)
    have hcode := hrejected.mp hs
    simp [Edge.Attachment.consistent, attachmentAtEdge, statusAtEdge, hs, hwidth, hheight, hcode]

theorem attachmentSchema_json {photo : EvidencePhoto} (h : Shown photo) :
    Edge.attachmentSchema photo.json = some (attachmentAtEdge photo) := by
  apply JS.Reader.refine_some
  · have hstrict : Reader.strict ["evidence_id", "display_label", "content_type", "byte_size",
        "width", "height", "uploaded_at", "technical_status", "rejection_code"]
        (.obj photo.fields) = some photo.fields := JS.Reader.strict_obj (by
        intro field hfield
        simp only [EvidencePhoto.fields, List.mem_append, List.mem_cons, List.not_mem_nil,
          or_false] at hfield
        rcases hfield with (rfl | rfl | rfl | rfl | rfl) | hfield | hfield | hfield | hfield
        on_goal 6 => rw [mem_optionalField hfield]
        on_goal 7 => rw [mem_optionalField hfield]
        on_goal 8 => rw [mem_optionalField hfield]
        on_goal 9 => rw [mem_optionalField hfield]
        all_goals simp)
    have hid : Fields.required photo.fields "evidence_id" (.refine .text JS.isUuid) =
        some photo.evidenceId :=
      JS.Fields.required_some rfl (JS.Reader.refine_some (JS.Reader.text_str _) h.uuid)
    have hlabel : Fields.required photo.fields "display_label" (.refine .text Edge.isDisplayLabel) =
        some photo.displayLabel :=
      JS.Fields.required_some rfl (JS.Reader.refine_some (JS.Reader.text_str _) h.label)
    have hsize : Fields.required photo.fields "byte_size" .safeInteger = some photo.byteSize :=
      JS.Fields.required_some rfl (JS.Reader.safeInteger_num h.size)
    have hinstant : Fields.required photo.fields "uploaded_at" (.refine .text JS.Date.isDateTime) =
        some photo.uploadedAt :=
      JS.Fields.required_some rfl (JS.Reader.refine_some (JS.Reader.text_str _) h.instant)
    have hstatus : Fields.required photo.fields "technical_status" (.member
        [("PROCESSING", .processing), ("READY", .ready), ("REJECTED", .rejected)]) =
        some (statusAtEdge photo.technicalStatus) := by
      apply JS.Fields.required_some rfl
      cases photo.technicalStatus <;> rfl
    obtain ⟨ltype, lwidth, lheight, lcode⟩ := lookup_photo photo
    have htype : Fields.optional photo.fields "content_type" (.member
        [("image/jpeg", .jpeg), ("image/png", .png)]) = some (photo.contentType.map mediaType) :=
      JS.Fields.optional_map ltype (by rintro (_ | _) - <;> rfl)
    have hwidth : Fields.optional photo.fields "width" Edge.side =
        some (photo.width.map fun n => n) :=
      JS.Fields.optional_map lwidth fun w hw => side_number (h.width w hw)
    have hheight : Fields.optional photo.fields "height" Edge.side =
        some (photo.height.map fun n => n) :=
      JS.Fields.optional_map lheight fun k hk => side_number (h.height k hk)
    have hcode : Fields.optional photo.fields "rejection_code" (.member
        [("FILE_TOO_LARGE", .fileTooLarge), ("UNSUPPORTED_TYPE", .unsupportedType),
          ("INVALID_IMAGE", .invalidImage), ("IMAGE_LIMIT_EXCEEDED", .imageLimitExceeded),
          ("UNSAFE_FILE", .unsafeFile), ("VALIDATION_UNAVAILABLE", .validationUnavailable)]) =
        some (photo.rejectionCode.map rejectionAtEdge) :=
      JS.Fields.optional_map lcode (by rintro (_ | _ | _ | _ | _ | _) - <;> rfl)
    simp only [EvidencePhoto.json, hstrict, hid, hlabel, hsize, hinstant, hstatus, htype, hwidth,
      hheight, hcode, Option.bind_eq_bind, Option.bind_some]
    simp [attachmentAtEdge]
  · exact h.consistent

/-- A summary that both readers accept. -/
structure Sound (summary : EvidenceSummary) : Prop where
  shown : ∀ photo ∈ summary.attachments, Shown photo
  few : summary.attachments.length ≤ 5
  distinct : (summary.attachments.map EvidencePhoto.evidenceId).Nodup
  version : summary.evidenceVersion ≤ JS.maxSafeInteger
  initial : summary.evidenceVersion = 0 →
    summary.assessment = .unreviewed ∧ summary.attachments = []
  accepted : summary.assessment = .accepted → summary.canUpload = false ∧
    summary.attachments ≠ [] ∧ ∀ photo ∈ summary.attachments, photo.technicalStatus = .ready
  message : summary.assessment = .moreRequired ↔ summary.customerMessageCode.isSome = true
  reason : ∀ reason, summary.customerMessageCode = some reason → (messageAtEdge reason).isSome = true

def summaryAtEdge (summary : EvidenceSummary) : Edge.RefundEvidenceSummary where
  requirement := .damagePhoto
  evidenceVersion := summary.evidenceVersion
  assessment := assessmentAtEdge summary.assessment
  canUpload := summary.canUpload
  customerMessageCode := summary.customerMessageCode.bind messageAtEdge
  attachments := summary.attachments.map attachmentAtEdge

theorem lookup_message (summary : EvidenceSummary) :
    List.lookup "customer_message_code" summary.fields =
      summary.customerMessageCode.map fun reason => .str reason.text := by
  simp only [EvidenceSummary.fields, List.lookup_append, lookup_optionalField]
  simp [List.lookup_cons]

theorem Sound.consistent {summary : EvidenceSummary} (h : Sound summary) :
    (summaryAtEdge summary).consistent = true := by
  have hmessage : (summaryAtEdge summary).customerMessageCode.isSome =
      summary.customerMessageCode.isSome := by
    cases hcode : summary.customerMessageCode with
    | none => simp [summaryAtEdge, hcode]
    | some reason => simp [summaryAtEdge, hcode, h.reason reason hcode]
  have hids : (summaryAtEdge summary).attachments.map Edge.Attachment.evidenceId =
      summary.attachments.map EvidencePhoto.evidenceId := by
    rw [summaryAtEdge, List.map_map]
    rfl
  have habsent : (summaryAtEdge summary).invalidAbsentRequirement = false := by
    simp [Edge.RefundEvidenceSummary.invalidAbsentRequirement, summaryAtEdge]
  have hinitial : (summaryAtEdge summary).invalidInitialRevision = false := by
    by_cases hversion : summary.evidenceVersion = 0
    · obtain ⟨hassessment, hnil⟩ := h.initial hversion
      simp [Edge.RefundEvidenceSummary.invalidInitialRevision, summaryAtEdge, hassessment, hnil,
        assessmentAtEdge]
    · simp [Edge.RefundEvidenceSummary.invalidInitialRevision, summaryAtEdge, hversion]
  have hrevised : summary.assessment ≠ .unreviewed → ¬summary.evidenceVersion < 1 :=
    fun ha hlt => ha (h.initial (by omega)).1
  have haccepted : (summaryAtEdge summary).invalidAcceptedSet = false := by
    by_cases ha : summary.assessment = .accepted
    · obtain ⟨hupload, hnil, hready⟩ := h.accepted ha
      have hversion := hrevised (by rw [ha]; decide)
      have hall : ∀ photo ∈ summary.attachments,
          (attachmentAtEdge photo).technicalStatus = .ready := by
        intro photo hp
        simp [attachmentAtEdge, hready photo hp, statusAtEdge]
      simpa [Edge.RefundEvidenceSummary.invalidAcceptedSet, summaryAtEdge, hupload, hnil, hversion]
        using fun _ => hall
    · cases hassessment : summary.assessment with
      | accepted => exact absurd hassessment ha
      | unreviewed => simp [Edge.RefundEvidenceSummary.invalidAcceptedSet, summaryAtEdge, hassessment, assessmentAtEdge]
      | moreRequired => simp [Edge.RefundEvidenceSummary.invalidAcceptedSet, summaryAtEdge, hassessment, assessmentAtEdge]
  have hreview : (summaryAtEdge summary).invalidCustomerReviewMessage = false := by
    have hiff := h.message
    rw [Edge.RefundEvidenceSummary.invalidCustomerReviewMessage, hmessage]
    cases hassessment : summary.assessment with
    | moreRequired =>
      have hversion := hrevised (by rw [hassessment]; decide)
      simp [summaryAtEdge, hassessment, assessmentAtEdge, hiff.mp hassessment, hversion]
    | unreviewed =>
      have hnone : summary.customerMessageCode.isSome = false := by simpa [hassessment] using hiff
      simp [summaryAtEdge, hassessment, assessmentAtEdge, hnone]
    | accepted =>
      have hnone : summary.customerMessageCode.isSome = false := by simpa [hassessment] using hiff
      simp [summaryAtEdge, hassessment, assessmentAtEdge, hnone]
  simp only [Edge.RefundEvidenceSummary.consistent, hids, h.distinct, habsent, hinitial, haccepted,
    hreview, Bool.not_false, Bool.and_true, decide_true]

theorem refundEvidenceSummarySchema_json {summary : EvidenceSummary} (h : Sound summary) :
    Edge.refundEvidenceSummarySchema summary.json = some (summaryAtEdge summary) := by
  apply JS.Reader.refine_some _ h.consistent
  have hstrict : Reader.strict ["version", "requirement", "evidence_version", "assessment",
      "can_upload", "customer_message_code", "attachments"] (.obj summary.fields) =
      some summary.fields := JS.Reader.strict_obj (by
      intro field hfield
      simp only [EvidenceSummary.fields, List.mem_append, List.mem_cons, List.not_mem_nil,
        or_false] at hfield
      rcases hfield with (rfl | rfl | rfl | rfl | rfl | rfl) | hfield
      on_goal 7 => rw [mem_optionalField hfield]
      all_goals simp)
  have hversion : Fields.required summary.fields "evidence_version" .safeInteger =
      some summary.evidenceVersion :=
    JS.Fields.required_some rfl (JS.Reader.safeInteger_num h.version)
  have hassessment : Fields.required summary.fields "assessment" (.member
      [("UNREVIEWED", .unreviewed), ("ACCEPTED", .accepted), ("MORE_REQUIRED", .moreRequired)]) =
      some (assessmentAtEdge summary.assessment) := by
    apply JS.Fields.required_some rfl
    cases summary.assessment <;> rfl
  have hupload : Fields.required summary.fields "can_upload" .bool = some summary.canUpload := rfl
  have hattachments : Fields.required summary.fields "attachments"
      (.refine (.array Edge.attachmentSchema) fun items => items.length ≤ 5) =
      some (summary.attachments.map attachmentAtEdge) := by
    apply JS.Fields.required_some rfl
    apply JS.Reader.refine_some
    · exact JS.Reader.array_map fun photo hp => attachmentSchema_json (h.shown photo hp)
    · simpa using h.few
  have hmessage : Fields.optional summary.fields "customer_message_code" (.member
      [("PHOTO_UNCLEAR", .photoUnclear), ("DAMAGED_ITEM_NOT_VISIBLE", .damagedItemNotVisible),
        ("ORDER_ITEM_NOT_IDENTIFIABLE", .orderItemNotIdentifiable)]) =
      some (summary.customerMessageCode.bind messageAtEdge) := by
    rw [JS.Fields.optional, lookup_message]
    cases hcode : summary.customerMessageCode with
    | none => rfl
    | some reason =>
      have hreason := h.reason reason hcode
      cases reason with
      | damageVisible => cases hreason
      | photoUnclear => rfl
      | damagedItemNotVisible => rfl
      | orderItemNotIdentifiable => rfl
  have hv : Fields.required summary.fields "version" (.member [("v1", ())]) = some () := rfl
  have hrequirement : Fields.required summary.fields "requirement" (.member
      [("DAMAGE_PHOTO", Edge.Requirement.damagePhoto), ("NONE", .none)]) = some .damagePhoto := rfl
  simp only [EvidenceSummary.json, hstrict, hv, hrequirement, hversion, hassessment, hupload,
    hmessage, hattachments, Option.bind_eq_bind, Option.bind_some]
  rfl

/-! The summary of a record. -/

theorem sound_evidenceSummary {record : EvidenceRecord} (h : record.document.Kept) :
    Sound (evidenceSummary record) := by
  have hversion : record.document.revision ≤ JS.maxSafeInteger := by
    have hbounded := h.bounded
    have hattempts := h.collected.attempts
    have hreviews := h.reviews
    have hsettled : record.document.attachments.countP (fun photo =>
      photo.technicalStatus ≠ .processing) ≤ _ := List.countP_le_length
    have hpurged : record.document.attachments.countP (fun photo => photo.purged) ≤ _ :=
      List.countP_le_length
    have hretired : record.document.retired.toNat ≤ 1 := Bool.toNat_le record.document.retired
    unfold EvidenceDocument.effort at hbounded
    unfold HumanOperations.maxUploadAttempts at hattempts
    unfold HumanOperations.maxReviews at hreviews
    unfold JS.maxSafeInteger
    omega
  cases hretired : record.document.retired with
  | true =>
    have hassessment : (evidenceSummary record).assessment = .unreviewed := by
      simp [evidenceSummary, hretired]
    have hattachments : (evidenceSummary record).attachments = [] := by
      simp [evidenceSummary, hretired]
    have hmessage : (evidenceSummary record).customerMessageCode = none := by
      simp [evidenceSummary, hretired]
    constructor
    case version => exact hversion
    all_goals simp [hassessment, hattachments, hmessage]
  | false =>
    have hassessment : (evidenceSummary record).assessment = record.document.assessment := by
      simp [evidenceSummary, hretired]
    have hattachments : (evidenceSummary record).attachments =
        summaryPhotos record.document.visible := by
      simp [evidenceSummary, hretired]
    have hlength : (summaryPhotos record.document.visible).length = record.document.visible.length := by
      simp [summaryPhotos]
    have hvisible : ∀ photo ∈ record.document.visible, photo ∈ record.document.attachments :=
      fun photo hp => record.document.available_sublist.subset
        (EvidenceDocument.visible_subset photo hp)
    constructor
    case version => exact hversion
    case shown =>
      rw [hattachments]
      exact shown_summaryPhotos h.length_visible fun photo hp =>
        h.collected.valid photo (hvisible photo hp)
    case few =>
      rw [hattachments, hlength]
      exact h.length_visible
    case distinct =>
      rw [hattachments, map_summaryPhotos fun _ _ _ => rfl]
      exact h.nodup_visible
    case initial =>
      intro hzero
      have hnil : record.document.attachments = [] ∧ record.document.assessment = .unreviewed := by
        by_contra hne
        have hone : 1 ≤ record.document.revision := h.revised (by
          by_cases hn : record.document.attachments = []
          · exact Or.inr fun ha => hne ⟨hn, ha⟩
          · exact Or.inl hn)
        have hzero' : record.document.revision = 0 := hzero
        omega
      refine ⟨hassessment.trans hnil.2, ?_⟩
      rw [hattachments, ← List.length_eq_zero_iff, hlength, List.length_eq_zero_iff,
        List.eq_nil_iff_forall_not_mem]
      intro photo hp
      have hmem := hvisible photo hp
      rw [hnil.1] at hmem
      cases hmem
    case accepted =>
      intro ha
      rw [hassessment] at ha
      obtain ⟨hready, -, -⟩ := h.accepted ha hretired
      have hnil : record.document.visible ≠ [] := by
        rwa [EvidenceDocument.visible_of_accepted ha]
      refine ⟨by simp [evidenceSummary, HumanOperations.canUpload, ha], ?_, ?_⟩
      · rw [hattachments, ← List.length_pos_iff, hlength, List.length_pos_iff]
        exact hnil
      · intro photo hp
        rw [hattachments] at hp
        obtain ⟨stored, hstored, i, -, rfl⟩ := mem_summaryPhotos hp
        rw [EvidenceDocument.visible_of_accepted ha] at hstored
        simpa using List.of_mem_filter hstored
    case message =>
      rw [hassessment]
      constructor
      · intro hm
        obtain ⟨reason, hreason, -⟩ := h.reason hm
        simp [evidenceSummary, hretired, hm, hreason]
      · intro hsome
        by_contra hm
        simp [evidenceSummary, hm] at hsome
    case reason =>
      intro reason hreason
      by_cases hm : record.document.assessment = .moreRequired
      · obtain ⟨other, hother, hne⟩ := h.reason hm
        simp only [evidenceSummary, hretired, hm, Bool.not_false, decide_true, Bool.and_self,
          if_true, hother, Option.some.injEq] at hreason
        subst hreason
        cases other with
        | damageVisible => exact absurd rfl hne
        | photoUnclear => rfl
        | damagedItemNotVisible => rfl
        | orderItemNotIdentifiable => rfl
      · simp [evidenceSummary, hm] at hreason

/-- The photos that a summary shows with a status other than rejected are those of the set. -/
theorem length_filter_summary {record : EvidenceRecord} (h : record.document.Kept)
    {status : HumanOperations.TechnicalStatus} (hstatus : status ≠ .rejected) :
    ((evidenceSummary record).attachments.filter fun photo => photo.technicalStatus = status).length =
      (record.document.available.filter fun photo => photo.technicalStatus = status).length := by
  cases hretired : record.document.retired with
  | true =>
    have hattachments : (evidenceSummary record).attachments = [] := by
      simp [evidenceSummary, hretired]
    have havailable : record.document.available = [] := by
      apply List.filter_eq_nil_iff.mpr
      intro photo hp
      simp [StoredPhoto.available, h.removed hretired photo hp]
    rw [hattachments, havailable]
    rfl
  | false =>
    have hattachments : (evidenceSummary record).attachments =
        summaryPhotos record.document.visible := by
      simp [evidenceSummary, hretired]
    have hstatuses := map_summaryPhotos (f := EvidencePhoto.technicalStatus)
      (g := fun photo => photo.technicalStatus) (fun _ _ _ => rfl) record.document.visible
    rw [hattachments, ← h.filter_visible hstatus, ← List.countP_eq_length_filter,
      ← List.countP_eq_length_filter]
    have hcount := congrArg (List.countP fun s => decide (s = status)) hstatuses
    rw [List.countP_map, List.countP_map] at hcount
    exact hcount

/-! What the worker makes of a snapshot. -/

def fileAtWorker (photo : EvidencePhoto) : Workers.EvidenceFile :=
  ⟨photo.evidenceId, statusAtWorker photo.technicalStatus⟩

def snapshotAtWorker (snapshot : EvidenceSnapshot) : Workers.SnapshotValue where
  caseId := snapshot.caseId
  evidence := {
    evidenceVersion := snapshot.evidence.evidenceVersion
    assessment := assessmentAtWorker snapshot.evidence.assessment
    canUpload := snapshot.evidence.canUpload
    attachments := snapshot.evidence.attachments.map fileAtWorker }
  binding := {
    orderId := snapshot.binding.orderId
    proposalId := snapshot.binding.proposalId
    selectedItemIds := snapshot.binding.selectedItemIds
    policyVersion := snapshot.binding.policyVersion }
  acceptedManifestHash := snapshot.acceptedManifestHash
  assessmentId := snapshot.assessmentId

theorem evidenceFileSchema_json {photo : EvidencePhoto} (h : Shown photo) :
    Workers.evidenceFileSchema photo.json = some (fileAtWorker photo) := by
  have hid : Fields.required photo.fields "evidence_id" (.refine .text JS.isUuid) =
      some photo.evidenceId :=
    JS.Fields.required_some rfl (JS.Reader.refine_some (JS.Reader.text_str _) h.uuid)
  have hstatus : Fields.required photo.fields "technical_status" (.member
      [("PROCESSING", .processing), ("READY", .ready), ("REJECTED", .rejected)]) =
      some (statusAtWorker photo.technicalStatus) := by
    apply JS.Fields.required_some rfl
    cases photo.technicalStatus <;> rfl
  simp only [Workers.evidenceFileSchema, EvidencePhoto.json, JS.Reader.object_obj, hid, hstatus,
    Option.bind_eq_bind, Option.bind_some]
  rfl

theorem snapshotEvidenceSchema_json {summary : EvidenceSummary} (h : Sound summary) :
    Workers.snapshotEvidenceSchema summary.json = some {
      evidenceVersion := summary.evidenceVersion
      assessment := assessmentAtWorker summary.assessment
      canUpload := summary.canUpload
      attachments := summary.attachments.map fileAtWorker } := by
  have hversion : Fields.required summary.fields "evidence_version" .safeInteger =
      some summary.evidenceVersion :=
    JS.Fields.required_some rfl (JS.Reader.safeInteger_num h.version)
  have hassessment : Fields.required summary.fields "assessment" (.member
      [("UNREVIEWED", .unreviewed), ("ACCEPTED", .accepted), ("MORE_REQUIRED", .moreRequired)]) =
      some (assessmentAtWorker summary.assessment) := by
    apply JS.Fields.required_some rfl
    cases summary.assessment <;> rfl
  have hupload : Fields.required summary.fields "can_upload" .bool = some summary.canUpload := rfl
  have hattachments : Fields.required summary.fields "attachments"
      (.refine (.array Workers.evidenceFileSchema) fun files => files.length ≤ 5) =
      some (summary.attachments.map fileAtWorker) := by
    apply JS.Fields.required_some rfl
    apply JS.Reader.refine_some
    · exact JS.Reader.array_map fun photo hp => evidenceFileSchema_json (h.shown photo hp)
    · simpa using h.few
  have hv : Fields.required summary.fields "version" (.member [("v1", ())]) = some () := rfl
  have hrequirement : Fields.required summary.fields "requirement"
      (.member [("DAMAGE_PHOTO", ())]) = some () := rfl
  simp only [Workers.snapshotEvidenceSchema, EvidenceSummary.json, JS.Reader.object_obj, hv,
    hrequirement, hversion, hassessment, hupload, hattachments, Option.bind_eq_bind,
    Option.bind_some]
  rfl

theorem nonEmptyText_str {text : String} (h : text ≠ "") : Workers.nonEmptyText (.str text) = some text :=
  JS.Reader.refine_some (JS.Reader.text_str _) (by simpa using h)

theorem snapshotBindingSchema_json {binding : HumanOperations.EvidenceBinding}
    (hids : binding.orderId ≠ "" ∧ binding.proposalId ≠ "" ∧ binding.policyVersion ≠ "" ∧
      ∀ id ∈ binding.selectedItemIds, id ≠ "") :
    Workers.snapshotBindingSchema binding.json = some {
      orderId := binding.orderId
      proposalId := binding.proposalId
      selectedItemIds := binding.selectedItemIds
      policyVersion := binding.policyVersion } := by
  obtain ⟨horder, hproposal, hpolicy, hitems⟩ := hids
  have hstrict : Reader.strict ["order_id", "proposal_id", "selected_item_ids", "policy_version"]
      (.obj binding.fields) = some binding.fields := JS.Reader.strict_obj (by
      simp [HumanOperations.EvidenceBinding.fields])
  have ho : Fields.required binding.fields "order_id" Workers.nonEmptyText =
    some binding.orderId := JS.Fields.required_some rfl (nonEmptyText_str horder)
  have hp : Fields.required binding.fields "proposal_id" Workers.nonEmptyText =
    some binding.proposalId := JS.Fields.required_some rfl (nonEmptyText_str hproposal)
  have hv : Fields.required binding.fields "policy_version" Workers.nonEmptyText =
    some binding.policyVersion := JS.Fields.required_some rfl (nonEmptyText_str hpolicy)
  have hi : Fields.required binding.fields "selected_item_ids" (.array Workers.nonEmptyText) =
      some (binding.selectedItemIds.map fun id => id) :=
    JS.Fields.required_some rfl (JS.Reader.array_map fun id hid => nonEmptyText_str (hitems id hid))
  simp only [Workers.snapshotBindingSchema, HumanOperations.EvidenceBinding.json, hstrict, ho, hp,
    hi, hv, List.map_id', Option.bind_eq_bind, Option.bind_some]
  rfl

theorem lookup_snapshot (snapshot : EvidenceSnapshot) :
    List.lookup "accepted_manifest_hash" snapshot.fields =
        snapshot.acceptedManifestHash.map JS.Json.str ∧
      List.lookup "assessment_id" snapshot.fields = snapshot.assessmentId.map JS.Json.str := by
  simp only [EvidenceSnapshot.fields, List.lookup_append, lookup_optionalField]
  simp [List.lookup_cons]

theorem snapshotSchema_json {record : EvidenceRecord} (hkept : record.document.Kept)
    (hnamed : record.Named) : Workers.snapshotSchema (evidenceSnapshot record).json =
      some (snapshotAtWorker (evidenceSnapshot record)) := by
  obtain ⟨hcase, hids⟩ := hnamed
  generalize hsnapshot : evidenceSnapshot record = snapshot
  have hevidence : snapshot.evidence = evidenceSummary record := hsnapshot ▸ rfl
  have hbinding : snapshot.binding = record.binding := hsnapshot ▸ rfl
  have hstrict : Reader.strict ["case_id", "case_status", "evidence", "binding",
      "accepted_manifest_hash", "assessment_id"] (.obj snapshot.fields) =
      some snapshot.fields := JS.Reader.strict_obj (by
      intro field hfield
      simp only [EvidenceSnapshot.fields, List.mem_append, List.mem_cons, List.not_mem_nil,
        or_false] at hfield
      rcases hfield with (rfl | rfl | rfl | rfl) | hfield | hfield
      on_goal 5 => rw [mem_optionalField hfield]
      on_goal 6 => rw [mem_optionalField hfield]
      all_goals simp)
  have hstatus : Fields.required snapshot.fields "case_status" (.member
      [("OPEN", ()), ("CLAIMED", ()), ("DECISION_PENDING", ()), ("CLOSED", ())]) = some () := by
    apply JS.Fields.required_some rfl
    cases snapshot.caseStatus <;> rfl
  have hid : Fields.required snapshot.fields "case_id" Workers.nonEmptyText = some snapshot.caseId :=
    JS.Fields.required_some rfl (nonEmptyText_str (hsnapshot ▸ hcase))
  have hsummary : Fields.required snapshot.fields "evidence" Workers.snapshotEvidenceSchema =
      some (snapshotAtWorker snapshot).evidence :=
    JS.Fields.required_some rfl
      (snapshotEvidenceSchema_json (hevidence ▸ sound_evidenceSummary hkept))
  have hbound : Fields.required snapshot.fields "binding" Workers.snapshotBindingSchema =
      some (snapshotAtWorker snapshot).binding :=
    JS.Fields.required_some rfl (snapshotBindingSchema_json (hbinding ▸ hids))
  obtain ⟨lhash, lassessment⟩ := lookup_snapshot snapshot
  have hhash : Fields.optional snapshot.fields "accepted_manifest_hash"
      (.refine .text JS.isSha256) = some (snapshot.acceptedManifestHash.map fun hash => hash) := by
    apply JS.Fields.optional_map lhash
    intro hash hhash
    apply JS.Reader.refine_some (JS.Reader.text_str _)
    rw [← hsnapshot] at hhash
    obtain ⟨photos, rfl⟩ := hkept.hashed hash hhash
    exact JS.isSha256_hex _
  have hassessment : Fields.optional snapshot.fields "assessment_id" (.refine .text JS.isUuid) =
      some (snapshot.assessmentId.map fun id => id) := by
    apply JS.Fields.optional_map lassessment
    intro id hid
    rw [← hsnapshot] at hid
    exact JS.Reader.refine_some (JS.Reader.text_str _) (hkept.assessed id hid)
  simp only [Workers.snapshotSchema, EvidenceSnapshot.json, hstrict, hstatus, hid, hsummary, hbound,
    hhash, hassessment, Option.map_id', Option.bind_eq_bind, Option.bind_some]
  rfl

/-- The worker asks for the collection of its own proposal. -/
def Expects (input : Workers.EvidenceAccess) (record : EvidenceRecord) : Prop :=
  input.proposal.intent.orderId = record.binding.orderId ∧
    input.proposal.proposalId = record.binding.proposalId ∧
    input.policyVersion = record.binding.policyVersion ∧
    HumanOperations.sorted input.proposal.intent.itemIds =
      HumanOperations.sorted record.binding.selectedItemIds

/-- What the worker reports of the accepted set of a document. -/
def acceptedAtWorker (document : EvidenceDocument) (observedAt : String) :
    Option Workers.AcceptedDamageEvidence :=
  if document.assessment = .accepted ∧ document.retired = false then do
    let manifestHash ← document.manifestHash
    let assessmentId ← document.assessmentId
    some ⟨document.revision, assessmentId, manifestHash, observedAt⟩
  else none

theorem assessment_snapshotAtWorker (record : EvidenceRecord) :
    (snapshotAtWorker (evidenceSnapshot record)).evidence.assessment = .accepted ↔
      record.document.assessment = .accepted ∧ record.document.retired = false := by
  cases hretired : record.document.retired with
  | true => simp [snapshotAtWorker, evidenceSnapshot, evidenceSummary, hretired, assessmentAtWorker]
  | false =>
    cases hassessment : record.document.assessment <;>
      simp [snapshotAtWorker, evidenceSnapshot, evidenceSummary, hretired, hassessment,
        assessmentAtWorker]

theorem accepted_snapshot {record : EvidenceRecord} (h : record.document.Kept) {now : ℤ}
    {observedAt : String} (hnow : JS.Date.toISOString now = some observedAt) :
    (snapshotAtWorker (evidenceSnapshot record)).accepted now =
      .ok (acceptedAtWorker record.document observedAt) := by
  have hsound := sound_evidenceSummary h
  by_cases ha : record.document.assessment = .accepted ∧ record.document.retired = false
  · obtain ⟨haccepted, hretired⟩ := ha
    obtain ⟨-, hhash, hid⟩ := h.accepted haccepted hretired
    obtain ⟨id, hid⟩ := Option.isSome_iff_exists.mp hid
    have hassessment : (evidenceSummary record).assessment = .accepted := by
      simp [evidenceSummary, hretired, haccepted]
    obtain ⟨hupload, hnil, hready⟩ := hsound.accepted hassessment
    have hversion : ¬(evidenceSummary record).evidenceVersion < 1 := by
      intro hlt
      have hinitial := (hsound.initial (by omega)).1
      rw [hassessment] at hinitial
      cases hinitial
    have hall : ¬(snapshotAtWorker (evidenceSnapshot record)).evidence.attachments.any
        (fun file => file.technicalStatus ≠ .ready) = true := by
      simp only [snapshotAtWorker, evidenceSnapshot, List.any_map, List.any_eq_true, not_exists,
        not_and, Function.comp_apply]
      intro photo hp
      simp [fileAtWorker, hready photo hp, statusAtWorker]
    have hsummary := (assessment_snapshotAtWorker record).mpr ⟨haccepted, hretired⟩
    have hfiles : (snapshotAtWorker (evidenceSnapshot record)).evidence.attachments ≠ [] := by
      simpa [snapshotAtWorker, evidenceSnapshot] using hnil
    have hmanifest : (snapshotAtWorker (evidenceSnapshot record)).acceptedManifestHash =
        some (HumanOperations.manifestHash record.document.available) := hhash
    have hassessed : (snapshotAtWorker (evidenceSnapshot record)).assessmentId = some id := hid
    have hvalid : ¬((snapshotAtWorker (evidenceSnapshot record)).evidence.canUpload = true ∨
        (snapshotAtWorker (evidenceSnapshot record)).evidence.evidenceVersion < 1 ∨
        (snapshotAtWorker (evidenceSnapshot record)).evidence.attachments = [] ∨
        (snapshotAtWorker (evidenceSnapshot record)).evidence.attachments.any
          (fun file => file.technicalStatus ≠ .ready) = true) := by
      rintro (hu | hv | hf | hr)
      · exact absurd hu (by simp [snapshotAtWorker, evidenceSnapshot, hupload])
      · exact hversion hv
      · exact hfiles hf
      · exact hall hr
    rw [Workers.SnapshotValue.accepted, if_neg (not_not.mpr hsummary), hmanifest, hassessed]
    simp only [hnow]
    rw [if_neg hvalid, acceptedAtWorker, if_pos ⟨haccepted, hretired⟩, hhash, hid]
    rfl
  · have hsummary := mt (assessment_snapshotAtWorker record).mp ha
    rw [Workers.SnapshotValue.accepted, if_pos hsummary, acceptedAtWorker, if_neg ha]

theorem parseEvidenceSnapshot_json {record : EvidenceRecord} (hkept : record.document.Kept)
    (hnamed : record.Named) {input : Workers.EvidenceAccess} (hinput : Expects input record)
    {now : ℤ} {observedAt : String} (hnow : JS.Date.toISOString now = some observedAt) :
    Workers.parseEvidenceSnapshot (evidenceSnapshot record).json input now = .ok {
      caseId := record.case.caseId
      assessment := assessmentAtWorker (evidenceSummary record).assessment
      evidenceVersion := record.document.revision
      readyCount := (record.document.available.filter fun photo =>
        photo.technicalStatus = .ready).length
      processingCount := (record.document.available.filter fun photo =>
        photo.technicalStatus = .processing).length
      accepted := acceptedAtWorker record.document observedAt } := by
  obtain ⟨horder, hproposal, hpolicy, hitems⟩ := hinput
  have hsound := sound_evidenceSummary hkept
  have hbinding : ¬((snapshotAtWorker (evidenceSnapshot record)).binding.orderId ≠
        input.proposal.intent.orderId ∨
      (snapshotAtWorker (evidenceSnapshot record)).binding.proposalId ≠ input.proposal.proposalId ∨
      (snapshotAtWorker (evidenceSnapshot record)).binding.policyVersion ≠ input.policyVersion ∨
      (snapshotAtWorker (evidenceSnapshot record)).binding.selectedItemIds.insertionSort
          (fun a b => JS.notAfter a b) ≠
        input.proposal.intent.itemIds.insertionSort fun a b => JS.notAfter a b) := by
    simp only [not_or, not_not]
    exact ⟨horder.symm, hproposal.symm, hpolicy.symm, hitems.symm⟩
  have hdistinct : ((snapshotAtWorker (evidenceSnapshot record)).evidence.attachments.map
      Workers.EvidenceFile.evidenceId).Nodup := by
    have hids : (snapshotAtWorker (evidenceSnapshot record)).evidence.attachments.map
        Workers.EvidenceFile.evidenceId =
        (evidenceSummary record).attachments.map EvidencePhoto.evidenceId := by
      simp only [snapshotAtWorker, evidenceSnapshot, List.map_map]
      rfl
    rw [hids]
    exact hsound.distinct
  have hcount : ∀ status : HumanOperations.TechnicalStatus, status ≠ .rejected →
      ((snapshotAtWorker (evidenceSnapshot record)).evidence.attachments.filter
        fun file => file.technicalStatus = statusAtWorker status).length =
      (record.document.available.filter fun photo => photo.technicalStatus = status).length := by
    intro status hstatus
    rw [← length_filter_summary hkept hstatus]
    simp only [snapshotAtWorker, evidenceSnapshot, List.filter_map, List.length_map]
    congr 1
    apply List.filter_congr
    intro photo _
    cases hs : photo.technicalStatus <;> cases status <;> simp [fileAtWorker, statusAtWorker, hs]
  simp only [Workers.parseEvidenceSnapshot, snapshotSchema_json hkept hnamed]
  rw [if_neg hbinding, if_neg (not_not.mpr hdistinct), accepted_snapshot hkept hnow]
  apply congrArg Except.ok
  rw [Workers.EvidenceSnapshot.mk.injEq]
  exact ⟨rfl, rfl, rfl, hcount .ready (by decide), hcount .processing (by decide), rfl⟩

theorem exists_acceptedAtWorker {document : EvidenceDocument} (h : document.Kept)
    (ha : document.assessment = .accepted) (hr : document.retired = false) (observedAt : String) :
    ∃ hash id, document.manifestHash = some hash ∧ document.assessmentId = some id ∧
      acceptedAtWorker document observedAt = some ⟨document.revision, id, hash, observedAt⟩ := by
  obtain ⟨-, hhash, hid⟩ := h.accepted ha hr
  obtain ⟨id, hid⟩ := Option.isSome_iff_exists.mp hid
  refine ⟨_, id, hhash, hid, ?_⟩
  rw [acceptedAtWorker, if_pos ⟨ha, hr⟩, hhash, hid]
  rfl

/-- Every record that the repository stores is read by the edge and by the worker of its proposal.
The worker sees an accepted set exactly when the document has one that is not retired, with the
version, the assessment and the manifest of the document, and it counts the ready and the
processed photos of the current set. -/
theorem evidence_snapshot_read_by_both {db : Database}
    (h : HumanOperations.database.Reachable Database.IsEmpty db) {scope : Scope}
    {workflowId : String} {record : EvidenceRecord}
    (hrecord : (db scope).stored workflowId = some record) :
    Edge.refundEvidenceSummarySchema (evidenceSnapshot record).evidence.json =
      some (summaryAtEdge (evidenceSnapshot record).evidence) ∧
    ∀ (input : Workers.EvidenceAccess) (now : ℤ), Expects input record →
      now.natAbs ≤ JS.Date.maxTime →
      ∃ snapshot, Workers.parseEvidenceSnapshot (evidenceSnapshot record).json input now =
          .ok snapshot ∧
        (snapshot.accepted.isSome = true ↔
          record.document.assessment = .accepted ∧ record.document.retired = false) ∧
        (∀ accepted, snapshot.accepted = some accepted →
          accepted.evidenceVersion = record.document.revision ∧
          record.document.assessmentId = some accepted.assessmentId ∧
          record.document.manifestHash = some accepted.manifestHash) ∧
        snapshot.readyCount = (record.document.available.filter fun photo =>
          photo.technicalStatus = .ready).length ∧
        snapshot.processingCount = (record.document.available.filter fun photo =>
          photo.technicalStatus = .processing).length := by
  obtain ⟨hkept, hnamed⟩ := HumanOperations.stored_kept h hrecord
  refine ⟨refundEvidenceSummarySchema_json (sound_evidenceSummary hkept), ?_⟩
  intro input now hinput hnow
  obtain ⟨observedAt, hobserved⟩ : ∃ observedAt, JS.Date.toISOString now = some observedAt := by
    rw [JS.Date.toISOString, if_pos hnow]
    exact ⟨_, rfl⟩
  refine ⟨_, parseEvidenceSnapshot_json hkept hnamed hinput hobserved, ?_, ?_, rfl, rfl⟩
  · by_cases ha : record.document.assessment = .accepted ∧ record.document.retired = false
    · obtain ⟨hash, id, -, -, hsome⟩ := exists_acceptedAtWorker hkept ha.1 ha.2 observedAt
      simp [hsome, ha]
    · simp [acceptedAtWorker, ha]
  · intro accepted haccepted
    by_cases ha : record.document.assessment = .accepted ∧ record.document.retired = false
    · obtain ⟨hash, id, hhash, hid, hsome⟩ := exists_acceptedAtWorker hkept ha.1 ha.2 observedAt
      simp only [hsome, Option.some.injEq] at haccepted
      subst haccepted
      exact ⟨rfl, hid, hhash⟩
    · simp [acceptedAtWorker, ha] at haccepted

/-- The accepted collection of a journey, read by the worker of its proposal. -/
theorem evidence_snapshot_read_of_accepted : ∃ (db : Database) (record : EvidenceRecord),
    HumanOperations.database.run (fun _ => .empty) HumanOperations.Journey.accepted = some db ∧
      (db HumanOperations.Journey.scope).stored "refund-1" = some record ∧
      Edge.refundEvidenceSummarySchema (evidenceSnapshot record).evidence.json =
        some (summaryAtEdge (evidenceSnapshot record).evidence) ∧
      ∃ snapshot, Workers.parseEvidenceSnapshot (evidenceSnapshot record).json
          { proposal := ⟨"proposal-1", ⟨"order-1", "DAMAGED", .selectedItems, ["line-1"], none⟩⟩
            workflowId := "refund-1"
            access := ⟨"tenant-1", "production", "customer-1", "request-1", "trace-1"⟩
            policyVersion := "refund-policy-v2" } 1786190705000 = .ok snapshot ∧
        snapshot.accepted.isSome = true := by
  obtain ⟨db, hrun, hstored⟩ : ∃ db : Database,
      HumanOperations.database.run (fun _ => .empty) HumanOperations.Journey.accepted = some db ∧
        ((db HumanOperations.Journey.scope).stored "refund-1").any (fun record =>
          record.document.assessment = .accepted ∧ record.document.retired = false ∧
            record.binding = ⟨"order-1", "proposal-1", ["line-1"], "refund-policy-v2"⟩) = true :=
    Transition.Machine.exists_run (by decide +kernel)
  obtain ⟨record, hrecord, hrow⟩ := (Option.any_eq_true _ _).mp hstored
  obtain ⟨ha, hr, hbinding⟩ := of_decide_eq_true hrow
  obtain ⟨hedge, hworker⟩ := evidence_snapshot_read_by_both ⟨_, _, fun _ => rfl, hrun⟩ hrecord
  obtain ⟨snapshot, hparse, hiff, -⟩ := hworker
    { proposal := ⟨"proposal-1", ⟨"order-1", "DAMAGED", .selectedItems, ["line-1"], none⟩⟩
      workflowId := "refund-1"
      access := ⟨"tenant-1", "production", "customer-1", "request-1", "trace-1"⟩
      policyVersion := "refund-policy-v2" } 1786190705000
    (by rw [Expects, hbinding]; exact ⟨rfl, rfl, rfl, rfl⟩) (by decide)
  exact ⟨db, record, hrun, hrecord, hedge, snapshot, hparse, hiff.mpr ⟨ha, hr⟩⟩

end CSO.System
