import CSO.HumanOperations.Documents

/-! A snapshot of the evidence, as it is sent and what it shows. -/
namespace CSO.HumanOperations

def HumanCaseStatus.text : HumanCaseStatus → String
  | .opened => "OPEN"
  | .claimed => "CLAIMED"
  | .decisionPending => "DECISION_PENDING"
  | .closed => "CLOSED"

def ContentType.text : ContentType → String
  | .jpeg => "image/jpeg"
  | .png => "image/png"

def RejectionCode.text : RejectionCode → String
  | .fileTooLarge => "FILE_TOO_LARGE"
  | .unsupportedType => "UNSUPPORTED_TYPE"
  | .invalidImage => "INVALID_IMAGE"
  | .imageLimitExceeded => "IMAGE_LIMIT_EXCEEDED"
  | .unsafeFile => "UNSAFE_FILE"
  | .validationUnavailable => "VALIDATION_UNAVAILABLE"

def number (n : ℕ) : JS.Json := .num n

def EvidencePhoto.fields (photo : EvidencePhoto) : List (String × JS.Json) :=
  [("evidence_id", .str photo.evidenceId), ("display_label", .str photo.displayLabel),
    ("byte_size", number photo.byteSize), ("uploaded_at", .str photo.uploadedAt),
    ("technical_status", .str photo.technicalStatus.text)] ++
    (optionalField "content_type" (photo.contentType.map fun type => .str type.text) ++
    (optionalField "width" (photo.width.map number) ++
    (optionalField "height" (photo.height.map number) ++
    optionalField "rejection_code" (photo.rejectionCode.map fun code => .str code.text))))

def EvidencePhoto.json (photo : EvidencePhoto) : JS.Json := .obj photo.fields

def EvidenceSummary.fields (summary : EvidenceSummary) : List (String × JS.Json) :=
  [("version", .str "v1"), ("requirement", .str "DAMAGE_PHOTO"),
    ("evidence_version", number summary.evidenceVersion),
    ("assessment", .str summary.assessment.text), ("can_upload", .bool summary.canUpload),
    ("attachments", .arr (summary.attachments.map EvidencePhoto.json))] ++
    optionalField "customer_message_code"
      (summary.customerMessageCode.map fun reason => .str reason.text)

def EvidenceSummary.json (summary : EvidenceSummary) : JS.Json := .obj summary.fields

def EvidenceBinding.fields (binding : EvidenceBinding) : List (String × JS.Json) :=
  [("order_id", .str binding.orderId), ("proposal_id", .str binding.proposalId),
    ("selected_item_ids", strings binding.selectedItemIds),
    ("policy_version", .str binding.policyVersion)]

def EvidenceBinding.json (binding : EvidenceBinding) : JS.Json := .obj binding.fields

def EvidenceSnapshot.fields (snapshot : EvidenceSnapshot) : List (String × JS.Json) :=
  [("case_id", .str snapshot.caseId), ("case_status", .str snapshot.caseStatus.text),
    ("evidence", snapshot.evidence.json), ("binding", snapshot.binding.json)] ++
    (optionalField "accepted_manifest_hash" (snapshot.acceptedManifestHash.map JS.Json.str) ++
    optionalField "assessment_id" (snapshot.assessmentId.map JS.Json.str))

def EvidenceSnapshot.json (snapshot : EvidenceSnapshot) : JS.Json := .obj snapshot.fields

/-! What a summary shows of a document that is kept. -/

theorem slice_sublist {α : Type} (items : List α) (start : ℤ) : (slice items start).Sublist items :=
  List.drop_sublist _ _

namespace EvidenceDocument
variable {document : EvidenceDocument}

theorem available_sublist (document : EvidenceDocument) :
    document.available.Sublist document.attachments := List.filter_sublist

/-- The rejected photos that a summary has room for. -/
def rejectedShown (document : EvidenceDocument) : List StoredPhoto :=
  slice (document.available.filter fun photo => photo.technicalStatus = .rejected)
    (-((maxPhotos : ℤ) - document.active.length))

theorem mem_rejectedShown {photo : StoredPhoto} (h : photo ∈ document.rejectedShown) :
    photo ∈ document.available ∧ photo.technicalStatus = .rejected := by
  simpa using (slice_sublist _ _).subset h

theorem active_eq (document : EvidenceDocument) : document.active =
    document.available.filter fun photo => photo.technicalStatus ≠ .rejected := by
  rw [active, available, List.filter_filter]
  rfl

theorem visible_of_not_accepted (ha : document.assessment ≠ .accepted) :
    document.visible = (document.active ++ document.rejectedShown).take maxPhotos := by
  simp only [visible, ha, if_false]
  rfl

theorem visible_of_accepted (ha : document.assessment = .accepted) :
    document.visible = document.ready := by
  simp only [visible, ha, if_true]

theorem visible_subset : ∀ photo ∈ document.visible, photo ∈ document.available := by
  intro photo hp
  by_cases ha : document.assessment = .accepted
  · rw [visible_of_accepted ha] at hp
    exact List.mem_of_mem_filter hp
  · rw [visible_of_not_accepted ha] at hp
    rcases List.mem_append.mp (List.mem_of_mem_take hp) with hp | hp
    · rw [active_eq] at hp
      exact List.mem_of_mem_filter hp
    · exact (mem_rejectedShown hp).1

namespace Kept
variable (h : document.Kept)
include h

theorem length_active : document.active.length ≤ maxPhotos := by
  rw [active, ← List.countP_eq_length_filter]
  exact h.collected.fits

theorem length_ready : document.ready.length ≤ maxPhotos := by
  have hsub : document.ready.Sublist document.active := by
    rw [ready, active_eq]
    apply List.monotone_filter_right
    intro photo hready
    simp only [decide_eq_true_eq] at hready ⊢
    rw [hready]
    decide
  exact hsub.length_le.trans h.length_active

theorem length_visible : document.visible.length ≤ maxPhotos := by
  by_cases ha : document.assessment = .accepted
  · rw [visible_of_accepted ha]
    exact h.length_ready
  · rw [visible_of_not_accepted ha]
    exact List.length_take_le _ _

theorem nodup_visible : (document.visible.map fun photo => photo.evidenceId).Nodup := by
  have hn : document.available.Nodup :=
    (List.Nodup.of_map _ h.collected.distinct).sublist document.available_sublist
  have hvisible : document.visible.Nodup := by
    by_cases ha : document.assessment = .accepted
    · rw [visible_of_accepted ha]
      exact hn.sublist List.filter_sublist
    · rw [visible_of_not_accepted ha]
      apply List.Nodup.sublist (List.take_sublist _ _)
      rw [active_eq, List.nodup_append]
      refine ⟨hn.sublist List.filter_sublist,
        hn.sublist ((slice_sublist _ _).trans List.filter_sublist), ?_⟩
      rintro photo hactive other hrejected rfl
      simp only [List.mem_filter, decide_eq_true_eq] at hactive
      exact hactive.2 (mem_rejectedShown hrejected).2
  apply List.Nodup.map_on _ hvisible
  intro a ha b hb hid
  have hmem : ∀ photo ∈ document.visible, photo ∈ document.attachments := fun photo hp =>
    document.available_sublist.subset (visible_subset photo hp)
  exact List.inj_on_of_nodup_map h.collected.distinct (hmem a ha) (hmem b hb) hid

/-- A summary shows every photo of the current set that is not rejected. -/
theorem filter_visible {status : TechnicalStatus} (hstatus : status ≠ .rejected) :
    document.visible.filter (fun photo => photo.technicalStatus = status) =
      document.available.filter fun photo => photo.technicalStatus = status := by
  by_cases ha : document.assessment = .accepted
  · rw [visible_of_accepted ha, ready, List.filter_filter]
    apply List.filter_congr
    intro photo hp
    have hfinished := h.finished ha photo (document.available_sublist.subset hp)
    cases status with
    | processing => simp [hfinished]
    | ready => simp
    | rejected => exact absurd rfl hstatus
  · rw [visible_of_not_accepted ha, List.take_append, List.take_of_length_le h.length_active,
      List.filter_append]
    have hnone : (document.rejectedShown.take (maxPhotos - document.active.length)).filter
        (fun photo => photo.technicalStatus = status) = [] := by
      rw [List.filter_eq_nil_iff]
      intro photo hp
      rw [(mem_rejectedShown (List.mem_of_mem_take hp)).2]
      simpa using hstatus.symm
    rw [hnone, List.append_nil, active_eq, List.filter_filter]
    apply List.filter_congr
    intro photo _
    by_cases hs : photo.technicalStatus = status
    · simp [hs, hstatus]
    · simp [hs]

end Kept
end EvidenceDocument
end CSO.HumanOperations
