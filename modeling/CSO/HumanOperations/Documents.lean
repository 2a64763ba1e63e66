import CSO.HumanOperations.Machine

/-! What every document of a collection satisfies, and how the operations keep it. -/
namespace CSO.HumanOperations

section Counting
variable {α : Type} {p : α → Bool} {g : α → α} {l : List α}

theorem countP_le_map (hmono : ∀ a ∈ l, p a = true → p (g a) = true) :
    l.countP p ≤ (l.map g).countP p := by
  rw [List.countP_map]
  exact List.countP_mono_left hmono

theorem countP_lt_map {a : α} (hmono : ∀ a ∈ l, p a = true → p (g a) = true) (ha : a ∈ l)
    (hn : p a = false) (hg : p (g a) = true) : l.countP p < (l.map g).countP p := by
  induction l with
  | nil => cases ha
  | cons b l ih =>
    have hrest : ∀ a ∈ l, p a = true → p (g a) = true :=
      fun a ha => hmono a (List.mem_cons_of_mem b ha)
    have hle := countP_le_map hrest
    rw [List.map_cons, List.countP_cons, List.countP_cons]
    rcases List.mem_cons.mp ha with rfl | ha
    · simp only [hn, hg, Bool.false_eq_true, if_true, if_false]
      omega
    · have hlt := ih hrest ha
      by_cases hb : p b = true
      · simp only [hb, hmono b List.mem_cons_self hb, if_true]
        omega
      · simp only [hb, Bool.false_eq_true, if_false]
        omega

end Counting

namespace StoredPhoto

/-- What is recorded of a photo in each of its states. -/
structure Valid (photo : StoredPhoto) : Prop where
  uuid : JS.isUuid photo.evidenceId = true
  instant : ∃ t, JS.Date.FourDigitYear t ∧ JS.Date.toISOString t = some photo.uploadedAt
  size : photo.byteSize ≤ maxSetBytes
  ready : photo.technicalStatus = .ready → photo.contentType.isSome = true ∧ 1 ≤ photo.byteSize ∧
    (∃ w, photo.width = some w ∧ 1 ≤ w ∧ w ≤ 65535) ∧
      ∃ h, photo.height = some h ∧ 1 ≤ h ∧ h ≤ 65535
  plain : photo.technicalStatus ≠ .ready → photo.width = none ∧ photo.height = none
  rejected : photo.technicalStatus = .rejected ↔ photo.rejectionCode.isSome = true

/-- How a photo may change: only its validation ends, once, and it only leaves the set. -/
structure Ages (photo photo' : StoredPhoto) : Prop where
  id : photo'.evidenceId = photo.evidenceId
  valid : photo.Valid → photo'.Valid
  settled : photo.technicalStatus ≠ .processing → photo'.technicalStatus = photo.technicalStatus
  purged : photo.purged = true → photo'.purged = true
  superseded : photo.superseded = true → photo'.superseded = true

variable {photo photo' photo'' : StoredPhoto}

theorem Ages.refl (photo : StoredPhoto) : photo.Ages photo :=
  ⟨rfl, fun h => h, fun _ => rfl, fun h => h, fun h => h⟩

theorem Ages.trans (h : photo.Ages photo') (h' : photo'.Ages photo'') : photo.Ages photo'' where
  id := h'.id.trans h.id
  valid := h'.valid ∘ h.valid
  settled hs := by
    have hs' := h.settled hs
    rw [← hs'] at hs ⊢
    exact h'.settled hs
  purged := h'.purged ∘ h.purged
  superseded := h'.superseded ∘ h.superseded

theorem Ages.active (h : photo.Ages photo') (ha : photo'.active = true) : photo.active = true := by
  simp only [StoredPhoto.active, StoredPhoto.available, Bool.and_eq_true, decide_eq_true_eq,
    Bool.not_eq_true'] at ha ⊢
  obtain ⟨hstatus, hpurged, hsuperseded⟩ := ha
  refine ⟨?_, ?_, ?_⟩
  · intro hr
    apply hstatus
    rw [h.settled (by rw [hr]; decide), hr]
  · by_contra hp
    rw [h.purged (by simpa using hp)] at hpurged
    cases hpurged
  · by_contra hs
    rw [h.superseded (by simpa using hs)] at hsuperseded
    cases hsuperseded

theorem ages_reject (hstatus : photo.technicalStatus = .processing) (code : RejectionCode) :
    photo.Ages (photo.reject code) where
  id := rfl
  valid h := by
    have hplain := h.plain (by rw [hstatus]; decide)
    have hready : (photo.reject code).technicalStatus ≠ .ready := by simp [reject]
    exact ⟨h.uuid, h.instant, h.size, fun hr => absurd hr hready, fun _ => hplain, by simp [reject]⟩
  settled hs := absurd hstatus hs
  purged h := h
  superseded h := h

theorem ages_accept (hstatus : photo.technicalStatus = .processing) {normalized : NormalizedPhoto}
    (hsize : normalized.byteSize ≤ maxSetBytes) : photo.Ages (photo.accept normalized) where
  id := rfl
  valid h := by
    have hcode : photo.rejectionCode.isSome = false := by
      have hr := h.rejected
      rw [hstatus] at hr
      simpa using hr
    refine ⟨h.uuid, h.instant, hsize, fun _ => ⟨rfl, normalized.sizePositive,
      ⟨_, rfl, normalized.widthBounds⟩, ⟨_, rfl, normalized.heightBounds⟩⟩,
      fun hn => absurd rfl hn, ?_⟩
    simp [accept, hcode]
  settled hs := absurd hstatus hs
  purged h := h
  superseded h := h

theorem ages_settle (hstatus : photo.technicalStatus = .processing) {result : UploadResult}
    (hsize : ∀ normalized, result = .normalized normalized → normalized.byteSize ≤ maxSetBytes) :
    photo.Ages (photo.settle result) := by
  cases result with
  | normalized normalized => exact ages_accept hstatus (hsize normalized rfl)
  | rejected code => exact ages_reject hstatus code

theorem settle_superseded (photo : StoredPhoto) (result : UploadResult) :
    (photo.settle result).superseded = photo.superseded := by
  cases result <;> rfl

@[simp] theorem recover_superseded (photo : StoredPhoto) (now : ℤ) :
    (photo.recover now).superseded = photo.superseded := by
  unfold recover
  split_ifs <;> rfl

@[simp] theorem recover_purged (photo : StoredPhoto) (now : ℤ) :
    (photo.recover now).purged = photo.purged := by
  unfold recover
  split_ifs <;> rfl

theorem recover_of_settled (hstatus : photo.technicalStatus ≠ .processing) (now : ℤ) :
    photo.recover now = photo := by
  simp [recover, stale, hstatus]

theorem ages_recover (photo : StoredPhoto) (now : ℤ) : photo.Ages (photo.recover now) := by
  unfold recover
  by_cases hs : photo.stale now = true
  · rw [if_pos hs]
    apply ages_reject
    simp only [stale, Bool.and_eq_true, decide_eq_true_eq] at hs
    exact hs.1
  · rw [if_neg hs]
    exact Ages.refl photo

theorem ages_purge (options : PurgeOptions) (expired : Bool) (photo : StoredPhoto) :
    photo.Ages (options.purgePhoto expired photo) := by
  have hrecover := photo.ages_recover options.now
  simp only [PurgeOptions.purgePhoto]
  split_ifs
  · exact ⟨hrecover.id, fun h => by
      obtain ⟨hu, hi, hs, hr, hp, hj⟩ := hrecover.valid h
      exact ⟨hu, hi, hs, hr, hp, hj⟩, hrecover.settled, fun _ => rfl, hrecover.superseded⟩
  · exact hrecover

theorem purge_superseded (options : PurgeOptions) (expired : Bool) (photo : StoredPhoto) :
    (options.purgePhoto expired photo).superseded = photo.superseded := by
  simp only [PurgeOptions.purgePhoto]
  split_ifs <;> simp

/-- Before the retention is over, only rejected photos are removed. -/
theorem purge_fixed {options : PurgeOptions} (hstatus : photo.technicalStatus = .ready) :
    options.purgePhoto false photo = photo := by
  have hsettled : photo.technicalStatus ≠ .processing := by rw [hstatus]; decide
  simp [PurgeOptions.purgePhoto, recover_of_settled hsettled, PurgeOptions.removes, leftover, hstatus]

/-- With its expired case every photo goes. -/
theorem purge_expired (photo : StoredPhoto) (options : PurgeOptions) :
    (options.purgePhoto true photo).purged = true := by
  simp only [PurgeOptions.purgePhoto, PurgeOptions.removes, recover_purged, Bool.and_true]
  split_ifs with h
  · rfl
  · rw [recover_purged]
    by_contra hpurged
    simp [hpurged] at h

theorem ages_supersede (photo : StoredPhoto) :
    photo.Ages (if photo.available then { photo with superseded := true } else photo) := by
  split_ifs
  · exact ⟨rfl, fun h => ⟨h.uuid, h.instant, h.size, h.ready, h.plain, h.rejected⟩, fun _ => rfl,
      fun h => h, fun _ => rfl⟩
  · exact Ages.refl photo

end StoredPhoto

/-- The photos of a collection: few, distinct and valid, and none left behind in validation. -/
structure Collected (photos : List StoredPhoto) : Prop where
  distinct : (photos.map fun photo => photo.evidenceId).Nodup
  valid : ∀ photo ∈ photos, photo.Valid
  fits : photos.countP StoredPhoto.active ≤ maxPhotos
  attempts : photos.length ≤ maxUploadAttempts
  settled : ∀ photo ∈ photos, photo.superseded = true → photo.technicalStatus ≠ .processing

namespace Collected
variable {photos : List StoredPhoto} {g : StoredPhoto → StoredPhoto}

theorem map (h : Collected photos) (hg : ∀ photo ∈ photos, photo.Ages (g photo))
    (hs : ∀ photo ∈ photos, (g photo).superseded = true → photo.technicalStatus ≠ .processing) :
    Collected (photos.map g) where
  distinct := by
    have hids : (photos.map g).map (fun photo => photo.evidenceId) =
        photos.map fun photo => photo.evidenceId := by
      rw [List.map_map]
      exact List.map_congr_left fun photo hp => (hg photo hp).id
    rw [hids]
    exact h.distinct
  valid _ hmem := by
    obtain ⟨photo, hp, rfl⟩ := List.mem_map.mp hmem
    exact (hg photo hp).valid (h.valid photo hp)
  fits := by
    rw [List.countP_map]
    exact le_trans (List.countP_mono_left fun photo hp => (hg photo hp).active) h.fits
  attempts := by
    rw [List.length_map]
    exact h.attempts
  settled _ hmem hsuperseded := by
    obtain ⟨photo, hp, rfl⟩ := List.mem_map.mp hmem
    have hstatus := hs photo hp hsuperseded
    rw [(hg photo hp).settled hstatus]
    exact hstatus

theorem append (h : Collected photos) {photo : StoredPhoto}
    (hid : ∀ other ∈ photos, other.evidenceId ≠ photo.evidenceId) (hvalid : photo.Valid)
    (hfits : photos.countP StoredPhoto.active < maxPhotos) (hattempts : photos.length < maxUploadAttempts)
    (hnew : photo.superseded = false) : Collected (photos ++ [photo]) where
  distinct := by
    rw [List.map_append, List.nodup_append]
    refine ⟨h.distinct, List.nodup_singleton _, ?_⟩
    rintro _ hid₁ _ hid₂ rfl
    obtain ⟨other, hother, heq⟩ := List.mem_map.mp hid₁
    rw [List.map_singleton, List.mem_singleton] at hid₂
    exact hid other hother (heq.trans hid₂)
  valid other hother := by
    rcases List.mem_append.mp hother with hother | hother
    · exact h.valid other hother
    · rw [List.mem_singleton.mp hother]
      exact hvalid
  fits := by
    have hone : [photo].countP StoredPhoto.active ≤ 1 := List.countP_le_length
    rw [List.countP_append]
    omega
  attempts := by
    rw [List.length_append, List.length_singleton]
    omega
  settled other hother hs := by
    rcases List.mem_append.mp hother with hother | hother
    · exact h.settled other hother hs
    · rw [List.mem_singleton.mp hother, hnew] at hs
      cases hs

/-- Where nothing is superseded on the way. -/
theorem age (h : Collected photos) (hg : ∀ photo ∈ photos, photo.Ages (g photo))
    (hs : ∀ photo ∈ photos, (g photo).superseded = photo.superseded) : Collected (photos.map g) :=
  h.map hg fun photo hp hsuperseded => h.settled photo hp (hs photo hp ▸ hsuperseded)

end Collected

namespace EvidenceDocument

/-- A bound of the revision: what every revision uses up one of. -/
def effort (document : EvidenceDocument) : ℕ :=
  document.attachments.length +
    document.attachments.countP (fun photo => photo.technicalStatus ≠ .processing) +
    document.attachments.countP (fun photo => photo.purged) + document.reviewKeys.length +
    document.retired.toNat

/-- What holds of every document of a collection. -/
structure Kept (document : EvidenceDocument) : Prop where
  collected : Collected document.attachments
  finished : document.assessment = .accepted →
    ∀ photo ∈ document.attachments, photo.technicalStatus ≠ .processing
  accepted : document.assessment = .accepted → document.retired = false →
    document.ready ≠ [] ∧ document.manifestHash = some (HumanOperations.manifestHash document.available) ∧
      document.assessmentId.isSome = true
  reason : document.assessment = .moreRequired →
    ∃ reason, document.reasonCode = some reason ∧ reason ≠ .damageVisible
  assessed : ∀ id, document.assessmentId = some id → JS.isUuid id = true
  hashed : ∀ hash, document.manifestHash = some hash →
    ∃ photos, hash = HumanOperations.manifestHash photos
  revised : document.attachments ≠ [] ∨ document.assessment ≠ .unreviewed → 1 ≤ document.revision
  removed : document.retired = true → ∀ photo ∈ document.attachments, photo.purged = true
  bounded : document.revision ≤ document.effort
  reviews : document.reviewKeys.length ≤ maxReviews

theorem kept_initial (fingerprint : String) : (initial fingerprint).Kept where
  collected := ⟨List.nodup_nil, by simp [initial], by simp [initial], by simp [initial], by simp [initial]⟩
  finished h := by cases h
  accepted h := by cases h
  reason h := by cases h
  assessed id h := by cases h
  hashed hash h := by cases h
  revised h := by simp [initial] at h
  removed h := by cases h
  bounded := Nat.zero_le _
  reviews := Nat.zero_le _

theorem valid_photo {input : BeginUploadInput} {uuid : JS.Uuid} {now : ℤ} {uploadedAt : String}
    (hnow : JS.Date.FourDigitYear now) (hinstant : JS.Date.toISOString now = some uploadedAt)
    (hsize : input.byteSize ≤ maxSetBytes) : (input.photo uuid.text uploadedAt).Valid where
  uuid := uuid.isUuid
  instant := ⟨now, hnow, hinstant⟩
  size := hsize
  ready h := by cases h
  plain _ := ⟨rfl, rfl⟩
  rejected := by simp [BeginUploadInput.photo]

theorem Kept.reserve {document : EvidenceDocument} (h : document.Kept) {input : BeginUploadInput}
    {uuid : JS.Uuid} {now : ℤ} {uploadedAt : String} (hnow : JS.Date.FourDigitYear now)
    (hinstant : JS.Date.toISOString now = some uploadedAt)
    (hid : ∀ photo ∈ document.attachments, photo.evidenceId ≠ uuid.text)
    (hretired : document.retired = false) (hspace : document.full input.byteSize = false) :
    (document.reserve (input.photo uuid.text uploadedAt)).Kept := by
  simp only [full, active, ← List.countP_eq_length_filter, Bool.or_eq_false_iff,
    decide_eq_false_iff_not, not_le] at hspace
  obtain ⟨⟨hactive, hattempts⟩, hbytes⟩ := hspace
  have hsize : input.byteSize ≤ maxSetBytes := by
    have hlimit := of_decide_eq_false hbytes
    omega
  exact {
    collected := h.collected.append hid (valid_photo hnow hinstant hsize) hactive hattempts rfl
    finished := fun ha => by cases ha
    accepted := fun ha => by cases ha
    reason := fun ha => by cases ha
    assessed := fun id ha => by cases ha
    hashed := fun hash ha => by cases ha
    revised := fun _ => Nat.succ_pos _
    removed := fun hr => by
      rw [EvidenceDocument.reserve, hretired] at hr
      cases hr
    bounded := by
      have hbounded := h.bounded
      simp only [effort, EvidenceDocument.reserve, List.length_append, List.length_singleton,
        List.countP_append] at hbounded ⊢
      omega
    reviews := h.reviews }

theorem effort_le_map (document : EvidenceDocument) {g : StoredPhoto → StoredPhoto}
    (hg : ∀ photo ∈ document.attachments, photo.Ages (g photo)) :
    document.effort ≤ { document with attachments := document.attachments.map g }.effort := by
  have hsettled : document.attachments.countP (fun photo => photo.technicalStatus ≠ .processing) ≤
      (document.attachments.map g).countP fun photo => photo.technicalStatus ≠ .processing := by
    apply countP_le_map
    intro photo hp hstatus
    simp only [decide_eq_true_eq] at hstatus ⊢
    rwa [(hg photo hp).settled hstatus]
  have hpurged := countP_le_map (p := fun photo : StoredPhoto => photo.purged) fun photo hp =>
    (hg photo hp).purged
  simp only [effort, List.length_map]
  omega

/-- A validation that ends uses up one of the settlements. -/
theorem effort_lt_map (document : EvidenceDocument) {g : StoredPhoto → StoredPhoto}
    (hg : ∀ photo ∈ document.attachments, photo.Ages (g photo)) {photo : StoredPhoto}
    (hp : photo ∈ document.attachments) (hstatus : photo.technicalStatus = .processing)
    (hends : (g photo).technicalStatus ≠ .processing) :
    document.effort < { document with attachments := document.attachments.map g }.effort := by
  have hsettled : document.attachments.countP (fun photo => photo.technicalStatus ≠ .processing) <
      (document.attachments.map g).countP fun photo => photo.technicalStatus ≠ .processing := by
    apply countP_lt_map _ hp (by simp [hstatus]) (by simpa using hends)
    intro photo hp hstatus
    simp only [decide_eq_true_eq] at hstatus ⊢
    rwa [(hg photo hp).settled hstatus]
  have hpurged := countP_le_map (p := fun photo : StoredPhoto => photo.purged) fun photo hp =>
    (hg photo hp).purged
  simp only [effort, List.length_map]
  omega

/-- A photo whose validation comes to an end. -/
theorem Kept.settle {document : EvidenceDocument} (h : document.Kept)
    {g : StoredPhoto → StoredPhoto} (hg : ∀ photo ∈ document.attachments, photo.Ages (g photo))
    (hsuperseded : ∀ photo ∈ document.attachments, (g photo).superseded = photo.superseded)
    {photo : StoredPhoto} (hp : photo ∈ document.attachments)
    (hstatus : photo.technicalStatus = .processing) (hends : (g photo).technicalStatus ≠ .processing) :
    { document with
      attachments := document.attachments.map g
      revision := document.revision + 1 }.Kept where
  collected := h.collected.age hg hsuperseded
  finished ha := absurd hstatus (h.finished ha photo hp)
  accepted ha := absurd hstatus (h.finished ha photo hp)
  reason := h.reason
  assessed := h.assessed
  hashed := h.hashed
  revised _ := Nat.succ_pos _
  removed hr _ hmem := by
    obtain ⟨photo, hp, rfl⟩ := List.mem_map.mp hmem
    exact (hg photo hp).purged (h.removed hr photo hp)
  bounded := lt_of_le_of_lt h.bounded (document.effort_lt_map hg hp hstatus hends)
  reviews := h.reviews

theorem uploadResult_size {record : EvidenceRecord} {evidenceId : String} {result : UploadResult}
    {normalized : NormalizedPhoto}
    (h : record.uploadResult evidenceId result = .normalized normalized) :
    normalized.byteSize ≤ maxSetBytes := by
  unfold EvidenceRecord.uploadResult at h
  generalize (if record.case.status = .closed ∨ record.document.retired then
    .rejected .validationUnavailable else result : UploadResult) = limited at h
  cases limited with
  | rejected code => cases h
  | normalized photo =>
    simp only at h
    split_ifs at h with hlimit
    cases h
    omega

theorem Kept.finish {record : EvidenceRecord} (h : record.document.Kept) {photo : StoredPhoto}
    (hp : photo ∈ record.document.attachments) (hstatus : photo.technicalStatus = .processing)
    (result : UploadResult) :
    (record.document.finish photo.evidenceId (record.uploadResult photo.evidenceId result)).Kept := by
  have hsame : ∀ other ∈ record.document.attachments, other.evidenceId = photo.evidenceId →
      other = photo := by
    intro other ho hid
    exact List.inj_on_of_nodup_map h.collected.distinct ho hp hid
  apply h.settle _ _ hp hstatus
  · rw [if_pos rfl]
    cases record.uploadResult photo.evidenceId result <;>
      simp [StoredPhoto.settle, StoredPhoto.accept, StoredPhoto.reject]
  · intro other ho
    by_cases hid : other.evidenceId = photo.evidenceId
    · rw [if_pos hid, hsame other ho hid]
      exact photo.ages_settle hstatus (fun _ => uploadResult_size)
    · rw [if_neg hid]
      exact StoredPhoto.Ages.refl other
  · intro other ho
    split_ifs
    · exact other.settle_superseded _
    · rfl

theorem Kept.recover {document : EvidenceDocument} (h : document.Kept) {now : ℤ}
    (hstale : document.attachments.any (StoredPhoto.stale · now) = true) :
    (document.recover now).Kept := by
  obtain ⟨photo, hp, hphoto⟩ := List.any_eq_true.mp hstale
  have hstatus : photo.technicalStatus = .processing := by
    simp only [StoredPhoto.stale, Bool.and_eq_true, decide_eq_true_eq] at hphoto
    exact hphoto.1
  apply h.settle (fun photo _ => photo.ages_recover now) _ hp hstatus
  · rw [StoredPhoto.recover, if_pos hphoto]
    simp [StoredPhoto.reject]
  · intro other _
    unfold StoredPhoto.recover
    split_ifs <;> rfl

/-- The manifest is of the ready photos only. -/
theorem manifestHash_congr {document document' : EvidenceDocument}
    (h : document'.ready = document.ready) :
    HumanOperations.manifestHash document'.available = HumanOperations.manifestHash document.available := by
  unfold ready at h
  simp only [HumanOperations.manifestHash, h]

theorem manifestHash_ready (document : EvidenceDocument) :
    HumanOperations.manifestHash document.ready = HumanOperations.manifestHash document.available := by
  simp only [HumanOperations.manifestHash, ready, List.filter_filter, Bool.and_self]

theorem ready_eq (document : EvidenceDocument) : document.ready =
    document.attachments.filter fun photo => photo.technicalStatus = .ready && photo.available := by
  rw [ready, available, List.filter_filter]

theorem ready_purge (document : EvidenceDocument) (options : PurgeOptions)
    (hfinished : ∀ photo ∈ document.attachments, photo.technicalStatus ≠ .processing) :
    (options.purgeDocument false document).ready = document.ready := by
  have hready : ∀ photo ∈ document.attachments,
      (decide ((options.purgePhoto false photo).technicalStatus = .ready) &&
        (options.purgePhoto false photo).available) =
      (decide (photo.technicalStatus = .ready) && photo.available) := by
    intro photo hp
    by_cases hstatus : photo.technicalStatus = .ready
    · rw [StoredPhoto.purge_fixed hstatus]
    · rw [(photo.ages_purge options false).settled (hfinished photo hp)]
      simp [hstatus]
  rw [ready_eq, ready_eq]
  simp only [PurgeOptions.purgeDocument, List.filter_map, Function.comp_def]
  rw [List.filter_congr hready]
  conv_rhs => rw [← List.map_id (List.filter _ _)]
  apply List.map_congr_left
  intro photo hp
  simp only [List.mem_filter, Bool.and_eq_true, decide_eq_true_eq] at hp
  exact StoredPhoto.purge_fixed hp.2.1

/-- A change that a purge makes uses up one of the removals, settlements or the retirement. -/
theorem effort_lt_purge {document : EvidenceDocument} {options : PurgeOptions} {expired : Bool}
    (hchanges : options.changes expired document = true) :
    document.effort < (options.purgeDocument expired document).effort := by
  have hages : ∀ photo ∈ document.attachments, photo.Ages (options.purgePhoto expired photo) :=
    fun photo _ => photo.ages_purge options expired
  have hretired : document.retired.toNat ≤ (document.retired || expired).toNat := by
    cases document.retired <;> simp
  have hmap : { document with
      attachments := document.attachments.map (options.purgePhoto expired) }.effort ≤
      (options.purgeDocument expired document).effort := by
    simp only [effort, PurgeOptions.purgeDocument]
    omega
  simp only [PurgeOptions.changes, Bool.or_eq_true, Bool.and_eq_true, Bool.not_eq_true',
    List.any_eq_true] at hchanges
  rcases hchanges with ⟨hexpired, hnot⟩ | ⟨photo, hp, hstale | hremoves⟩
  · have hle := document.effort_le_map hages
    have hlt : document.retired.toNat < (document.retired || expired).toNat := by
      rw [hnot, hexpired]
      decide
    simp only [effort, PurgeOptions.purgeDocument] at hle ⊢
    omega
  · have hrejected : (photo.recover options.now).technicalStatus ≠ .processing := by
      rw [StoredPhoto.recover, if_pos hstale]
      simp [StoredPhoto.reject]
    simp only [StoredPhoto.stale, Bool.and_eq_true, decide_eq_true_eq] at hstale
    apply lt_of_lt_of_le (document.effort_lt_map hages hp hstale.1 _) hmap
    simp only [PurgeOptions.purgePhoto]
    split_ifs <;> exact hrejected
  · have hpurged : photo.purged = false := by
      simp only [PurgeOptions.removes, StoredPhoto.leftover, StoredPhoto.recover_purged,
        Bool.or_eq_true, Bool.and_eq_true, Bool.not_eq_true'] at hremoves
      rcases hremoves with ⟨hnot, -⟩ | ⟨⟨-, hnot⟩, -⟩ <;> exact hnot
    have hlt := countP_lt_map (p := fun photo : StoredPhoto => photo.purged)
      (fun photo hp => (hages photo hp).purged) hp hpurged
      (by simp only [PurgeOptions.purgePhoto, if_pos hremoves])
    have hsettled := countP_le_map (p := fun photo : StoredPhoto =>
      decide (photo.technicalStatus ≠ .processing)) (g := options.purgePhoto expired)
      (l := document.attachments) (by
        intro photo hp hstatus
        simp only [decide_eq_true_eq] at hstatus ⊢
        rwa [(hages photo hp).settled hstatus])
    simp only [effort, PurgeOptions.purgeDocument, List.length_map]
    omega

theorem Kept.purge {document : EvidenceDocument} (h : document.Kept) {options : PurgeOptions}
    {expired : Bool} (hchanges : options.changes expired document = true) :
    (options.purgeDocument expired document).Kept where
  collected := h.collected.age (fun photo _ => photo.ages_purge options expired)
    fun photo _ => photo.purge_superseded options expired
  finished ha _ hmem := by
    obtain ⟨photo, hp, rfl⟩ := List.mem_map.mp hmem
    have hsettled := h.finished ha photo hp
    rw [(photo.ages_purge options expired).settled hsettled]
    exact hsettled
  accepted ha hretired := by
    obtain ⟨hr, rfl⟩ := Bool.or_eq_false_iff.mp hretired
    have hready := document.ready_purge options (h.finished ha)
    rw [hready, manifestHash_congr hready]
    exact h.accepted ha hr
  reason := h.reason
  assessed := h.assessed
  hashed := h.hashed
  revised hr := by
    have hrevision : document.revision ≤ (options.purgeDocument expired document).revision := by
      simp only [PurgeOptions.purgeDocument]
      split_ifs <;> omega
    refine le_trans (h.revised ?_) hrevision
    rcases hr with hr | hr
    · exact Or.inl fun hnil => hr (by simp [PurgeOptions.purgeDocument, hnil])
    · exact Or.inr hr
  removed hr _ hmem := by
    obtain ⟨photo, hp, rfl⟩ := List.mem_map.mp hmem
    rcases Bool.or_eq_true_iff.mp hr with hr | rfl
    · exact (photo.ages_purge options expired).purged (h.removed hr photo hp)
    · exact photo.purge_expired options
  bounded := by
    have hstep := effort_lt_purge hchanges
    have hbounded := h.bounded
    have hrevision : (options.purgeDocument expired document).revision ≤ document.revision + 1 := by
      simp only [PurgeOptions.purgeDocument]
      split_ifs <;> omega
    omega
  reviews := h.reviews

theorem Kept.review {record : EvidenceRecord} (h : record.document.Kept) {access : HumanAccess}
    (hright : canReviewEvidence access record = true)
    (hreviews : record.document.reviewKeys.length < maxReviews) (command : EvidenceReview)
    (uuid : JS.Uuid) (key fingerprint : String) :
    (record.document.review command uuid.text key fingerprint).Kept := by
  simp only [canReviewEvidence, Bool.and_eq_true, Bool.not_eq_true', List.any_eq_true,
    List.any_eq_false, decide_eq_true_eq] at hright
  obtain ⟨⟨-, photo, hp, hready, havailable⟩, hprocessing⟩ := hright
  have hfinished : ∀ photo ∈ record.document.attachments, photo.technicalStatus ≠ .processing := by
    intro photo hp hstatus
    have hs : photo.superseded = true := by simpa [hstatus] using hprocessing photo hp
    exact h.collected.settled photo hp hs hstatus
  have hrevised := h.revised (Or.inl (List.ne_nil_of_mem hp))
  have hbounded := h.bounded
  have hages : ∀ photo ∈ record.document.attachments,
      photo.Ages (if photo.available then { photo with superseded := true } else photo) :=
    fun photo _ => photo.ages_supersede
  unfold EvidenceDocument.review
  cases haction : command.action with
  | acceptEvidence => exact {
      collected := h.collected
      finished := fun _ => hfinished
      accepted := fun _ _ => by
        refine ⟨?_, rfl, rfl⟩
        rw [ready_eq]
        exact List.ne_nil_of_mem (List.mem_filter.mpr ⟨hp, by simp [hready, havailable]⟩)
      reason := fun ha => by cases ha
      assessed := fun id ha => by
        cases ha
        exact uuid.isUuid
      hashed := fun hash ha => by
        cases ha
        exact ⟨_, rfl⟩
      revised := fun _ => hrevised
      removed := h.removed
      bounded := by
        simp only [effort, List.length_cons] at hbounded ⊢
        omega
      reviews := hreviews }
  | requestMoreEvidence => exact {
      collected := h.collected.map hages fun photo hp _ => hfinished photo hp
      finished := fun ha => by cases ha
      accepted := fun ha => by cases ha
      reason := fun _ => ⟨command.reasonCode, rfl, fun hreason => by
        have hmatches := command.reasonMatches.mpr hreason
        rw [haction] at hmatches
        cases hmatches⟩
      assessed := fun id ha => by
        cases ha
        exact uuid.isUuid
      hashed := fun hash ha => by cases ha
      revised := fun _ => Nat.succ_pos _
      removed := fun hr _ hmem => by
        obtain ⟨photo, hp, rfl⟩ := List.mem_map.mp hmem
        exact (hages photo hp).purged (h.removed hr photo hp)
      bounded := by
        have heffort := record.document.effort_le_map hages
        simp only [effort, List.length_cons] at hbounded heffort ⊢
        omega
      reviews := hreviews }

end EvidenceDocument

theorem EvidenceRecord.Next.kept {record : EvidenceRecord} {document : EvidenceDocument}
    (hn : record.Next document) (h : record.document.Kept) : document.Kept := by
  cases hn with
  | reserved input uuid now uploadedAt hnow hinstant hid hopen hspace =>
    simp only [EvidenceRecord.frozen, Bool.or_eq_false_iff] at hopen
    exact h.reserve hnow hinstant hid hopen.1.1.2 hspace
  | finished photo result hphoto hstatus => exact h.finish hphoto hstatus result
  | reviewed access command uuid key fingerprint hright hreviews =>
    exact h.review hright hreviews command uuid key fingerprint
  | recovered now hstale => exact h.recover hstale
  | purged options hchanges => exact h.purge hchanges

/-- The document of a case, if it has one, is kept well. -/
def Dossier.Kept (d : Dossier) : Prop := ∀ row, d.evidence = some row → row.document.Kept

theorem Dossier.kept_invariant : Dossier.Invariant Dossier.Kept where
  opened d h := by
    cases h with
    | case input uuid now =>
      intro row hrow
      cases hrow
    | collection input uuid now =>
      intro row hrow
      cases hrow
      exact EvidenceDocument.kept_initial _
  next d d' h hn := by
    cases hn with
    | closed workflowId details now hopen => exact h
    | assigned staffId details now hopen => exact h
    | decided event hstatus hassigned hallowed hcase hworkflow => exact h
    | delivered eventId => exact h
    | saved row hrow document hnext event actorType actorId details now hevent =>
      intro row' hrow'
      obtain ⟨other, hother, rfl⟩ := Option.map_eq_some_iff.mp hrow'
      exact hnext.kept (h _ hrow)
    | transitioned row hrow input now haccepted hretired htype hopen =>
      intro row' hrow'
      obtain ⟨other, hother, rfl⟩ := Option.map_eq_some_iff.mp hrow'
      have hkept := h row hrow
      exact ⟨hkept.collected, hkept.finished, hkept.accepted, hkept.reason, hkept.assessed,
        hkept.hashed, hkept.revised, hkept.removed, hkept.bounded, hkept.reviews⟩

/-- What binds a collection, and names its case, is not empty. -/
def EvidenceRecord.Named (record : EvidenceRecord) : Prop :=
  record.case.caseId ≠ "" ∧ record.binding.orderId ≠ "" ∧ record.binding.proposalId ≠ "" ∧
    record.binding.policyVersion ≠ "" ∧ ∀ id ∈ record.binding.selectedItemIds, id ≠ ""

def Dossier.Named (d : Dossier) : Prop := ∀ row, d.evidence = some row → (row.record d.case).Named

theorem Dossier.named_invariant : Dossier.Invariant Dossier.Named where
  opened d h := by
    cases h with
    | case input uuid now =>
      intro row hrow
      cases hrow
    | collection input uuid now =>
      intro row hrow
      cases hrow
      have hids : ∀ id ∈ input.orderId :: input.proposalId :: input.policyVersion ::
          input.selectedItemIds, id ≠ "" :=
        fun id hid => JS.ne_empty_of_isIdentifier (input.idsAccepted id hid)
      simp only [List.forall_mem_cons] at hids
      exact ⟨by simp [EvidenceRow.record, Dossier.log, EnsureEvidenceInput.caseRow], hids.1,
        hids.2.1, hids.2.2.1, hids.2.2.2⟩
  next d d' h hn := by
    cases hn with
    | closed workflowId details now hopen => exact h
    | assigned staffId details now hopen => exact h
    | decided event hstatus hassigned hallowed hcase hworkflow => exact h
    | delivered eventId => exact h
    | saved row hrow document hnext event actorType actorId details now hevent =>
      intro row' hrow'
      obtain ⟨other, hother, rfl⟩ := Option.map_eq_some_iff.mp hrow'
      exact h other hother
    | transitioned row hrow input now haccepted hretired htype hopen =>
      intro row' hrow'
      obtain ⟨other, hother, rfl⟩ := Option.map_eq_some_iff.mp hrow'
      exact h other hother

theorem stored_kept {db : Database} (h : database.Reachable Database.IsEmpty db) {scope : Scope}
    {workflowId : String} {record : EvidenceRecord}
    (hrecord : (db scope).stored workflowId = some record) :
    record.document.Kept ∧ record.Named := by
  obtain ⟨row, d, hd, he, -, rfl⟩ := stored_eq_some.mp hrecord
  have hinvariant := Dossier.kept_invariant.and Dossier.named_invariant
  obtain ⟨hkept, hnamed⟩ := hinvariant.reachable (database_reachable h) hd
  exact ⟨hkept row he, hnamed row he⟩
end CSO.HumanOperations
