import CSO.HumanOperations.Documents

/-! The limits of a collection, and the flag that says whether another photo may come. -/
namespace CSO.HumanOperations
open Transition (transaction throwIf required)
open Work

/-- What a photo counts against the size of the set. -/
def StoredPhoto.held (photo : StoredPhoto) : ℕ := if photo.active then photo.byteSize else 0

section Sizes
variable {photos : List StoredPhoto} {g : StoredPhoto → StoredPhoto} {photo : StoredPhoto}

theorem totalBytes_active (photos : List StoredPhoto) :
    totalBytes (photos.filter StoredPhoto.active) = (photos.map StoredPhoto.held).sum := by
  induction photos with
  | nil => rfl
  | cons photo photos ih =>
    rw [List.filter_cons, List.map_cons, List.sum_cons, ← ih, StoredPhoto.held]
    by_cases ha : photo.active = true
    · rw [if_pos ha, if_pos ha, totalBytes, totalBytes, List.map_cons, List.sum_cons]
    · rw [if_neg ha, if_neg ha, zero_add]

theorem held_le (hages : photo.Ages (g photo)) (hsize : (g photo).byteSize = photo.byteSize) :
    (g photo).held ≤ photo.held := by
  unfold StoredPhoto.held
  by_cases ha : (g photo).active = true
  · rw [if_pos ha, if_pos (hages.active ha), hsize]
  · rw [if_neg ha]
    exact Nat.zero_le _

/-- Photos that keep their sizes do not take more. -/
theorem totalBytes_map_le (hages : ∀ photo ∈ photos, photo.Ages (g photo))
    (hsize : ∀ photo ∈ photos, (g photo).byteSize = photo.byteSize) :
    totalBytes ((photos.map g).filter StoredPhoto.active) ≤
      totalBytes (photos.filter StoredPhoto.active) := by
  rw [totalBytes_active, totalBytes_active, List.map_map]
  exact List.sum_le_sum fun photo hp => held_le (hages photo hp) (hsize photo hp)

/-- One photo among others takes its new size at most. -/
theorem totalBytes_settle_le (evidenceId : String) {result : UploadResult} {n : ℕ}
    (hdistinct : (photos.map fun photo => photo.evidenceId).Nodup)
    (hresult : ∀ photo : StoredPhoto, (photo.settle result).held ≤ n) :
    totalBytes ((photos.map fun photo =>
        if photo.evidenceId = evidenceId then photo.settle result else photo).filter
          StoredPhoto.active) ≤
      totalBytes ((photos.filter StoredPhoto.active).filter fun photo =>
        photo.evidenceId ≠ evidenceId) + n := by
  rw [totalBytes_active]
  induction photos with
  | nil => exact Nat.zero_le _
  | cons photo photos ih =>
    rw [List.map_cons, List.nodup_cons] at hdistinct
    rw [List.map_cons, List.map_cons, List.sum_cons]
    by_cases hid : photo.evidenceId = evidenceId
    · -- No other photo has the identifier.
      have hothers : ∀ other ∈ photos, other.evidenceId ≠ evidenceId := by
        intro other ho heq
        exact hdistinct.1 (List.mem_map.mpr ⟨other, ho, heq.trans hid.symm⟩)
      have hkept : photos.map (fun photo => if photo.evidenceId = evidenceId then
          photo.settle result else photo) = photos := by
        conv_rhs => rw [← List.map_id photos]
        exact List.map_congr_left fun other ho => if_neg (hothers other ho)
      have hfilter : (photos.filter StoredPhoto.active).filter (fun photo =>
          photo.evidenceId ≠ evidenceId) = photos.filter StoredPhoto.active := by
        apply List.filter_eq_self.mpr
        intro other ho
        simpa using hothers other (List.mem_of_mem_filter ho)
      have hhead : ((photo :: photos).filter StoredPhoto.active).filter (fun photo =>
          photo.evidenceId ≠ evidenceId) = photos.filter StoredPhoto.active := by
        rw [List.filter_cons]
        split_ifs
        · rw [List.filter_cons, if_neg (by simpa using hid), hfilter]
        · exact hfilter
      rw [if_pos hid, hkept, hhead, totalBytes_active]
      have hle := hresult photo
      omega
    · have hle := ih hdistinct.2
      have hhead : totalBytes (((photo :: photos).filter StoredPhoto.active).filter fun photo =>
          photo.evidenceId ≠ evidenceId) = photo.held +
            totalBytes ((photos.filter StoredPhoto.active).filter fun photo =>
              photo.evidenceId ≠ evidenceId) := by
        rw [List.filter_cons, StoredPhoto.held]
        by_cases ha : photo.active = true
        · rw [if_pos ha, if_pos ha, List.filter_cons, if_pos (by simpa using hid), totalBytes,
            List.map_cons, List.sum_cons]
          rfl
        · rw [if_neg ha, if_neg ha, zero_add]
      rw [if_neg hid, hhead]
      omega

end Sizes

/-- The current set fits. -/
def EvidenceDocument.Fits (document : EvidenceDocument) : Prop :=
  totalBytes document.active ≤ maxSetBytes

theorem fits_finish {record : EvidenceRecord} (h : record.document.Kept)
    (hfits : record.document.Fits) (evidenceId : String) (result : UploadResult) :
    (record.document.finish evidenceId (record.uploadResult evidenceId result)).Fits := by
  have hothers : totalBytes (record.document.active.filter fun photo =>
      photo.evidenceId ≠ evidenceId) ≤ totalBytes record.document.active :=
    List.Sublist.sum_le_sum (List.filter_sublist.map _) fun _ _ => Nat.zero_le _
  cases hresult : record.uploadResult evidenceId result with
  | rejected code =>
    have hnone : ∀ photo : StoredPhoto, (photo.settle (.rejected code)).held ≤ 0 := by
      intro photo
      simp [StoredPhoto.held, StoredPhoto.settle, StoredPhoto.reject, StoredPhoto.active]
    have hle := totalBytes_settle_le evidenceId h.collected.distinct hnone
    exact hle.trans (hothers.trans hfits)
  | normalized normalized =>
    have hsize : ∀ photo : StoredPhoto,
        (photo.settle (.normalized normalized)).held ≤ normalized.byteSize := by
      intro photo
      unfold StoredPhoto.held
      split_ifs
      · exact le_refl _
      · exact Nat.zero_le _
    refine (totalBytes_settle_le evidenceId h.collected.distinct hsize).trans ?_
    -- The guard has compared the others with the new size.
    unfold EvidenceRecord.uploadResult at hresult
    generalize (if record.case.status = .closed ∨ record.document.retired then
      .rejected .validationUnavailable else result : UploadResult) = limited at hresult
    cases limited with
    | rejected code => cases hresult
    | normalized photo =>
      simp only at hresult
      split_ifs at hresult with hlimit
      cases hresult
      exact not_lt.mp hlimit

theorem EvidenceRecord.Next.fits {record : EvidenceRecord} {document : EvidenceDocument}
    (hn : record.Next document) (h : record.document.Kept) (hfits : record.document.Fits) :
    document.Fits := by
  cases hn with
  | reserved input uuid now uploadedAt hnow hinstant hid hopen hspace =>
    simp only [EvidenceDocument.full, Bool.or_eq_false_iff, decide_eq_false_iff_not] at hspace
    have hactive : (record.document.reserve (input.photo uuid.text uploadedAt)).active =
        record.document.active ++ [input.photo uuid.text uploadedAt] := by
      simp [EvidenceDocument.active, EvidenceDocument.reserve, StoredPhoto.active,
        StoredPhoto.available, BeginUploadInput.photo]
    have hlimit := hspace.2
    rw [EvidenceDocument.Fits, hactive, totalBytes, List.map_append, List.sum_append]
    exact not_lt.mp hlimit
  | finished photo result hphoto hstatus => exact fits_finish h hfits photo.evidenceId result
  | reviewed access command uuid key fingerprint hright hreviews =>
    unfold EvidenceDocument.review
    cases command.action with
    | acceptEvidence => exact hfits
    | requestMoreEvidence =>
      refine (totalBytes_map_le (fun photo _ => photo.ages_supersede) fun photo _ => ?_).trans hfits
      split_ifs <;> rfl
  | recovered now hstale =>
    refine (totalBytes_map_le (fun photo _ => photo.ages_recover now) fun photo _ => ?_).trans hfits
    unfold StoredPhoto.recover
    split_ifs <;> rfl
  | purged options hchanges =>
    refine (totalBytes_map_le (fun photo _ => photo.ages_purge options _) fun photo _ => ?_).trans
      hfits
    simp only [PurgeOptions.purgePhoto, StoredPhoto.recover]
    split_ifs <;> rfl

def Dossier.Fits (d : Dossier) : Prop :=
  ∀ row, d.evidence = some row → row.document.Kept ∧ row.document.Fits

theorem Dossier.fits_invariant : Dossier.Invariant Dossier.Fits where
  opened d h := by
    cases h with
    | case input uuid now =>
      intro row hrow
      cases hrow
    | collection input uuid now =>
      intro row hrow
      cases hrow
      exact ⟨EvidenceDocument.kept_initial _, Nat.zero_le _⟩
  next d d' h hn := by
    intro row hrow
    refine ⟨Dossier.kept_invariant.next d d' (fun row hrow => (h row hrow).1) hn row hrow, ?_⟩
    cases hn with
    | closed workflowId details now hopen => exact (h row hrow).2
    | assigned staffId details now hopen => exact (h row hrow).2
    | decided event hstatus hassigned hallowed hcase hworkflow => exact (h row hrow).2
    | delivered eventId => exact (h row hrow).2
    | saved row' hrow' document hnext event actorType actorId details now hevent =>
      obtain ⟨other, hother, rfl⟩ := Option.map_eq_some_iff.mp hrow
      exact hnext.fits (h row' hrow').1 (h row' hrow').2
    | transitioned row' hrow' input now haccepted hretired htype hopen =>
      obtain ⟨other, hother, rfl⟩ := Option.map_eq_some_iff.mp hrow
      exact (h row' hrow').2

/-! What `beginUpload` admits. -/

variable {t : Tables} {workflowId : String} {record : EvidenceRecord}

theorem load_run (h : t.stored workflowId = some record) {subject : Option String}
    (hsubject : ∀ customerId ∈ subject, customerId = record.customerId) :
    (load subject workflowId).run t = .ok record t := by
  simp only [load, Transition.bind_ok, selectRecord_ok, Transition.required_ok,
    Transition.throwIf_ok, Transition.pure_ok]
  refine ⟨some record, t, ⟨h, rfl⟩, record, t, ⟨rfl, rfl⟩, (), t, ⟨?_, rfl⟩, rfl, rfl⟩
  rw [Option.any_eq_true]
  rintro ⟨customerId, hcustomer, hother⟩
  exact absurd (hsubject customerId hcustomer) (by simpa using hother)

theorem appendAudit_run {humanCase : CaseRow}
    (h : (t.cases.find? humanCase.caseId).isSome) (event : CaseEventType)
    (actorType : ActorType) (actorId : String) (details : List (String × String)) (now : ℤ) :
    ∃ u, (appendAudit humanCase event actorType actorId details now).run t = .ok () u := by
  simp only [appendAudit, insertAudit, EStateM.run]
  rw [dif_pos h]
  exact ⟨_, rfl⟩

/-- A document of a stored record can be saved. -/
theorem save_run (hb : t.Bound) (h : t.stored workflowId = some record)
    (document : EvidenceDocument) (event : CaseEventType) (actorType : ActorType)
    (actorId : String) (details : List (String × String)) (now : ℤ) :
    ∃ saved u, (save record document event actorType actorId details now).run t =
      .ok saved u := by
  obtain ⟨row, d, hd, he, -, rfl⟩ := stored_eq_some.mp h
  have hrow := (Tables.mem_of_dossier_evidence hd he).1
  have hcase : (row.record d.case).case.caseId = row.caseId := Tables.dossier_caseId hd
  have hworkflow : (row.record d.case).case.workflowId = row.workflowId := (hb _ d hd row he).symm
  have hone := Tables.alters_changeDocument hrow document
  have htwo := Tables.alters_changeCase (t := t.changeDocument row.workflowId document) row.caseId
    (CaseRow.touch · now) (by intro; rfl) (by intro; rfl)
  have hself := (hone.trans htwo).self hd
  have hchanged := Tables.dossier_case hself
  have hid := Tables.dossier_caseId hself
  obtain ⟨u, haudit⟩ := appendAudit_run (Option.isSome_iff_exists.mpr
    ⟨_, (congrArg _ hid).trans hchanged⟩) event actorType actorId details now
  simp only [save, Transition.bind_ok, selectCase_ok, Transition.required_ok,
    Transition.pure_ok, hcase, hworkflow]
  exact ⟨_, u, (), _, rfl, (), _, rfl, _, _, ⟨hchanged, rfl⟩, _, _, ⟨rfl, rfl⟩, (), u, haudit, rfl,
    rfl⟩

/-- A request for a new photo, under a key of its own and for the revision that is stored. -/
structure BeginUploadInput.Fresh (input : BeginUploadInput) (workflowId : String)
    (record : EvidenceRecord) : Prop where
  workflow : input.workflowId = workflowId
  subject : ∀ customerId ∈ input.scope.subjectCustomerId, customerId = record.customerId
  key : ∀ photo ∈ record.document.attachments, photo.uploadKey ≠ input.idempotencyKey
  revision : input.expectedRevision = record.document.revision

/-- The photo of the request is reserved. -/
def Admits (t : Tables) (input : BeginUploadInput) (uuid : JS.Uuid) (now : ℤ) : Prop :=
  ∃ reservation u, (beginUpload input uuid now).run t = .ok reservation u ∧
    reservation.created = true

/-- A fresh request is admitted where the collection is open and has room. -/
theorem admits_iff (hb : t.Bound) (h : t.stored workflowId = some record)
    {input : BeginUploadInput} (hinput : input.Fresh workflowId record) {uuid : JS.Uuid} {now : ℤ}
    (hnow : JS.Date.FourDigitYear now) : Admits t input uuid now ↔
      record.frozen = false ∧ record.document.full input.byteSize = false := by
  have hload : (load input.scope.subjectCustomerId input.workflowId).run t = .ok record t :=
    load_run (hinput.workflow ▸ h) hinput.subject
  have hfind : record.document.attachments.find? (fun photo =>
      photo.uploadKey = input.idempotencyKey) = none := by
    rw [List.find?_eq_none]
    intro photo hphoto
    simpa using hinput.key photo hphoto
  constructor
  · rintro ⟨reservation, u, hrun, hcreated⟩
    simp only [beginUpload, Transition.transaction_ok] at hrun
    rw [Transition.bind_of_ok hload, hfind] at hrun
    simp only [Transition.bind_ok, Transition.throwIf_ok, Bool.not_eq_true] at hrun
    obtain ⟨_, _, ⟨hopen, rfl⟩, _, _, ⟨-, rfl⟩, _, _, ⟨hspace, -⟩, -⟩ := hrun
    exact ⟨hopen, hspace⟩
  · rintro ⟨hopen, hspace⟩
    have hrange : now.natAbs ≤ JS.Date.maxTime := by
      rw [JS.Date.FourDigitYear] at hnow
      rw [JS.Date.maxTime]
      omega
    obtain ⟨uploadedAt, hinstant⟩ : ∃ text, JS.Date.toISOString now = some text :=
      ⟨_, if_pos hrange⟩
    let document := record.document.reserve (input.photo uuid.text uploadedAt)
    obtain ⟨saved, u, hsave⟩ := save_run hb h document .evidenceUploadReserved .customer
      record.customerId [("evidence_id", uuid.text),
        ("evidence_version", toString document.revision)] now
    refine ⟨⟨saved, input.photo uuid.text uploadedAt, true⟩, u, ?_, rfl⟩
    simp only [beginUpload, Transition.transaction_ok]
    rw [Transition.bind_of_ok hload, hfind]
    simp only [Transition.bind_ok, Transition.throwIf_ok, Transition.required_ok,
      Transition.pure_ok, Bool.not_eq_true, not_not]
    exact ⟨(), t, ⟨hopen, rfl⟩, (), t, ⟨hinput.revision.symm, rfl⟩, (), t, ⟨hspace, rfl⟩,
      uploadedAt, t, ⟨hinstant, rfl⟩, saved, u, hsave, rfl, rfl⟩

/-- The flag and the guard ask for the same: a photo of one byte fits. -/
theorem canUpload_iff (record : EvidenceRecord) : canUpload record = true ↔
    record.frozen = false ∧ record.document.full 1 = false := by
  simp only [canUpload, EvidenceRecord.frozen, EvidenceDocument.full, Bool.and_eq_true,
    Bool.or_eq_false_iff, Bool.not_eq_true', Bool.not_eq_false', decide_eq_true_eq,
    decide_eq_false_iff_not, Bool.or_eq_true, not_le, not_lt, ne_eq, not_not, Nat.succ_le_iff]
  tauto

theorem exists_fresh_key (document : EvidenceDocument) :
    ∃ key : String, ∀ photo ∈ document.attachments, photo.uploadKey ≠ key := by
  obtain ⟨n, hn⟩ := Infinite.exists_notMem_finset
    (document.attachments.map fun photo => photo.uploadKey.length).toFinset
  refine ⟨String.ofList (List.replicate n 'k'), fun photo hphoto hkey => hn ?_⟩
  rw [List.mem_toFinset, List.mem_map]
  exact ⟨photo, hphoto, by rw [hkey, String.length_ofList, List.length_replicate]⟩

/-- A collection keeps its limits whatever happens to it, and its flag is what a customer finds who
sends another photo. -/
theorem evidence_quotas {db : Database} (h : database.Reachable Database.IsEmpty db) {scope : Scope}
    {workflowId : String} {record : EvidenceRecord}
    (hrecord : (db scope).stored workflowId = some record) :
    record.document.active.length ≤ maxPhotos ∧
      totalBytes record.document.active ≤ maxSetBytes ∧
      record.document.attachments.length ≤ maxUploadAttempts ∧
      ∀ uuid now, JS.Date.FourDigitYear now →
        ((evidenceSnapshot record).evidence.canUpload = true ↔
          ∃ input : BeginUploadInput, input.scope.toScope = scope ∧
            input.Fresh workflowId record ∧ 1 ≤ input.byteSize ∧ input.byteSize ≤ maxPhotoBytes ∧
            Admits (db scope) input uuid now) := by
  have hreachable : machine.Reachable IsEmpty (db scope) := database_reachable h
  obtain ⟨row, d, hd, he, -, hrow⟩ := stored_eq_some.mp hrecord
  obtain ⟨hkept, hfits⟩ := Dossier.fits_invariant.reachable hreachable hd row he
  have hdocument : record.document = row.document := by rw [hrow]; rfl
  rw [← hdocument] at hkept hfits
  have hbound := reachable_bound hreachable
  refine ⟨?_, hfits, hkept.collected.attempts, fun uuid now hnow => ?_⟩
  · have hcount := hkept.collected.fits
    rwa [List.countP_eq_length_filter] at hcount
  have hflag : (evidenceSnapshot record).evidence.canUpload = true ↔ _ := canUpload_iff record
  rw [hflag]
  constructor
  · rintro ⟨hopen, hspace⟩
    obtain ⟨key, hkey⟩ := exists_fresh_key record.document
    let input : BeginUploadInput := ⟨⟨scope, some record.customerId⟩, workflowId,
      record.document.revision, key, "", 1, .jpeg⟩
    have hfresh : input.Fresh workflowId record := ⟨rfl, fun _ hc => (Option.some.inj hc).symm, hkey, rfl⟩
    exact ⟨input, rfl, hfresh, le_refl 1, (by decide : 1 ≤ maxPhotoBytes),
      (admits_iff hbound hrecord hfresh hnow).mpr ⟨hopen, hspace⟩⟩
  · rintro ⟨input, -, hfresh, hpositive, -, hadmits⟩
    obtain ⟨hopen, hspace⟩ := (admits_iff hbound hrecord hfresh hnow).mp hadmits
    refine ⟨hopen, ?_⟩
    -- What has room for the photo has room for a byte.
    simp only [EvidenceDocument.full, Bool.or_eq_false_iff, decide_eq_false_iff_not, not_lt]
      at hspace ⊢
    exact ⟨hspace.1, by omega⟩

/-- A collection with one photo takes another. -/
theorem evidence_quotas_open : ∃ (db : Database) (record : EvidenceRecord),
    database.run (fun _ => .empty) (Journey.accepted.take 4) = some db ∧
      (db Journey.scope).stored "refund-1" = some record ∧
      (record.document.active.length = 1 ∧ totalBytes record.document.active ≤ maxSetBytes) ∧
      ∃ input : BeginUploadInput, input.Fresh "refund-1" record ∧
        Admits (db Journey.scope) input Journey.caseUuid 1786190705000 := by
  obtain ⟨db, hrun, hstored⟩ : ∃ db : Database,
      database.run (fun _ => .empty) (Journey.accepted.take 4) = some db ∧
        ((db Journey.scope).stored "refund-1").any (fun record =>
          record.document.active.length = 1 ∧ canUpload record = true) = true :=
    Transition.Machine.exists_run (by decide +kernel)
  obtain ⟨record, hrecord, hrow⟩ := (Option.any_eq_true _ _).mp hstored
  obtain ⟨hone, hflag⟩ := of_decide_eq_true hrow
  obtain ⟨-, hbytes, -, hiff⟩ := evidence_quotas ⟨_, _, fun _ => rfl, hrun⟩ hrecord
  obtain ⟨input, -, hfresh, -, -, hadmits⟩ :=
    (hiff Journey.caseUuid 1786190705000 (by decide)).mp hflag
  exact ⟨db, record, hrun, hrecord, ⟨hone, hbytes⟩, input, hfresh, hadmits⟩

end CSO.HumanOperations
