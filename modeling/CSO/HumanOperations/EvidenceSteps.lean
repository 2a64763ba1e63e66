import CSO.HumanOperations.CaseSteps

/-! What the operations on collections make of the dossiers. -/
namespace CSO.HumanOperations
open Transition (Table transaction throwIf required)
open Work

variable {t u : Tables}

theorem insertEvidence_ok {row : EvidenceRow} {i : Unit}
    (h : (insertEvidence row).run t = .ok i u) : ∃ hid hc hr, u = t.addEvidence row hid hc hr := by
  simp only [insertEvidence, EStateM.run] at h
  split_ifs at h with hc
  cases h
  exact ⟨hc.1, hc.2.1, hc.2.2, rfl⟩

@[simp] theorem selectRecord_ok {workflowId : String} {r : Option EvidenceRecord} :
    (selectRecord workflowId).run t = .ok r u ↔
      (t.evidence.find? workflowId).bind t.record? = r ∧ t = u := Transition.read_ok

/-- A record is what a dossier with a collection shows. -/
theorem record?_eq_some {row : EvidenceRow} {record : EvidenceRecord} (hrow : row ∈ t.evidence.rows)
    (h : t.record? row = some record) :
    ∃ d, t.dossier row.caseId = some d ∧ d.evidence = some row ∧ record = row.record d.case := by
  obtain ⟨humanCase, hc, rfl⟩ := Option.map_eq_some_iff.mp h
  obtain ⟨d, hd, he⟩ := Tables.dossier_evidence hrow
  rw [Tables.dossier_case hd] at hc
  cases hc
  exact ⟨d, hd, he, rfl⟩

/-- The record of the collection of a workflow. -/
def Tables.stored (t : Tables) (workflowId : String) : Option EvidenceRecord :=
  (t.evidence.find? workflowId).bind t.record?

theorem stored_eq_some {workflowId : String} {record : EvidenceRecord} :
    t.stored workflowId = some record ↔ ∃ row d, t.dossier row.caseId = some d ∧
      d.evidence = some row ∧ row.workflowId = workflowId ∧ record = row.record d.case := by
  constructor
  · intro h
    obtain ⟨row, hrow, hrecord⟩ := Option.bind_eq_some_iff.mp h
    obtain ⟨hmem, hw⟩ := (Table.find?_eq_some _ _).mp hrow
    obtain ⟨d, hd, he, rfl⟩ := record?_eq_some hmem hrecord
    exact ⟨row, d, hd, he, hw, rfl⟩
  · rintro ⟨row, d, hd, he, rfl, rfl⟩
    have hmem := (Tables.mem_of_dossier_evidence hd he).1
    apply Option.bind_eq_some_iff.mpr
    refine ⟨row, (Table.find?_eq_some _ _).mpr ⟨hmem, rfl⟩, ?_⟩
    rw [Tables.record?, Tables.dossier_case hd, Option.map_some]

theorem load_ok {subject : Option String} {workflowId : String} {record : EvidenceRecord}
    (h : (load subject workflowId).run t = .ok record u) :
    u = t ∧ ∃ row d, row ∈ t.evidence.rows ∧ row.workflowId = workflowId ∧
      t.dossier row.caseId = some d ∧ d.evidence = some row ∧ record = row.record d.case := by
  simp only [load, Transition.bind_ok, selectRecord_ok, Transition.required_ok,
    Transition.throwIf_ok, Transition.pure_ok] at h
  obtain ⟨_, _, ⟨hfind, rfl⟩, found, _, ⟨rfl, rfl⟩, _, _, ⟨-, rfl⟩, rfl, rfl⟩ := h
  obtain ⟨row, hrow, hrecord⟩ := Option.bind_eq_some_iff.mp hfind
  obtain ⟨hmem, hw⟩ := (Table.find?_eq_some _ _).mp hrow
  obtain ⟨d, hd, he, rfl⟩ := record?_eq_some hmem hrecord
  exact ⟨rfl, row, d, hmem, hw, hd, he, rfl⟩

theorem save_ok {row : EvidenceRow} {d : Dossier} {record saved : EvidenceRecord}
    {document : EvidenceDocument} {event : CaseEventType} {actorType : ActorType}
    {actorId : String} {details : List (String × String)} {now : ℤ}
    (hrow : row ∈ t.evidence.rows) (hd : t.dossier row.caseId = some d)
    (hcase : record.case.caseId = row.caseId) (hworkflow : record.case.workflowId = row.workflowId)
    (h : (save record document event actorType actorId details now).run t = .ok saved u) :
    saved = { record with case := d.case.touch now, document } ∧
      Tables.Alters t u row.caseId fun d =>
        (d.saveDocument document now).log event actorType actorId details now := by
  simp only [save, Transition.bind_ok, selectCase_ok, Transition.required_ok,
    Transition.pure_ok] at h
  obtain ⟨_, v, hdocument, _, w, hupdate, r, _, ⟨hr, rfl⟩, changed, _, ⟨rfl, rfl⟩, _, x, haudit,
    rfl, rfl⟩ := h
  simp only [updateDocument, EStateM.run] at hdocument
  cases hdocument
  simp only [updateCase, EStateM.run] at hupdate
  cases hupdate
  rw [hcase, hworkflow] at hr haudit
  have hone := Tables.alters_changeDocument hrow document
  have htwo := Tables.alters_changeCase (t := t.changeDocument row.workflowId document) row.caseId
    (CaseRow.touch · now) (by intro; rfl) (by intro; rfl)
  have hboth := hone.trans htwo
  have hself := hboth.self hd
  have hchanged : changed = d.case.touch now := by
    rw [Tables.dossier_case hself] at hr
    exact (Option.some.inj hr).symm
  subst hchanged
  have hthree := appendAudit_ok haudit
  have hid : (d.case.touch now).caseId = row.caseId := Tables.dossier_caseId hd
  rw [hid] at hthree
  refine ⟨rfl, ?_⟩
  intro id
  rw [hthree id, hboth id]
  by_cases hc : id = row.caseId
  · subst hc
    have hcaseId : d.case.caseId = row.caseId := hid
    simp only [if_true, hd, Option.map_some, Function.comp_apply]
    simp only [Dossier.log, Dossier.saveDocument, CaseRow.touch, hcaseId]
  · simp only [hc, if_false]

/-- What is saved is stored. -/
theorem save_stored {row : EvidenceRow} {d : Dossier} {humanCase : CaseRow}
    {saved : EvidenceRecord} {document : EvidenceDocument} {event : CaseEventType}
    {actorType : ActorType} {actorId : String} {details : List (String × String)} {now : ℤ}
    (hd : t.dossier row.caseId = some d) (he : d.evidence = some row)
    (hcase : humanCase.caseId = row.caseId) (hworkflow : humanCase.workflowId = row.workflowId)
    (hpolicy : humanCase.policyVersion = d.case.policyVersion)
    (h : (save (row.record humanCase) document event actorType actorId details now).run t =
      .ok saved u) : u.stored row.workflowId = some saved := by
  have hrow := (Tables.mem_of_dossier_evidence hd he).1
  obtain ⟨rfl, halters⟩ := save_ok hrow hd hcase hworkflow h
  refine stored_eq_some.mpr ⟨{ row with document }, _, halters.self hd, ?_, rfl, ?_⟩
  · simp only [Dossier.log, Dossier.saveDocument, he, Option.map_some]
  · simp only [EvidenceRow.record, CaseRow.touch, Dossier.log, Dossier.saveDocument, hpolicy]

section Saved
variable {row : EvidenceRow} {d : Dossier} {saved : EvidenceRecord} {document : EvidenceDocument}
  {event : CaseEventType} {actorType : ActorType} {actorId : String}
  {details : List (String × String)} {now : ℤ}

/-- A saved document of a loaded record is one step of its dossier. -/
theorem saved_next (hb : d.Bound) (hrow : row ∈ t.evidence.rows)
    (hd : t.dossier row.caseId = some d) (he : d.evidence = some row)
    (hnext : (row.record d.case).Next document) (hevent : event ≠ .decisionRecorded)
    (h : (save (row.record d.case) document event actorType actorId details now).run t =
      .ok saved u) : ∃ f, Tables.Alters t u row.caseId f ∧ d.Next .saving (f d) := by
  have hcase : (row.record d.case).case.caseId = row.caseId := Tables.dossier_caseId hd
  have hworkflow : (row.record d.case).case.workflowId = row.workflowId := (hb row he).symm
  obtain ⟨-, halters⟩ := save_ok hrow hd hcase hworkflow h
  exact ⟨_, halters, .saved row he document hnext event actorType actorId details now hevent⟩

theorem saved_ok (hb : t.Bound) (hrow : row ∈ t.evidence.rows)
    (hd : t.dossier row.caseId = some d) (he : d.evidence = some row)
    (hnext : (row.record d.case).Next document) (hevent : event ≠ .decisionRecorded)
    (h : (save (row.record d.case) document event actorType actorId details now).run t =
      .ok saved u) : Tables.Moves t .saving u ∧ u.stored row.workflowId = some saved := by
  obtain ⟨f, halters, hf⟩ := saved_next (hb _ d hd) hrow hd he hnext hevent h
  exact ⟨halters.moves hd hf,
    save_stored hd he (Tables.dossier_caseId hd) (hb _ d hd row he).symm rfl h⟩

end Saved

/-! Operations. -/

/-- The dossier that `ensure` opens. -/
def EnsureEvidenceInput.dossier (input : EnsureEvidenceInput) (uuid : JS.Uuid) (now : ℤ) :
    Dossier where
  case := input.caseRow uuid now
  audit := []
  outbox := []
  evidence := some (input.evidenceRow (input.caseRow uuid now).caseId)

/-- A collection that is there already is reported when it was opened by the same request. -/
theorem ensure_ok {input : EnsureEvidenceInput} {uuid : JS.Uuid} {now : ℤ}
    {snapshot : EvidenceSnapshot} (h : (ensure input uuid now).run t = .ok snapshot u) :
    (u = t ∧ ∃ row d, row ∈ t.evidence.rows ∧ row.workflowId = input.workflowId ∧
      t.dossier row.caseId = some d ∧ d.evidence = some row ∧
      row.document.ensureFingerprint = input.fingerprint ∧
      snapshot = evidenceSnapshot (row.record d.case)) ∨
    (t.dossier (input.caseRow uuid now).caseId = none ∧
      snapshot = evidenceSnapshot ((input.evidenceRow (input.caseRow uuid now).caseId).record
        (input.caseRow uuid now)) ∧
      ∀ id, u.dossier id = if id = (input.caseRow uuid now).caseId then
        some ((input.dossier uuid now).log .caseOpened .workflow input.workflowId
          [("case_type", HumanCaseType.refundEvidenceReview.text)] now)
        else t.dossier id) := by
  simp only [ensure, Transition.transaction_ok, Transition.bind_ok, selectRecord_ok] at h
  obtain ⟨present, _, ⟨hpresent, rfl⟩, h⟩ := h
  cases hsome : present.isSome with
  | true =>
    simp only [hsome, if_true, Transition.bind_ok, Transition.throwIf_ok, Transition.pure_ok,
      not_not] at h
    obtain ⟨record, v, hload, _, _, ⟨hfingerprint, rfl⟩, rfl, rfl⟩ := h
    obtain ⟨rfl, row, d, hrow, hw, hd, he, rfl⟩ := load_ok hload
    exact Or.inl ⟨rfl, row, d, hrow, hw, hd, he, hfingerprint, rfl⟩
  | false =>
    simp only [hsome, Bool.false_eq_true, if_false, Transition.bind_ok, Transition.throwIf_ok,
      Transition.pure_ok, not_not] at h
    obtain ⟨created, v, hinsert, _, _, ⟨hcreated, rfl⟩, _, w, hevidence, record, x, hload, _, y,
      haudit, rfl, rfl⟩ := h
    rcases insertCase_ok hinsert with ⟨-, hid, hw, rfl⟩ | ⟨hfalse, -⟩
    swap
    · simp [hfalse] at hcreated
    obtain ⟨heid, hec, her, rfl⟩ := insertEvidence_ok hevidence
    obtain ⟨rfl, row, d, hrow, hworkflow, hd, he, rfl⟩ := load_ok hload
    have hadd := Tables.alters_addEvidence heid hec her
    have hnew : row = input.evidenceRow (input.caseRow uuid now).caseId := by
      rcases (Table.mem_insert (h := heid) _).mp hrow with hold | hnew
      · exact absurd hworkflow ((Table.find?_eq_none _ _).mp heid row hold)
      · exact hnew
    subst hnew
    have hself := hadd.self (d := ⟨input.caseRow uuid now, [], [], none⟩)
      (by rw [Tables.dossier_addCase hid hw]; exact if_pos rfl)
    have hrecord : d = input.dossier uuid now := Option.some.inj (hd.symm.trans hself)
    subst hrecord
    have haudit' := appendAudit_ok haudit
    refine Or.inr ⟨Tables.dossier_eq_none.mpr hid, rfl, ?_⟩
    intro id
    rw [haudit' id, hadd id, Tables.dossier_addCase hid hw id]
    by_cases hc : id = (input.caseRow uuid now).caseId
    · have haudited : id = ((input.evidenceRow (input.caseRow uuid now).caseId).record
          (input.dossier uuid now).case).case.caseId := hc
      have hinserted : id = (input.evidenceRow (input.caseRow uuid now).caseId).caseId := hc
      rw [if_pos haudited, if_pos hinserted, if_pos hc, if_pos hc]
      rfl
    · have haudited : ¬id = ((input.evidenceRow (input.caseRow uuid now).caseId).record
          (input.dossier uuid now).case).case.caseId := hc
      have hinserted : ¬id = (input.evidenceRow (input.caseRow uuid now).caseId).caseId := hc
      rw [if_neg haudited, if_neg hinserted, if_neg hc, if_neg hc]

theorem ensure_moves {input : EnsureEvidenceInput} {uuid : JS.Uuid} {now : ℤ}
    {snapshot : EvidenceSnapshot} (h : (ensure input uuid now).run t = .ok snapshot u) :
    Tables.Moves t .collecting u := by
  rcases ensure_ok h with ⟨rfl, -⟩ | ⟨hnone, -, hu⟩
  · exact Tables.Moves.refl u _
  · intro id
    rw [hu id]
    by_cases hid : id = (input.caseRow uuid now).caseId
    · rw [if_pos hid, hid, hnone]
      exact .opened (.collection input uuid now)
    · rw [if_neg hid]
      exact .same _

/-- No photo carries the identifier yet. -/
def Tables.Unused (t : Tables) (uuid : JS.Uuid) : Prop :=
  ∀ row ∈ t.evidence.rows, ∀ photo ∈ row.document.attachments, photo.evidenceId ≠ uuid.text

theorem beginUpload_ok {input : BeginUploadInput} {uuid : JS.Uuid} {now : ℤ}
    {reservation : UploadReservation} (hb : t.Bound) (hfresh : t.Unused uuid)
    (hnow : JS.Date.FourDigitYear now)
    (h : (beginUpload input uuid now).run t = .ok reservation u) :
    Tables.Moves t .saving u ∧ u.stored input.workflowId = some reservation.record := by
  simp only [beginUpload, Transition.transaction_ok, Transition.bind_ok] at h
  obtain ⟨record, v, hload, h⟩ := h
  obtain ⟨rfl, row, d, hrow, hw, hd, he, rfl⟩ := load_ok hload
  split at h
  · simp only [Transition.bind_ok, Transition.throwIf_ok, Transition.pure_ok] at h
    obtain ⟨_, _, ⟨-, rfl⟩, rfl, rfl⟩ := h
    exact ⟨Tables.Moves.refl _ _, stored_eq_some.mpr ⟨row, d, hd, he, hw, rfl⟩⟩
  · simp only [Transition.bind_ok, Transition.throwIf_ok, Transition.required_ok,
      Transition.pure_ok, Bool.not_eq_true] at h
    obtain ⟨_, _, ⟨hopen, rfl⟩, _, _, ⟨-, rfl⟩, _, _, ⟨hspace, rfl⟩, uploadedAt, _,
      ⟨hinstant, rfl⟩, saved, w, hsave, rfl, rfl⟩ := h
    rw [← hw]
    exact saved_ok hb hrow hd he
      (.reserved input uuid now uploadedAt hnow hinstant (hfresh row hrow) hopen hspace) (by decide) hsave

/-- A snapshot of the collection of a workflow, as it is stored. -/
def Tables.Shows (t : Tables) (workflowId : String) (snapshot : EvidenceSnapshot) : Prop :=
  ∃ record, t.stored workflowId = some record ∧ snapshot = evidenceSnapshot record

theorem finishUpload_ok {input : FinishUploadInput} {now : ℤ} {snapshot : EvidenceSnapshot}
    (hb : t.Bound) (h : (finishUpload input now).run t = .ok snapshot u) :
    Tables.Moves t .saving u ∧ u.Shows input.workflowId snapshot := by
  simp only [finishUpload, Transition.transaction_ok, Transition.bind_ok] at h
  obtain ⟨record, v, hload, h⟩ := h
  obtain ⟨rfl, row, d, hrow, hw, hd, he, rfl⟩ := load_ok hload
  simp only [Transition.required_ok, Transition.ite_ok, Transition.bind_ok, Transition.pure_ok,
    not_not] at h
  obtain ⟨photo, _, ⟨hfind, rfl⟩, ⟨-, rfl, rfl⟩ | ⟨hstatus, saved, w, hsave, rfl, rfl⟩⟩ := h
  · exact ⟨Tables.Moves.refl _ _, _, stored_eq_some.mpr ⟨row, d, hd, he, hw, rfl⟩, rfl⟩
  · have hphoto := List.mem_of_find?_eq_some hfind
    have hid : photo.evidenceId = input.evidenceId := by simpa using List.find?_some hfind
    rw [← hid] at hsave
    obtain ⟨hmoves, hstored⟩ := saved_ok hb hrow hd he
      (.finished photo input.result hphoto hstatus) (by decide) hsave
    exact ⟨hmoves, saved, hw ▸ hstored, rfl⟩

theorem review_ok {input : ReviewInput} {uuid : JS.Uuid} {now : ℤ}
    {snapshot : EvidenceSnapshot} (hb : t.Bound)
    (h : (review input uuid now).run t = .ok snapshot u) :
    Tables.Moves t .saving u ∧ u.Shows input.workflowId snapshot := by
  simp only [review, Transition.transaction_ok, Transition.bind_ok] at h
  obtain ⟨record, v, hload, h⟩ := h
  obtain ⟨rfl, row, d, hrow, hw, hd, he, rfl⟩ := load_ok hload
  split at h
  · simp only [Transition.bind_ok, Transition.throwIf_ok, Transition.pure_ok] at h
    obtain ⟨_, _, ⟨-, rfl⟩, rfl, rfl⟩ := h
    exact ⟨Tables.Moves.refl _ _, _, stored_eq_some.mpr ⟨row, d, hd, he, hw, rfl⟩, rfl⟩
  · exact absurd h Transition.throw_ok
  · simp only [Transition.bind_ok, Transition.throwIf_ok, Transition.pure_ok, not_not,
      not_le] at h
    obtain ⟨_, _, ⟨hright, rfl⟩, _, _, ⟨-, rfl⟩, _, _, ⟨-, rfl⟩, _, _, ⟨hreviews, rfl⟩, saved, w,
      hsave, rfl, rfl⟩ := h
    obtain ⟨hmoves, hstored⟩ := saved_ok hb hrow hd he (.reviewed input.access input.command uuid
      input.idempotencyKey input.fingerprint hright hreviews) (by decide) hsave
    exact ⟨hmoves, saved, hw ▸ hstored, rfl⟩

/-- A transition is a replay, or it takes an accepted and bound collection out of its phase. -/
theorem transition_ok {input : TransitionEvidenceInput} {now : ℤ} {snapshot : EvidenceSnapshot}
    (hb : t.Bound) (h : (transition input now).run t = .ok snapshot u) :
    u.Shows input.workflowId snapshot ∧
      ∃ row d, row ∈ t.evidence.rows ∧ row.workflowId = input.workflowId ∧
        t.dossier row.caseId = some d ∧ d.evidence = some row ∧ snapshot.caseId = row.caseId ∧
        (u = t ∨
          row.document.assessment = .accepted ∧ row.document.retired = false ∧
          row.document.revision = input.expectedEvidenceVersion ∧
          d.case.caseType = .refundEvidenceReview ∧ d.case.status ≠ .closed ∧
          Tables.Alters t u row.caseId (Dossier.enterPhase · row.document input now)) := by
  simp only [transition, Transition.transaction_ok, Transition.bind_ok] at h
  obtain ⟨record, v, hload, h⟩ := h
  obtain ⟨rfl, row, d, hrow, hw, hd, he, rfl⟩ := load_ok hload
  have hcaseId : d.case.caseId = row.caseId := Tables.dossier_caseId hd
  split at h
  · simp only [Transition.bind_ok, Transition.throwIf_ok, Transition.pure_ok] at h
    obtain ⟨_, _, ⟨-, rfl⟩, rfl, rfl⟩ := h
    exact ⟨⟨_, stored_eq_some.mpr ⟨row, d, hd, he, hw, rfl⟩, rfl⟩,
      row, d, hrow, hw, hd, he, hcaseId, Or.inl rfl⟩
  · exact absurd h Transition.throw_ok
  · simp only [Transition.bind_ok, Transition.throwIf_ok, Transition.pure_ok, not_or, not_not,
      Bool.not_eq_true] at h
    obtain ⟨_, _, ⟨⟨haccepted, hretired, hrevision⟩, rfl⟩, _, _, ⟨-, rfl⟩, _, _,
      ⟨⟨htype, hopen⟩, rfl⟩, _, _, ⟨-, rfl⟩, _, w, hupdate, saved, x, hsave, rfl, rfl⟩ := h
    simp only [updateCase, EStateM.run] at hupdate
    cases hupdate
    have hkey : (row.record d.case).case.caseId = row.caseId := hcaseId
    rw [hkey] at hsave
    have hone := Tables.alters_changeCase (t := v) row.caseId
      (CaseRow.enterPhase · input.caseType input.reviewPacket) (by intro; rfl) (by intro; rfl)
    have hworkflow : (row.record d.case).case.workflowId = row.workflowId := (hb _ d hd row he).symm
    have hstored := save_stored (t := v.changeCase row.caseId _ _ _) (hone.self hd) he hkey
      hworkflow rfl hsave
    obtain ⟨rfl, htwo⟩ := save_ok (t := v.changeCase row.caseId _ _ _) hrow (hone.self hd) hkey
      hworkflow hsave
    exact ⟨⟨_, hw ▸ hstored, rfl⟩, row, d, hrow, hw, hd, he, hcaseId,
      Or.inr ⟨haccepted, hretired, hrevision, htype, hopen, hone.trans htwo⟩⟩

theorem transition_moves {input : TransitionEvidenceInput} {now : ℤ} {snapshot : EvidenceSnapshot}
    (hb : t.Bound) (h : (transition input now).run t = .ok snapshot u) : Tables.Moves t .transitioning u := by
  obtain ⟨-, row, d, -, -, hd, he, -, rfl | ⟨haccepted, hretired, -, htype, hopen, halters⟩⟩ :=
    transition_ok hb h
  · exact Tables.Moves.refl u _
  · exact halters.moves hd (.transitioned row he input now haccepted hretired htype hopen)

/-! Batches. -/

theorem mem_records {record : EvidenceRecord} (h : record ∈ t.records) :
    ∃ row d, row ∈ t.evidence.rows ∧ t.dossier row.caseId = some d ∧ d.evidence = some row ∧
      record = row.record d.case := by
  obtain ⟨row, hrow, hrecord⟩ := List.mem_filterMap.mp h
  obtain ⟨d, hd, he, rfl⟩ := record?_eq_some hrow hrecord
  exact ⟨row, d, hrow, hd, he, rfl⟩

theorem record?_caseId {row : EvidenceRow} (hrow : row ∈ t.evidence.rows) :
    (t.record? row).map (fun record => record.case.caseId) = some row.caseId := by
  obtain ⟨d, hd, -⟩ := Tables.dossier_evidence hrow
  have hcase := Tables.dossier_case hd
  have hid : d.case.caseId = row.caseId := Tables.dossier_caseId hd
  simp only [Tables.record?, hcase, Option.map_some, EvidenceRow.record, hid]

theorem nodup_records : (t.records.map fun record => record.case.caseId).Nodup := by
  have hkeys : t.records.map (fun record => record.case.caseId) =
      t.evidence.rows.map EvidenceRow.caseId := by
    rw [Tables.records, List.map_filterMap, ← List.filterMap_eq_map]
    apply List.filterMap_congr
    intro row hrow
    exact record?_caseId hrow
  rw [hkeys]
  exact t.oneCollection

theorem selectBatch_ok {eligible : EvidenceRecord → Bool} {locked : List String}
    {rows : List EvidenceRecord} (h : (selectBatch eligible locked).run t = .ok rows u) :
    u = t ∧ (rows.map fun record => record.case.caseId).Nodup ∧
      ∀ record ∈ rows, eligible record = true ∧ record ∈ t.records := by
  simp only [selectBatch, Transition.bind_ok, Transition.get_ok, Transition.pure_ok] at h
  obtain ⟨_, _, ⟨rfl, rfl⟩, rfl, rfl⟩ := h
  refine ⟨rfl, ?_, ?_⟩
  · have hperm := List.perm_insertionSort
      (fun a b : EvidenceRecord => a.case.updatedAt ≤ b.case.updatedAt)
      (t.records.filter fun record => eligible record && record.case.workflowId ∉ locked)
    have hsorted := (hperm.map fun record => record.case.caseId).nodup_iff.mpr
      (nodup_records.sublist (List.filter_sublist.map _))
    exact hsorted.sublist ((List.take_sublist _ _).map _)
  · intro record hrecord
    have hmem := List.mem_of_mem_take hrecord
    rw [List.mem_insertionSort, List.mem_filter, Bool.and_eq_true] at hmem
    exact ⟨hmem.2.1, hmem.1⟩

/-- A batch whose rows move their own dossiers moves every dossier by one step at most. -/
theorem batch_moves {rows : List EvidenceRecord} {body : EvidenceRecord → Work Unit} {i : Unit}
    (hn : (rows.map fun record => record.case.caseId).Nodup)
    (hbody : ∀ record ∈ rows, ∀ v w, v.dossier record.case.caseId = t.dossier record.case.caseId →
      (body record).run v = .ok () w → (∀ id, w.dossier id = v.dossier id) ∨
        ∃ f d, v.dossier record.case.caseId = some d ∧ Tables.Alters v w record.case.caseId f ∧
          d.Next .saving (f d))
    (h : (forM rows body).run t = .ok i u) : Tables.Moves t .saving u := by
  have hloop := Transition.forM_pointwise Tables.dossier (R := fun _ => Dossier.Move .saving) hn
    (by
      intro record hrecord v w hv hrun
      rcases hbody record hrecord v w hv hrun with hsame | ⟨f, d, hd, halters, hnext⟩
      · refine ⟨fun id _ => hsame id, ?_⟩
        rw [hsame]
        exact .same _
      · refine ⟨fun id hid => ?_, ?_⟩
        · rw [halters id, if_neg hid]
        · rw [halters.self hd, hd]
          exact .next hnext) h
  intro id
  by_cases hid : id ∈ rows.map fun record => record.case.caseId
  · exact (hloop id).2 hid
  · rw [(hloop id).1 hid]
    exact .same _

/-- What a dossier shows of its collection is in the tables. -/
theorem row_of_dossier {v : Tables} {row : EvidenceRow} {d : Dossier}
    (hd : t.dossier row.caseId = some d) (he : d.evidence = some row)
    (hv : v.dossier row.caseId = t.dossier row.caseId) :
    row ∈ v.evidence.rows ∧ v.dossier row.caseId = some d := by
  rw [hd] at hv
  exact ⟨(Tables.mem_of_dossier_evidence hv he).1, hv⟩

theorem recoverStaleUploads_moves {scope : EvidenceScope} {locked : List String} {now : ℤ}
    {i : Unit} (hb : t.Bound) (h : (recoverStaleUploads scope locked now).run t = .ok i u) :
    Tables.Moves t .saving u := by
  simp only [recoverStaleUploads, Transition.transaction_ok, Transition.bind_ok] at h
  obtain ⟨rows, v, hbatch, hloop⟩ := h
  obtain ⟨rfl, hn, hrows⟩ := selectBatch_ok hbatch
  refine batch_moves hn ?_ hloop
  intro record hrecord w x hw hrun
  obtain ⟨heligible, hmem⟩ := hrows record hrecord
  obtain ⟨row, d, hrow, hd, he, rfl⟩ := mem_records hmem
  have hkey : (row.record d.case).case.caseId = row.caseId := Tables.dossier_caseId hd
  rw [hkey] at hw ⊢
  obtain ⟨hrow', hd'⟩ := row_of_dossier hd he hw
  simp only [recoverRecord, Transition.bind_ok, Transition.pure_ok] at hrun
  obtain ⟨loaded, y, hload, saved, z, hsave, -, rfl⟩ := hrun
  obtain ⟨rfl, other, d', hother, hworkflow, hother', he', rfl⟩ := load_ok hload
  -- The collection is loaded again by the workflow of its case, which is its own.
  have hsame : other = row := by
    apply Table.eq_of_unique y.evidence.unique hother hrow'
    exact hworkflow.trans (hb _ d hd row he).symm
  subst hsame
  have hdossier : d' = d := Option.some.inj (hother'.symm.trans hd')
  subst hdossier
  obtain ⟨f, halters, hf⟩ := saved_next (hb _ d' hd) hrow' hd' he (.recovered now heligible)
    (by decide) hsave
  exact Or.inr ⟨f, d', hd', halters, hf⟩

theorem purge_moves {options : PurgeOptions} {locked : List String} {now : ℤ} {i : Unit}
    (hb : t.Bound) (h : (purge options locked now).run t = .ok i u) : Tables.Moves t .saving u := by
  simp only [purge, Transition.transaction_ok, Transition.bind_ok] at h
  obtain ⟨rows, v, hbatch, hloop⟩ := h
  obtain ⟨rfl, hn, hrows⟩ := selectBatch_ok hbatch
  refine batch_moves hn ?_ hloop
  intro record hrecord w x hw hrun
  obtain ⟨row, d, hrow, hd, he, rfl⟩ := mem_records (hrows record hrecord).2
  have hkey : (row.record d.case).case.caseId = row.caseId := Tables.dossier_caseId hd
  rw [hkey] at hw ⊢
  obtain ⟨hrow', hd'⟩ := row_of_dossier hd he hw
  simp only [purgeRecord, Transition.bind_ok, Transition.throwIf_ok, Transition.ite_ok,
    Transition.pure_ok] at hrun
  obtain ⟨_, _, ⟨-, rfl⟩, ⟨hchanges, saved, y, hsave, -, rfl⟩ | ⟨-, -, rfl⟩⟩ := hrun
  · obtain ⟨f, halters, hf⟩ := saved_next (hb _ d hd) hrow' hd' he (.purged options hchanges)
      (by decide) hsave
    exact Or.inr ⟨f, d, hd', halters, hf⟩
  · exact Or.inl fun id => rfl
end CSO.HumanOperations
