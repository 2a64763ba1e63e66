import CSO.HumanOperations.Documents

/-! Accepted evidence is frozen until it is retired. The records that the tables store, and the
snapshots of them that the operations report. -/
namespace CSO.HumanOperations
open Transition (Table)

variable {t u : Tables}

/-- A case has one collection. -/
theorem stored_of_caseId {w w' : String} {record record' : EvidenceRecord}
    (h : t.stored w = some record) (h' : t.stored w' = some record')
    (hid : record.case.caseId = record'.case.caseId) : record = record' := by
  obtain ⟨row, d, hd, he, -, rfl⟩ := stored_eq_some.mp h
  obtain ⟨row', d', hd', he', -, rfl⟩ := stored_eq_some.mp h'
  have hids : row.caseId = row'.caseId :=
    (Tables.dossier_caseId hd).symm.trans (hid.trans (Tables.dossier_caseId hd'))
  rw [hids, hd'] at hd
  cases hd
  rw [he'] at he
  cases he
  rfl

/-! Documents. -/

/-- Until it is retired, an accepted document keeps its version, its assessment and its set. -/
def EvidenceDocument.Freezes (document document' : EvidenceDocument) : Prop :=
  document'.retired = false → document.retired = false ∧
    (document.assessment = .accepted → document'.assessment = .accepted ∧
      document'.revision = document.revision ∧ document'.assessmentId = document.assessmentId ∧
      document'.manifestHash = document.manifestHash ∧ document'.ready = document.ready)

namespace EvidenceDocument.Freezes
variable {document document' document'' : EvidenceDocument}

theorem refl (document : EvidenceDocument) : document.Freezes document :=
  fun hr => ⟨hr, fun ha => ⟨ha, rfl, rfl, rfl, rfl⟩⟩

theorem trans (h : document.Freezes document') (h' : document'.Freezes document'') :
    document.Freezes document'' := by
  intro hr
  obtain ⟨hr', hkeeps'⟩ := h' hr
  obtain ⟨hr, hkeeps⟩ := h hr'
  refine ⟨hr, fun ha => ?_⟩
  obtain ⟨ha', hrevision, hid, hhash, hready⟩ := hkeeps ha
  obtain ⟨ha'', hrevision', hid', hhash', hready'⟩ := hkeeps' ha'
  exact ⟨ha'', hrevision'.trans hrevision, hid'.trans hid, hhash'.trans hhash,
    hready'.trans hready⟩

/-- Where the document is not accepted there is nothing to keep. -/
theorem of_not_accepted (ha : document.assessment ≠ .accepted)
    (hr : document'.retired = document.retired) : document.Freezes document' :=
  fun hr' => ⟨hr ▸ hr', fun h => absurd h ha⟩

end EvidenceDocument.Freezes

/-- What revises a document looks at its assessment, or needs a photo that is still processed. -/
theorem EvidenceRecord.Next.freezes {record : EvidenceRecord} {document : EvidenceDocument}
    (hn : record.Next document) (h : record.document.Kept) : record.document.Freezes document := by
  cases hn with
  | reserved input uuid now uploadedAt hnow hinstant hid hopen hspace =>
    simp only [EvidenceRecord.frozen, Bool.or_eq_false_iff, decide_eq_false_iff_not] at hopen
    exact .of_not_accepted hopen.1.1.1 rfl
  | finished photo result hphoto hstatus =>
    exact .of_not_accepted (fun ha => h.finished ha photo hphoto hstatus) rfl
  | reviewed access command uuid key fingerprint hright hreviews =>
    simp only [canReviewEvidence, Bool.and_eq_true, decide_eq_true_eq] at hright
    apply EvidenceDocument.Freezes.of_not_accepted hright.1.1.2
    unfold EvidenceDocument.review
    cases command.action <;> rfl
  | recovered now hstale =>
    obtain ⟨photo, hp, hphoto⟩ := List.any_eq_true.mp hstale
    simp only [StoredPhoto.stale, Bool.and_eq_true, decide_eq_true_eq] at hphoto
    exact .of_not_accepted (fun ha => h.finished ha photo hp hphoto.1) rfl
  | purged options hchanges =>
    intro hr
    obtain ⟨hr', hexpired⟩ := Bool.or_eq_false_iff.mp hr
    rw [hexpired]
    refine ⟨hr', fun ha => ⟨ha, ?_, rfl, rfl, ?_⟩⟩
    · simp [PurgeOptions.purgeDocument, ha, hr']
    · exact record.document.ready_purge options (h.finished ha)

/-- A dossier keeps its collection, and an accepted one as it is. -/
def Dossier.Freezes (d d' : Dossier) : Prop :=
  ∀ row, d.evidence = some row → ∃ row', d'.evidence = some row' ∧
    row'.workflowId = row.workflowId ∧ row'.caseId = row.caseId ∧
    row.document.Freezes row'.document

theorem Dossier.Next.freezes {d d' : Dossier} {deed : Dossier.Deed} (h : d.Kept)
    (hn : d.Next deed d') : d.Freezes d' := by
  intro row hrow
  cases hn with
  | closed workflowId details now hopen => exact ⟨row, hrow, rfl, rfl, .refl row.document⟩
  | assigned staffId details now hopen => exact ⟨row, hrow, rfl, rfl, .refl row.document⟩
  | decided event hstatus hassigned hallowed hcase hworkflow =>
    exact ⟨row, hrow, rfl, rfl, .refl row.document⟩
  | delivered eventId => exact ⟨row, hrow, rfl, rfl, .refl row.document⟩
  | saved other hother document hnext event actorType actorId details now hevent =>
    rw [hrow] at hother
    cases hother
    refine ⟨{ row with document }, ?_, rfl, rfl, hnext.freezes (h row hrow)⟩
    simp only [Dossier.log, Dossier.saveDocument, hrow, Option.map_some]
  | transitioned other hother input now haccepted hretired htype hopen =>
    rw [hrow] at hother
    cases hother
    refine ⟨{ row with document := { row.document with transitionKeys :=
      (input.idempotencyKey, input.fingerprint) :: row.document.transitionKeys } }, ?_, rfl, rfl,
      fun hr => ⟨hr, fun ha => ⟨ha, rfl, rfl, rfl, rfl⟩⟩⟩
    simp only [Dossier.enterPhase, Dossier.log, Dossier.saveDocument, hrow, Option.map_some]

/-- A stored record stays, and freezes. -/
theorem stored_run {db db' : Database} (h : database.Reachable Database.IsEmpty db)
    {es : List Event} (hrun : database.run db es = some db') {scope : Scope} {workflowId : String}
    {record : EvidenceRecord} (hrecord : (db scope).stored workflowId = some record) :
    ∃ record', (db' scope).stored workflowId = some record' ∧
      record'.case.caseId = record.case.caseId ∧ record'.document.Kept ∧
      record.document.Freezes record'.document := by
  obtain ⟨row, d, hd, he, hw, rfl⟩ := stored_eq_some.mp hrecord
  have hreachable : machine.Reachable IsEmpty (db scope) := database_reachable h
  obtain ⟨fs, hrun'⟩ := @database_run db db' scope es hrun
  obtain ⟨d', hd', hfreezes⟩ := dossier_run (R := Dossier.Freezes)
    (fun d row hrow => ⟨row, hrow, rfl, rfl, .refl row.document⟩)
    (by
      intro d d' d'' h₁ h₂ row hrow
      obtain ⟨row', hrow', hw₁, hc₁, hf₁⟩ := h₁ row hrow
      obtain ⟨row'', hrow'', hw₂, hc₂, hf₂⟩ := h₂ row' hrow'
      exact ⟨row'', hrow'', hw₂.trans hw₁, hc₂.trans hc₁, hf₁.trans hf₂⟩)
    Dossier.kept_invariant (fun _ _ hk hn => Dossier.Next.freezes hk hn) hreachable hrun' hd
  obtain ⟨row', he', hw', hc', hf⟩ := hfreezes row he
  have hd'' : (db' scope).dossier row'.caseId = some d' := by rwa [hc']
  have hkept := Dossier.kept_invariant.reachable (hreachable.run hrun') hd'
  refine ⟨row'.record d'.case, stored_eq_some.mpr ⟨row', d', hd'', he', hw'.trans hw, rfl⟩, ?_,
    hkept row' he', hf⟩
  exact (Tables.dossier_caseId hd').trans (Tables.dossier_caseId hd).symm

/-! Every snapshot that an operation reports is of a record that is stored then. -/

theorem ensure_shows {input : EnsureEvidenceInput} {uuid : JS.Uuid} {now : ℤ}
    {snapshot : EvidenceSnapshot} (h : (ensure input uuid now).run t = .ok snapshot u) :
    u.Shows input.workflowId snapshot := by
  rcases ensure_ok h with ⟨rfl, row, d, -, hw, hd, he, -, rfl⟩ | ⟨-, rfl, hu⟩
  · exact ⟨_, stored_eq_some.mpr ⟨row, d, hd, he, hw, rfl⟩, rfl⟩
  · have hnew := hu (input.caseRow uuid now).caseId
    rw [if_pos rfl] at hnew
    exact ⟨_, stored_eq_some.mpr ⟨input.evidenceRow (input.caseRow uuid now).caseId, _, hnew, rfl,
      rfl, rfl⟩, rfl⟩

def Reply.snapshot? : Reply → Option EvidenceSnapshot
  | .snapshot reported => some reported
  | .record loaded => some (evidenceSnapshot loaded)
  | .reservation reserved => some (evidenceSnapshot reserved.record)
  | _ => none

theorem exec_shows {op : Operation} {now : ℤ} {r : Reply} {snapshot : EvidenceSnapshot}
    (hb : t.Bound) (hdraws : op.Draws t) (hnow : JS.Date.FourDigitYear now)
    (h : (op.exec now).run t = .ok r u) (hs : r.snapshot? = some snapshot) :
    ∃ workflowId, u.Shows workflowId snapshot := by
  cases op with
  | ensure input uuid =>
    obtain ⟨_, hrun, rfl⟩ := reply_ok.mp h
    cases hs
    exact ⟨_, ensure_shows hrun⟩
  | getEvidence scope workflowId =>
    obtain ⟨record, hrun, rfl⟩ := reply_ok.mp h
    cases hs
    simp only [getEvidence, Transition.transaction_ok] at hrun
    obtain ⟨rfl, row, d, -, hw, hd, he, rfl⟩ := load_ok hrun
    exact ⟨workflowId, _, stored_eq_some.mpr ⟨row, d, hd, he, hw, rfl⟩, rfl⟩
  | beginUpload input uuid =>
    obtain ⟨reservation, hrun, rfl⟩ := reply_ok.mp h
    cases hs
    exact ⟨_, _, (beginUpload_ok hb hdraws hnow hrun).2, rfl⟩
  | finishUpload input =>
    obtain ⟨_, hrun, rfl⟩ := reply_ok.mp h
    cases hs
    exact ⟨_, (finishUpload_ok hb hrun).2⟩
  | review input uuid =>
    obtain ⟨_, hrun, rfl⟩ := reply_ok.mp h
    cases hs
    exact ⟨_, (review_ok hb hrun).2⟩
  | transition input =>
    obtain ⟨_, hrun, rfl⟩ := reply_ok.mp h
    cases hs
    exact ⟨_, (transition_ok hb hrun).1⟩
  | _ =>
    obtain ⟨_, -, rfl⟩ := reply_ok.mp h
    cases hs

end CSO.HumanOperations
