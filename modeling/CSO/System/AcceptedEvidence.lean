import CSO.System.Evidence
import CSO.Workers.Workflow

/-! Accepted evidence as it is seen later, until it is retired. -/
namespace CSO.System
open HumanOperations (EvidenceRecord EvidenceDocument EvidenceSnapshot Scope Database
  evidenceSnapshot evidenceSummary summaryPhotos)

theorem evidenceSummary_of_accepted {record : EvidenceRecord}
    (ha : record.document.assessment = .accepted) (hr : record.document.retired = false) :
    evidenceSummary record = {
      evidenceVersion := record.document.revision
      assessment := .accepted
      canUpload := false
      customerMessageCode := none
      attachments := summaryPhotos record.document.ready } := by
  simp [evidenceSummary, HumanOperations.canUpload, EvidenceDocument.visible, ha, hr]

theorem accepted_of_parse {record : EvidenceRecord} (h : record.document.Kept)
    (hnamed : record.Named) {input : Workers.EvidenceAccess} {now : ℤ}
    {seen : Workers.EvidenceSnapshot}
    (hseen : Workers.parseEvidenceSnapshot (evidenceSnapshot record).json input now = .ok seen) :
    ∃ observedAt, seen.accepted = acceptedAtWorker record.document observedAt := by
  have hvalue : (snapshotAtWorker (evidenceSnapshot record)).accepted now = .ok seen.accepted := by
    simp only [Workers.parseEvidenceSnapshot, snapshotSchema_json h hnamed] at hseen
    split_ifs at hseen
    cases hv : (snapshotAtWorker (evidenceSnapshot record)).accepted now with
    | error e =>
      rw [hv] at hseen
      cases hseen
    | ok accepted =>
      rw [hv] at hseen
      cases hseen
      rfl
  cases hnow : JS.Date.toISOString now with
  | some observedAt =>
    rw [accepted_snapshot h hnow] at hvalue
    exact ⟨observedAt, (Except.ok.inj hvalue).symm⟩
  | none =>
    refine ⟨"", ?_⟩
    have hnone : ¬(record.document.assessment = .accepted ∧ record.document.retired = false) := by
      intro ha
      have hassessment := (assessment_snapshotAtWorker record).mpr ha
      rw [Workers.SnapshotValue.accepted, if_neg (not_not.mpr hassessment)] at hvalue
      split at hvalue
      · simp only [hnow] at hvalue
        split_ifs at hvalue
      · cases hvalue
    have hassessment := mt (assessment_snapshotAtWorker record).mp hnone
    rw [Workers.SnapshotValue.accepted, if_pos hassessment] at hvalue
    rw [acceptedAtWorker, if_neg hnone]
    exact (Except.ok.inj hvalue).symm

/-- The snapshot shows the accepted set of a record. -/
def ShowsAccepted (record : EvidenceRecord) (snapshot : EvidenceSnapshot) : Prop :=
  snapshot.evidence = (evidenceSnapshot record).evidence ∧
    snapshot.acceptedManifestHash = (evidenceSnapshot record).acceptedManifestHash ∧
    snapshot.assessmentId = (evidenceSnapshot record).assessmentId

theorem showsAccepted_of_freezes {record record' : EvidenceRecord}
    (h : record.document.Freezes record'.document) (hkept : record'.document.Kept)
    (ha : record.document.assessment = .accepted) (hr' : record'.document.retired = false) :
    ShowsAccepted record (evidenceSnapshot record') ∧
      record'.document.ready = record.document.ready ∧
      record'.document.manifestHash =
        some (HumanOperations.manifestHash record'.document.ready) := by
  obtain ⟨hr, hkeeps⟩ := h hr'
  obtain ⟨ha', hrevision, hid, hhash, hready⟩ := hkeeps ha
  refine ⟨⟨?_, hhash, hid⟩, hready, ?_⟩
  · simp only [evidenceSnapshot, evidenceSummary_of_accepted ha hr,
      evidenceSummary_of_accepted ha' hr', hrevision, hready]
  · rw [EvidenceDocument.manifestHash_ready]
    exact (hkept.accepted ha' hr').2.1

/-- Once a record is accepted, its version, its assessment and its ready photos stay what they are
until it is retired, whatever is done in between: every snapshot shows them, the manifest is theirs,
and two reads of the worker disagree only through retirement. -/
theorem accepted_evidence_frozen {db db' : Database}
    (h : HumanOperations.database.Reachable Database.IsEmpty db) {es : List HumanOperations.Event}
    (hrun : HumanOperations.database.run db es = some db') {scope : Scope} {workflowId : String}
    {record : EvidenceRecord} (hrecord : (db scope).stored workflowId = some record)
    (haccepted : record.document.assessment = .accepted)
    (hretired : record.document.retired = false) :
    ∃ record', (db' scope).stored workflowId = some record' ∧
      (record'.document.retired = false → ShowsAccepted record (evidenceSnapshot record') ∧
        record'.document.ready = record.document.ready ∧
        record'.document.manifestHash =
          some (HumanOperations.manifestHash record'.document.ready)) ∧
      (∀ e db'' reply u snapshot, HumanOperations.database.step db' e = some db'' →
        e.operation.scope = scope → (e.operation.exec e.now).run (db' scope) = .ok reply u →
        reply.snapshot? = some snapshot → snapshot.caseId = record.case.caseId →
        ∃ record'', (db'' scope).stored workflowId = some record'' ∧
          (record''.document.retired = false → ShowsAccepted record snapshot)) ∧
      ∀ input now now' seen seen',
        Workers.parseEvidenceSnapshot (evidenceSnapshot record).json input now = .ok seen →
        Workers.parseEvidenceSnapshot (evidenceSnapshot record').json input now' = .ok seen' →
        (Workers.sameAcceptedEvidence seen.accepted seen'.accepted = true ↔
          record'.document.retired = false) := by
  obtain ⟨record', hrecord', hcase, hkept', hfreezes⟩ :=
    HumanOperations.stored_run h hrun hrecord
  obtain ⟨hkept, hnamed⟩ := HumanOperations.stored_kept h hrecord
  have hreach := h.run hrun
  refine ⟨record', hrecord', fun hr' => showsAccepted_of_freezes hfreezes hkept' haccepted hr', ?_, ?_⟩
  · rintro e db'' reply u snapshot hstep rfl hexec hreply hid
    obtain ⟨hdraws, hnow, hu⟩ := HumanOperations.step_reply hstep hexec
    have hbound := HumanOperations.reachable_bound
      (show HumanOperations.machine.Reachable HumanOperations.IsEmpty (db' e.operation.scope) from
        HumanOperations.database_reachable hreach)
    obtain ⟨w, other, hother, rfl⟩ := HumanOperations.exec_shows hbound hdraws hnow hexec hreply
    have hrun' := Transition.Machine.run_append.mpr
      ⟨db', hrun, Transition.Machine.run_singleton.mpr hstep⟩
    obtain ⟨record'', hrecord'', hcase'', hkept'', hfreezes''⟩ :=
      HumanOperations.stored_run h hrun' hrecord
    rw [← hu] at hother
    have hsame : other = record'' :=
      HumanOperations.stored_of_caseId hother hrecord'' (hid.trans hcase''.symm)
    refine ⟨record'', hrecord'', fun hr'' => ?_⟩
    rw [hsame]
    exact (showsAccepted_of_freezes hfreezes'' hkept'' haccepted hr'').1
  · intro input now now' seen seen' hseen hseen'
    obtain ⟨observedAt, hs⟩ := accepted_of_parse hkept hnamed hseen
    obtain ⟨observedAt', hs'⟩ :=
      accepted_of_parse hkept' (HumanOperations.stored_kept hreach hrecord').2 hseen'
    obtain ⟨hash, id, hhash, hid, hsome⟩ :=
      exists_acceptedAtWorker hkept haccepted hretired observedAt
    rw [hs, hs', hsome]
    constructor
    · intro hsame
      by_contra hr'
      simp [acceptedAtWorker, hr', Workers.sameAcceptedEvidence] at hsame
    · intro hr'
      obtain ⟨ha', hrevision, hid', hhash', -⟩ := (hfreezes hr').2 haccepted
      rw [acceptedAtWorker, if_pos ⟨ha', hr'⟩, hid', hhash', hhash, hid, hrevision]
      simp [Workers.sameAcceptedEvidence]

/-- The case of an accepted collection moves on to its decision, and shows the same evidence. -/
theorem accepted_evidence_frozen_decided : ∃ (db db' : Database) (record record' : EvidenceRecord),
    HumanOperations.database.run (fun _ => .empty) HumanOperations.Journey.accepted = some db ∧
      HumanOperations.database.run db (HumanOperations.Journey.decided.drop 5) = some db' ∧
      (db HumanOperations.Journey.scope).stored "refund-1" = some record ∧
      (db' HumanOperations.Journey.scope).stored "refund-1" = some record' ∧
      ShowsAccepted record (evidenceSnapshot record') := by
  obtain ⟨db', hrun, hstored'⟩ : ∃ db' : Database,
      HumanOperations.database.run (fun _ => .empty) HumanOperations.Journey.decided = some db' ∧
        ((db' HumanOperations.Journey.scope).stored "refund-1").any (fun record =>
          record.document.retired = false) = true :=
    Transition.Machine.exists_run (by decide +kernel)
  obtain ⟨db, hrun₁, hstored⟩ : ∃ db : Database,
      HumanOperations.database.run (fun _ => .empty) HumanOperations.Journey.accepted = some db ∧
        ((db HumanOperations.Journey.scope).stored "refund-1").any (fun record =>
          record.document.assessment = .accepted ∧ record.document.retired = false) = true :=
    Transition.Machine.exists_run (by decide +kernel)
  obtain ⟨mid, hmid, hrun₂⟩ := Transition.Machine.run_append.mp
    (show HumanOperations.database.run (fun _ => .empty) (HumanOperations.Journey.accepted ++
      HumanOperations.Journey.decided.drop 5) = some db' from hrun)
  rw [hrun₁] at hmid
  cases hmid
  obtain ⟨record, hrecord, hrow⟩ := (Option.any_eq_true _ _).mp hstored
  obtain ⟨ha, hr⟩ := of_decide_eq_true hrow
  obtain ⟨other, hother, hrow'⟩ := (Option.any_eq_true _ _).mp hstored'
  obtain ⟨record', hrecord', hshows, -⟩ :=
    accepted_evidence_frozen ⟨_, _, fun _ => rfl, hrun₁⟩ hrun₂ hrecord ha hr
  have hsame : other = record' := Option.some.inj (hother.symm.trans hrecord')
  rw [hsame] at hrow'
  exact ⟨db, db', record, record', hrun₁, hrun₂, hrecord, hrecord',
    (hshows (of_decide_eq_true hrow')).1⟩
end CSO.System
