import CSO.HumanOperations.Machine

/-! The audit trail of a case has one event for each of its versions, in order. -/
namespace CSO.HumanOperations

/-- One audit event for each version from the first to the current one. -/
def Dossier.Trail (d : Dossier) : Prop :=
  d.audit.map AuditRow.caseVersion = List.range' 1 d.case.caseVersion

/-- The event of the next version continues the trail. -/
theorem Dossier.Trail.extend {d d' : Dossier} {event : AuditRow} (h : d.Trail)
    (haudit : d'.audit = d.audit ++ [event]) (hevent : event.caseVersion = d.case.caseVersion + 1)
    (hversion : d'.case.caseVersion = d.case.caseVersion + 1) : d'.Trail := by
  unfold Trail at h ⊢
  rw [haudit, List.map_append, h, List.map_singleton, hevent, hversion, List.range'_1_concat,
    Nat.add_comm 1]

theorem Dossier.trail_invariant : Dossier.Invariant Dossier.Trail where
  opened d h := by
    cases h with
    | case input uuid now => rfl
    | collection input uuid now => rfl
  next d d' h hn := by
    cases hn with
    | closed workflowId details now hopen => exact h.extend rfl rfl rfl
    | assigned staffId details now hopen => exact h.extend rfl rfl rfl
    | decided event hstatus hassigned hallowed hcase hworkflow => exact h.extend rfl rfl rfl
    | delivered eventId => exact h
    | saved row hrow document hnext event actorType actorId details now hevent =>
      exact h.extend rfl rfl rfl
    | transitioned row hrow input now haccepted hretired htype hopen =>
      exact h.extend rfl rfl rfl

/-- The versions of the audit events of a case are 1, 2, … up to its version, and an operation
that throws leaves the tables of every scope as they were. -/
theorem audit_trail {db : Database} (h : database.Reachable Database.IsEmpty db) :
    (∀ scope, ∀ row ∈ (db scope).cases.rows,
      ((db scope).audit.filter fun event => event.caseId = row.caseId).map AuditRow.caseVersion =
        List.range' 1 row.caseVersion) ∧
    ∀ e : Event, ∀ failure t,
      (e.operation.exec e.now).run (db e.operation.scope) = .error failure t →
      t = db e.operation.scope ∧ ∀ db', database.step db e = some db' → db' = db := by
  constructor
  · intro scope row hrow
    have hfind := Transition.Table.find?_of_mem _ hrow
    obtain ⟨d, hd, rfl⟩ := Tables.exists_dossier hfind
    have htrail := Dossier.trail_invariant.reachable (database_reachable h) hd
    rw [Dossier.Trail, Tables.dossier_audit hd] at htrail
    exact htrail
  · intro e failure t hthrows
    exact ⟨exec_error hthrows, fun db' hstep => step_failure hstep hthrows⟩

/-- A decision that comes too late is refused: the case has the nine events of its versions. -/
theorem audit_trail_of_closed_case : ∃ db : Database,
    database.run (fun _ => .empty) Journey.closed = some db ∧
      ((db Journey.scope).audit.filter fun event => event.caseId = Journey.caseId).map
        AuditRow.caseVersion = [1, 2, 3, 4, 5, 6, 7, 8, 9] ∧
      ∀ failure t, ((Operation.decideCase (Journey.decision 9 .reject) Journey.photoUuid).exec
        0).run (db Journey.scope) = .error failure t → t = db Journey.scope := by
  obtain ⟨db, hrun, hrow⟩ : ∃ db : Database,
      database.run (fun _ => .empty) Journey.closed = some db ∧
        ((db Journey.scope).cases.rows.map fun row => (row.caseId, row.caseVersion)) =
          [(Journey.caseId, 9)] :=
    Transition.Machine.exists_run (by decide +kernel)
  have htrail := audit_trail ⟨_, _, fun _ => rfl, hrun⟩
  refine ⟨db, hrun, ?_, fun failure t hthrows => (htrail.2 ⟨_, 0⟩ failure t hthrows).1⟩
  obtain ⟨row, hrows, hkey⟩ := List.map_eq_singleton_iff.mp hrow
  have hall := htrail.1 Journey.scope row (by rw [hrows]; exact List.mem_singleton_self row)
  rw [(Prod.mk.inj hkey).1, (Prod.mk.inj hkey).2] at hall
  exact hall

end CSO.HumanOperations
