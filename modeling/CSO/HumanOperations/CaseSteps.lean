import CSO.HumanOperations.Dossier

/-! What the operations on cases make of the dossiers. -/
namespace CSO.HumanOperations
open Transition (Table transaction throwIf required)
open Work

variable {t u : Tables} {caseId : String}

/-! Statements. -/

@[simp] theorem selectCase_ok {r : Option CaseRow} :
    (selectCase caseId).run t = .ok r u ↔ t.cases.find? caseId = r ∧ t = u := Transition.read_ok

@[simp] theorem selectCaseOf_ok {workflowId : String} {r : Option CaseRow} :
    (selectCaseOf workflowId).run t = .ok r u ↔ t.caseOf workflowId = r ∧ t = u := Transition.read_ok

@[simp] theorem selectOutbox_ok {eventId : String} {r : Option OutboxRow} :
    (selectOutbox eventId).run t = .ok r u ↔ t.outbox.find? eventId = r ∧ t = u := Transition.read_ok

@[simp] theorem selectIdempotency_ok {key : IdempotencyKey} {r : Option IdempotencyRow} :
    (selectIdempotency key).run t = .ok r u ↔ t.idempotency.find? key = r ∧ t = u := Transition.read_ok

@[simp] theorem requireCase_ok {row : CaseRow} :
    (requireCase caseId).run t = .ok row u ↔ t.cases.find? caseId = some row ∧ t = u := by
  simp only [requireCase, Transition.bind_ok, selectCase_ok, Transition.required_ok]
  constructor
  · rintro ⟨r, v, ⟨rfl, rfl⟩, h⟩
    exact h
  · intro h
    exact ⟨_, t, ⟨rfl, rfl⟩, h⟩

@[simp] theorem updateOutbox_ok {eventId : String} {i : Unit} :
    (updateOutbox eventId).run t = .ok i u ↔ t.changeOutbox eventId = u := by
  simp [updateOutbox, EStateM.run]

theorem insertCase_ok {row : CaseRow} {b : Bool} (h : (insertCase row).run t = .ok b u) :
    (b = true ∧ ∃ hid hw, u = t.addCase row hid hw) ∨
      (b = false ∧ u = t ∧ ∃ r ∈ t.cases.rows, r.workflowId = row.workflowId) := by
  simp only [insertCase, EStateM.run] at h
  split_ifs at h with hw hid
  · cases h
    exact Or.inl ⟨rfl, hid, hw, rfl⟩
  · cases h
    push Not at hw
    exact Or.inr ⟨rfl, rfl, hw⟩

theorem insertAudit_ok {row : AuditRow} {i : Unit} (h : (insertAudit row).run t = .ok i u) :
    ∃ hc, u = t.addAudit row hc := by
  simp only [insertAudit, EStateM.run] at h
  split_ifs at h with hc
  cases h
  exact ⟨hc, rfl⟩

theorem insertOutbox_ok {row : OutboxRow} {i : Unit} (h : (insertOutbox row).run t = .ok i u) :
    ∃ hid hc, u = t.addOutbox row hid hc := by
  simp only [insertOutbox, EStateM.run] at h
  split_ifs at h with hc
  cases h
  exact ⟨hc.1, hc.2, rfl⟩

theorem insertIdempotency_ok {row : IdempotencyRow} {b : Bool}
    (h : (insertIdempotency row).run t = .ok b u) :
    ∃ idempotency, u = { t with idempotency } := by
  simp only [insertIdempotency, EStateM.run] at h
  split_ifs at h
  · cases h
    exact ⟨_, rfl⟩
  · cases h
    exact ⟨t.idempotency, rfl⟩

theorem updateIdempotency_ok {key : IdempotencyKey} {eventId : String} {i : Unit}
    (h : (updateIdempotency key eventId).run t = .ok i u) :
    ∃ idempotency, u = { t with idempotency } := by
  simp only [updateIdempotency, EStateM.run] at h
  cases h
  exact ⟨_, rfl⟩

/-- A dossier holds nothing about idempotency. -/
theorem dossier_idempotency (idempotency : Table IdempotencyRow IdempotencyKey IdempotencyRow.key)
    (id : String) : ({ t with idempotency } : Tables).dossier id = t.dossier id := rfl

/-! Parts of an operation. -/

theorem reserveIdempotency_ok {key : IdempotencyKey} {fingerprint : String}
    {r : Option IdempotencyRow} (h : (reserveIdempotency key fingerprint).run t = .ok r u) :
    ∃ idempotency, u = { t with idempotency } := by
  simp only [reserveIdempotency, Transition.bind_ok] at h
  obtain ⟨b, v, hv, h⟩ := h
  obtain ⟨idempotency, rfl⟩ := insertIdempotency_ok hv
  cases b with
  | true =>
    simp only [if_true, Transition.pure_ok] at h
    exact ⟨idempotency, h.2.symm⟩
  | false =>
    simp only [Bool.false_eq_true, if_false, Transition.bind_ok, selectIdempotency_ok,
      Transition.required_ok, Transition.throwIf_ok, Transition.pure_ok] at h
    obtain ⟨_, _, ⟨-, rfl⟩, _, _, ⟨-, rfl⟩, _, _, ⟨-, rfl⟩, -, rfl⟩ := h
    exact ⟨idempotency, rfl⟩

theorem appendAudit_ok {row : CaseRow} {event : CaseEventType} {actorType : ActorType}
    {actorId : String} {details : List (String × String)} {now : ℤ} {i : Unit}
    (h : (appendAudit row event actorType actorId details now).run t = .ok i u) :
    Tables.Alters t u row.caseId fun d =>
      { d with audit := d.audit ++ [⟨row.caseId, event, now, actorType, actorId, row.caseVersion,
        details⟩] } := by
  obtain ⟨hc, rfl⟩ := insertAudit_ok h
  exact Tables.alters_addAudit hc

theorem reviseCase_ok {now : ℤ} {change : CaseRow → CaseRow}
    {hid : ∀ row, (change row).caseId = row.caseId}
    {hw : ∀ row, (change row).workflowId = row.workflowId} {row : CaseRow}
    (h : (reviseCase caseId now change hid hw).run t = .ok row u) :
    ∃ d, t.dossier caseId = some d ∧ row = (d.revise change now).case ∧
      Tables.Alters t u caseId (Dossier.revise · change now) ∧ u.outbox = t.outbox := by
  simp only [reviseCase, Transition.bind_ok, selectCase_ok, Transition.required_ok] at h
  obtain ⟨_, v, hv, r, w, ⟨hr, rfl⟩, rfl, rfl⟩ := h
  simp only [updateCase, EStateM.run] at hv
  cases hv
  have halters := Tables.alters_changeCase (t := t) caseId
    (fun row => { change row with caseVersion := row.caseVersion + 1, updatedAt := now }) hid hw
  obtain ⟨d', hd', rfl⟩ := Tables.exists_dossier hr
  have hself := halters caseId
  rw [if_pos rfl, hd'] at hself
  obtain ⟨d, hd, rfl⟩ := Option.map_eq_some_iff.mp hself.symm
  exact ⟨d, hd, rfl, halters, rfl⟩

/-- A revision of a case with its audit event. -/
theorem revised_moves {now : ℤ} {change : CaseRow → CaseRow}
    {hid : ∀ row, (change row).caseId = row.caseId}
    {hw : ∀ row, (change row).workflowId = row.workflowId} {row : CaseRow} {v : Tables}
    {event : CaseEventType} {actorType : ActorType} {actorId : String}
    {details : List (String × String)} {i : Unit}
    (h : (reviseCase caseId now change hid hw).run t = .ok row v)
    (h' : (appendAudit row event actorType actorId details now).run v = .ok i u) :
    ∃ d, t.dossier caseId = some d ∧ row = (d.revise change now).case ∧
      Tables.Alters t u caseId fun d =>
        (d.revise change now).log event actorType actorId details now := by
  obtain ⟨d, hd, rfl, halters, -⟩ := reviseCase_ok h
  have hcase : (d.revise change now).case.caseId = caseId :=
    (hid d.case).trans (Tables.dossier_caseId hd)
  have haudit := appendAudit_ok h'
  rw [hcase] at haudit
  refine ⟨d, hd, rfl, ?_⟩
  intro id
  rw [haudit id, halters id]
  split_ifs with hid'
  · rw [hid', hd]
    simp [Dossier.log, hcase]
  · rfl

/-! Operations. -/

theorem openCase_moves {input : OpenHumanCaseInput} {uuid : JS.Uuid} {now : ℤ} {row : CaseRow}
    (h : (openCase input uuid now).run t = .ok row u) : Tables.Moves t .opening u := by
  simp only [openCase, Transition.transaction_ok, Transition.bind_ok, selectCaseOf_ok] at h
  obtain ⟨current, _, ⟨-, rfl⟩, h⟩ := h
  cases current with
  | some current =>
    simp only [Transition.bind_ok, Transition.throwIf_ok, Transition.pure_ok] at h
    obtain ⟨_, _, ⟨-, rfl⟩, -, rfl⟩ := h
    exact Tables.Moves.refl t _
  | none =>
    simp only [Transition.bind_ok] at h
    obtain ⟨b, v, hinsert, h⟩ := h
    rcases insertCase_ok hinsert with ⟨rfl, hid, hw, rfl⟩ | ⟨rfl, rfl, -⟩
    · simp only [if_true, Transition.bind_ok, Transition.pure_ok] at h
      obtain ⟨_, w, haudit, -, rfl⟩ := h
      intro id
      rw [appendAudit_ok haudit id, Tables.dossier_addCase hid hw id]
      by_cases hcase : id = (input.row uuid now).caseId
      · simp only [hcase, if_true, Option.map_some]
        rw [Tables.dossier_eq_none.mpr hid]
        exact .opened (.case input uuid now)
      · simp only [hcase, if_false]
        exact .same _
    · simp only [Bool.false_eq_true, if_false, Transition.bind_ok, selectCaseOf_ok,
        Transition.required_ok, Transition.throwIf_ok, Transition.pure_ok] at h
      obtain ⟨_, _, ⟨-, rfl⟩, _, _, ⟨-, rfl⟩, _, _, ⟨-, rfl⟩, -, rfl⟩ := h
      exact Tables.Moves.refl v _

theorem closeCase_moves {input : CloseHumanCaseInput} {now : ℤ} {row : CaseRow}
    (h : (closeCase input now).run t = .ok row u) : Tables.Moves t .closing u := by
  simp only [closeCase, Transition.transaction_ok, Transition.bind_ok, requireCase_ok,
    Transition.throwIf_ok, Transition.ite_ok, Transition.pure_ok] at h
  obtain ⟨current, _, ⟨hcurrent, rfl⟩, _, _, ⟨-, rfl⟩, ⟨-, -, rfl⟩ | ⟨hopen, h⟩⟩ := h
  · exact Tables.Moves.refl t _
  · obtain ⟨closed, v, hrevise, _, w, haudit, -, rfl⟩ := h
    obtain ⟨d, hd, -, halters⟩ := revised_moves hrevise haudit
    have hcase : current = d.case := by
      rw [Tables.dossier_case hd] at hcurrent
      exact (Option.some.inj hcurrent).symm
    exact halters.moves hd (.closed input.workflowId _ now (hcase ▸ hopen))

theorem claimCase_moves {input : ClaimHumanCaseInput} {now : ℤ} {row : CaseRow}
    (h : (claimCase input now).run t = .ok row u) : Tables.Moves t .assigning u := by
  simp only [claimCase, Transition.transaction_ok, Transition.bind_ok] at h
  obtain ⟨replay, v, hreserve, h⟩ := h
  obtain ⟨idempotency, rfl⟩ := reserveIdempotency_ok hreserve
  cases replay with
  | some replay =>
    rw [requireCase_ok] at h
    obtain ⟨-, rfl⟩ := h
    exact Tables.moves_of_eq fun id => dossier_idempotency idempotency id
  | none =>
    simp only [assertExpectedVersion, Transition.bind_ok, requireCase_ok, Transition.throwIf_ok,
      Transition.ite_ok, Transition.pure_ok, not_or, not_not] at h
    obtain ⟨current, _, ⟨hcurrent, rfl⟩, _, _, ⟨-, rfl⟩, _, _, ⟨⟨hopen, -⟩, rfl⟩, h⟩ := h
    rcases h with ⟨-, -, rfl⟩ | ⟨-, h⟩
    · exact Tables.moves_of_eq fun id => dossier_idempotency idempotency id
    · obtain ⟨claimed, v, hrevise, _, w, haudit, -, rfl⟩ := h
      obtain ⟨d, hd, -, halters⟩ := revised_moves hrevise haudit
      have hcase : current = d.case := by
        rw [Tables.dossier_case hd] at hcurrent
        exact (Option.some.inj hcurrent).symm
      exact halters.moves hd (.assigned input.staffId [] now (hcase ▸ hopen))

theorem reassignCase_moves {input : ReassignHumanCaseInput} {now : ℤ} {row : CaseRow}
    (h : (reassignCase input now).run t = .ok row u) : Tables.Moves t .assigning u := by
  simp only [reassignCase, Transition.transaction_ok, Transition.bind_ok] at h
  obtain ⟨replay, v, hreserve, h⟩ := h
  obtain ⟨idempotency, rfl⟩ := reserveIdempotency_ok hreserve
  cases replay with
  | some replay =>
    rw [requireCase_ok] at h
    obtain ⟨-, rfl⟩ := h
    exact Tables.moves_of_eq fun id => dossier_idempotency idempotency id
  | none =>
    simp only [assertExpectedVersion, Transition.bind_ok, requireCase_ok, Transition.throwIf_ok,
      Transition.pure_ok, not_not] at h
    obtain ⟨current, _, ⟨hcurrent, rfl⟩, _, _, ⟨-, rfl⟩, _, _, ⟨hopen, rfl⟩, h⟩ := h
    obtain ⟨reassigned, v, hrevise, _, w, haudit, -, rfl⟩ := h
    obtain ⟨d, hd, -, halters⟩ := revised_moves hrevise haudit
    have hcase : current = d.case := by
      rw [Tables.dossier_case hd] at hcurrent
      exact (Option.some.inj hcurrent).symm
    exact halters.moves hd
      (.assigned input.assignedStaffId [("reassigned", "true")] now (hcase ▸ hopen))

theorem markOutboxDelivered_moves {eventId : String} {i : Unit}
    (h : (markOutboxDelivered eventId).run t = .ok i u) : Tables.Moves t .delivering u := by
  simp only [markOutboxDelivered, Transition.transaction_ok, updateOutbox_ok] at h
  subst h
  intro id
  rw [Tables.dossier_changeOutbox]
  cases t.dossier id with
  | none => exact .same none
  | some d => exact .next (.delivered eventId)

/-- A decision is a replay, or the assignee's decision on a claimed case. -/
theorem decideCase_ok {input : DecideHumanCaseInput} {uuid : JS.Uuid} {now : ℤ}
    {result : CaseRow × OutboxRow} (h : (decideCase input uuid now).run t = .ok result u) :
    (result.2 ∈ t.outbox.rows ∧ ∀ id, u.dossier id = t.dossier id) ∨
      ∃ d, t.dossier input.caseId = some d ∧ d.case.status = .claimed ∧
        d.case.assignedStaffId = some input.staffId ∧
        input.decision ∈ allowedActionsForCaseType d.case.caseType ∧
        d.case.caseVersion = input.expectedCaseVersion ∧
        result.2 = input.event d.case uuid now ∧ t.outbox.find? result.2.eventId = none ∧
        Tables.Alters t u input.caseId (Dossier.recordDecision · result.2) := by
  simp only [decideCase, Transition.transaction_ok, Transition.bind_ok] at h
  obtain ⟨replay, v, hreserve, h⟩ := h
  obtain ⟨idempotency, rfl⟩ := reserveIdempotency_ok hreserve
  cases replay with
  | some replay =>
    simp only [Transition.bind_ok, selectOutbox_ok, Transition.required_ok, requireCase_ok,
      Transition.pure_ok] at h
    obtain ⟨eventId, _, ⟨-, rfl⟩, _, _, ⟨hfind, rfl⟩, event, _, ⟨rfl, rfl⟩, row, _, ⟨-, rfl⟩, rfl,
      rfl⟩ := h
    exact Or.inl ⟨((Table.find?_eq_some _ _).mp hfind).1, fun id => rfl⟩
  | none =>
    simp only [assertExpectedVersion, Transition.bind_ok, requireCase_ok, Transition.throwIf_ok,
      Transition.pure_ok, not_or, not_not] at h
    obtain ⟨current, _, ⟨hcurrent, rfl⟩, _, _, ⟨hversion, rfl⟩, _, _,
      ⟨⟨hstatus, hassigned, hallowed⟩, rfl⟩, decided, v, hrevise, _, w, houtbox, _, x, hkey, _, y,
      haudit, rfl, rfl⟩ := h
    obtain ⟨d, hd, rfl, halters, houtboxes⟩ := reviseCase_ok hrevise
    have hcase : current = d.case := by
      rw [Tables.dossier_case hd] at hcurrent
      exact (Option.some.inj hcurrent).symm
    subst hcase
    have hcaseId : d.case.caseId = input.caseId := Tables.dossier_caseId hd
    obtain ⟨hid, hc, rfl⟩ := insertOutbox_ok houtbox
    obtain ⟨idempotency', rfl⟩ := updateIdempotency_ok hkey
    refine Or.inr ⟨d, hd, hstatus, hassigned, hallowed, hversion, rfl,
      houtboxes ▸ hid, ?_⟩
    have hadd := Tables.alters_addOutbox hid hc
    have haudit' := appendAudit_ok haudit
    have hevent : (input.event (d.revise (fun row => { row with
        status := .decisionPending
        decidedAt := some now }) now).case uuid now).caseId = input.caseId := hcaseId
    have hrow : (d.revise (fun row => { row with
        status := .decisionPending
        decidedAt := some now }) now).case.caseId = input.caseId := hcaseId
    rw [hevent] at hadd
    rw [hrow] at haudit'
    intro id
    rw [haudit' id, dossier_idempotency, hadd id, halters id]
    by_cases hc : id = input.caseId
    · subst hc
      have hd' : t.dossier input.caseId = some d := hd
      simp only [if_true, dossier_idempotency, hd', Option.map_some]
      simp only [Dossier.recordDecision, Dossier.log, Dossier.revise, DecideHumanCaseInput.event, hcaseId]
    · simp only [hc, if_false]
      rfl

theorem decideCase_moves {input : DecideHumanCaseInput} {uuid : JS.Uuid} {now : ℤ}
    {result : CaseRow × OutboxRow} (h : (decideCase input uuid now).run t = .ok result u) :
    Tables.Moves t .deciding u := by
  rcases decideCase_ok h with ⟨-, hsame⟩ |
    ⟨d, hd, hstatus, hassigned, hallowed, -, hevent, -, halters⟩
  · exact Tables.moves_of_eq hsame
  · apply halters.moves hd
    rw [hevent]
    exact .decided _ hstatus hassigned hallowed rfl rfl

end CSO.HumanOperations
