import CSO.HumanOperations.Machine

/-! The life of a case: one decision at most, by its assignee, and one change of phase at most. -/
namespace CSO.HumanOperations

namespace Dossier
variable {d d' d'' : Dossier}

def decisions (d : Dossier) : List AuditRow :=
  d.audit.filter fun event => event.eventType = .decisionRecorded

/-- A decision in the outbox is the recorded one, by the assignee, and the case type allows it. -/
structure Backs (d : Dossier) (event : OutboxRow) : Prop where
  assigned : d.case.assignedStaffId = some event.decidedBy
  allowed : event.decision ∈ allowedActionsForCaseType d.case.caseType
  settled : d.case.status = .decisionPending ∨ d.case.status = .closed
  recorded : ∃ audit, d.decisions = [audit] ∧ audit.actorId = event.decidedBy ∧
    audit.details = [("decision", event.decision.text)]

/-- At most one decision, in the audit trail and in the outbox, and none before it is made. -/
structure Lawful (d : Dossier) : Prop where
  oneDecision : d.decisions.length ≤ 1
  oneEvent : d.outbox.length = d.decisions.length
  backed : ∀ event ∈ d.outbox, d.Backs event
  undecided : d.case.status.undecided = true → d.outbox = []
  pending : d.case.status = .decisionPending → d.outbox ≠ []
  undated : d.outbox = [] → d.case.decidedAt = none

/-- What one operation can change: the phase only out of an accepted evidence review, and the
decision only by the assignee of a claimed case. -/
structure Changes (d d' : Dossier) : Prop where
  phase : d'.case.caseType ≠ d.case.caseType → d.case.caseType = .refundEvidenceReview ∧
    d.case.status ≠ .closed ∧ ∃ row, d.evidence = some row ∧ row.document.assessment = .accepted
  decision : ∀ event ∈ d'.outbox, (∀ old ∈ d.outbox, old.eventId ≠ event.eventId) →
    d.case.status = .claimed ∧ d.case.assignedStaffId = some event.decidedBy ∧
      event.decision ∈ allowedActionsForCaseType d.case.caseType

/-- What any number of operations keeps. -/
structure Follows (d d' : Dossier) : Prop where
  workflow : d'.case.workflowId = d.case.workflowId
  pending : d.case.status = .decisionPending →
    d'.case.status = .decisionPending ∨ d'.case.status = .closed
  closed : d.case.status = .closed → d'.case.status = .closed
  phase : d.case.caseType ≠ .refundEvidenceReview → d'.case.caseType = d.case.caseType

theorem Follows.refl (d : Dossier) : d.Follows d := ⟨rfl, Or.inl, id, fun _ => rfl⟩

theorem Follows.trans (h : d.Follows d') (h' : d'.Follows d'') : d.Follows d'' where
  workflow := h'.workflow.trans h.workflow
  pending hp := by
    rcases h.pending hp with hp' | hc
    · exact h'.pending hp'
    · exact Or.inr (h'.closed hc)
  closed hc := h'.closed (h.closed hc)
  phase ht := by
    have hd := h.phase ht
    rw [← hd] at ht
    exact (h'.phase ht).trans hd

theorem Lawful.decisions_eq_nil (h : d.Lawful) (hu : d.outbox = []) : d.decisions = [] := by
  have hlength := h.oneEvent
  rw [hu] at hlength
  exact List.length_eq_zero_iff.mp hlength.symm

/-- A case that collects its evidence has not been decided. -/
theorem Lawful.reviewing (h : d.Lawful) (ht : d.case.caseType = .refundEvidenceReview) :
    d.decisions = [] ∧ d.outbox = [] ∧ d.case.status ≠ .decisionPending ∧
      d.case.decidedAt = none := by
  have houtbox : d.outbox = [] := by
    rw [List.eq_nil_iff_forall_not_mem]
    intro event hevent
    have hallowed := (h.backed event hevent).allowed
    rw [ht, allowedActions_evidenceReview] at hallowed
    cases hallowed
  exact ⟨h.decisions_eq_nil houtbox, houtbox, fun hp => h.pending hp houtbox, h.undated houtbox⟩

theorem decisions_log (d : Dossier) {event : CaseEventType} (hevent : event ≠ .decisionRecorded)
    (actorType : ActorType) (actorId : String) (details : List (String × String)) (now : ℤ) :
    (d.log event actorType actorId details now).decisions = d.decisions := by
  simp [decisions, log, hevent]

/-- An update of the case and of its collection that decides nothing. -/
theorem Lawful.update (h : d.Lawful) (hdecisions : d'.decisions = d.decisions)
    (houtbox : d'.outbox = d.outbox) (hdecidedAt : d'.case.decidedAt = d.case.decidedAt)
    (hstatus : d'.case.status = d.case.status ∨ d'.case.status = .closed ∨
      d.outbox = [] ∧ d'.case.status.undecided = true)
    (hkept : d'.case.caseType = d.case.caseType ∧
      d'.case.assignedStaffId = d.case.assignedStaffId ∨ d.outbox = []) : d'.Lawful where
  oneDecision := hdecisions ▸ h.oneDecision
  oneEvent := by rw [houtbox, hdecisions, h.oneEvent]
  backed event hevent := by
    rw [houtbox] at hevent
    have hne : d.outbox ≠ [] := List.ne_nil_of_mem hevent
    obtain ⟨ha, hallowed, hsettled, hrecorded⟩ := h.backed event hevent
    obtain ⟨htype, hassigned⟩ := hkept.resolve_right hne
    refine ⟨hassigned.trans ha, htype ▸ hallowed, ?_, hdecisions ▸ hrecorded⟩
    rcases hstatus with hs | hs | ⟨hnil, -⟩
    · rw [hs]
      exact hsettled
    · exact Or.inr hs
    · exact absurd hnil hne
  undecided hu := by
    rw [houtbox]
    rcases hstatus with hs | hs | ⟨hnil, -⟩
    · exact h.undecided (hs ▸ hu)
    · simp [hs, HumanCaseStatus.undecided] at hu
    · exact hnil
  pending hp := by
    rw [houtbox]
    rcases hstatus with hs | hs | ⟨-, hu⟩
    · exact h.pending (hs ▸ hp)
    · rw [hs] at hp
      cases hp
    · simp [hp, HumanCaseStatus.undecided] at hu
  undated hnil := by
    rw [hdecidedAt]
    exact h.undated (houtbox ▸ hnil)

theorem undecided_of_open (hopen : d.case.status ≠ .closed) (hp : d.case.status ≠ .decisionPending) :
    d.case.status.undecided = true := by
  simp [HumanCaseStatus.undecided, hopen, hp]

/-- The decision of a claimed case. -/
theorem Lawful.recordDecision (h : d.Lawful) {event : OutboxRow}
    (hstatus : d.case.status = .claimed) (hassigned : d.case.assignedStaffId = some event.decidedBy)
    (hallowed : event.decision ∈ allowedActionsForCaseType d.case.caseType) :
    (d.recordDecision event).Lawful := by
  have hnil : d.outbox = [] := h.undecided (by rw [hstatus]; rfl)
  have hnone := h.decisions_eq_nil hnil
  have houtbox : (d.recordDecision event).outbox = [event] := by
    simp [Dossier.recordDecision, Dossier.log, hnil]
  obtain ⟨audit, haudit, hactor, hdetails⟩ : ∃ audit : AuditRow,
      (d.recordDecision event).audit = d.audit ++ [audit] ∧ audit.actorId = event.decidedBy ∧
      audit.details = [("decision", event.decision.text)] ∧
      audit.eventType = .decisionRecorded := ⟨_, rfl, rfl, rfl, rfl⟩
  obtain ⟨hdetails, htype⟩ := hdetails
  have hdecisions : (d.recordDecision event).decisions = [audit] := by
    unfold decisions at hnone ⊢
    rw [haudit, List.filter_append, hnone, List.filter_singleton]
    simp [htype]
  refine ⟨by rw [hdecisions]; rfl, by rw [hdecisions, houtbox]; rfl, ?_, ?_, ?_, ?_⟩
  · intro other hother
    rw [houtbox, List.mem_singleton] at hother
    subst hother
    exact ⟨hassigned, hallowed, Or.inl rfl, audit, hdecisions, hactor, hdetails⟩
  · intro hu
    cases hu
  · intro _
    rw [houtbox]
    exact List.cons_ne_nil _ _
  · intro hempty
    rw [houtbox] at hempty
    cases hempty

theorem lawful_invariant : Dossier.Invariant Lawful where
  opened d h := by
    -- An opened case has neither a decision nor an outbox event.
    have hnew : d.case.status = .opened ∧ d.outbox = [] ∧ d.decisions = [] ∧
        d.case.decidedAt = none := by
      cases h <;> exact ⟨rfl, rfl, rfl, rfl⟩
    obtain ⟨hstatus, houtbox, hdecisions, hdecidedAt⟩ := hnew
    refine ⟨?_, ?_, ?_, fun _ => houtbox, ?_, fun _ => hdecidedAt⟩
    · rw [hdecisions]
      exact Nat.zero_le 1
    · rw [hdecisions, houtbox]
      rfl
    · rw [houtbox]
      intro event hevent
      cases hevent
    · intro hp
      rw [hstatus] at hp
      cases hp
  next d d' h hn := by
    cases hn with
    | closed workflowId details now hopen =>
      exact h.update (decisions_log _ (by decide) _ _ _ _) rfl rfl (Or.inr (Or.inl rfl))
        (Or.inl ⟨rfl, rfl⟩)
    | assigned staffId details now hopen =>
      exact h.update (decisions_log _ (by decide) _ _ _ _) rfl rfl
        (Or.inr (Or.inr ⟨h.undecided hopen, rfl⟩)) (Or.inr (h.undecided hopen))
    | decided event hstatus hassigned hallowed hcase hworkflow =>
      exact h.recordDecision hstatus hassigned hallowed
    | delivered eventId =>
      refine ⟨h.oneDecision, ?_, ?_, ?_, ?_, ?_⟩
      · rw [List.length_map]
        exact h.oneEvent
      · intro event hevent
        obtain ⟨row, hrow, rfl⟩ := List.mem_map.mp hevent
        obtain ⟨ha, hallowed, hsettled, hrecorded⟩ := h.backed row hrow
        split_ifs
        · exact ⟨ha, hallowed, hsettled, hrecorded⟩
        · exact ⟨ha, hallowed, hsettled, hrecorded⟩
      · intro hu
        rw [h.undecided hu, List.map_nil]
      · intro hp hnil
        exact h.pending hp (List.map_eq_nil_iff.mp hnil)
      · intro hnil
        exact h.undated (List.map_eq_nil_iff.mp hnil)
    | saved row hrow document hnext event actorType actorId details now hevent =>
      exact h.update (decisions_log _ hevent _ _ _ _) rfl rfl (Or.inl rfl) (Or.inl ⟨rfl, rfl⟩)
    | transitioned row hrow input now haccepted hretired htype hopen =>
      have hnil := (h.reviewing htype).2.1
      exact h.update (decisions_log _ (by decide) _ _ _ _) rfl rfl (Or.inr (Or.inr ⟨hnil, rfl⟩))
        (Or.inr hnil)

theorem Next.changes {deed : Deed} (hn : d.Next deed d') : d.Changes d' := by
  have hold : ∀ {P : Prop}, ∀ event ∈ d.outbox,
      (∀ old ∈ d.outbox, old.eventId ≠ event.eventId) → P :=
    fun event hevent hnew => absurd rfl (hnew event hevent)
  cases hn with
  | closed workflowId details now hopen => exact ⟨fun hne => absurd rfl hne, fun event => hold event⟩
  | assigned staffId details now hopen => exact ⟨fun hne => absurd rfl hne, fun event => hold event⟩
  | decided event hstatus hassigned hallowed hcase hworkflow =>
    refine ⟨fun hne => absurd rfl hne, fun other hother hnew => ?_⟩
    rcases List.mem_append.mp hother with hother | hother
    · exact hold other hother hnew
    · rw [List.mem_singleton.mp hother]
      exact ⟨hstatus, hassigned, hallowed⟩
  | delivered eventId =>
    refine ⟨fun hne => absurd rfl hne, fun event hevent hnew => ?_⟩
    obtain ⟨row, hrow, rfl⟩ := List.mem_map.mp hevent
    have hid := hnew row hrow
    split_ifs at hid
    · exact absurd rfl hid
    · exact absurd rfl hid
  | saved row hrow document hnext event actorType actorId details now hevent =>
    exact ⟨fun hne => absurd rfl hne, fun event => hold event⟩
  | transitioned row hrow input now haccepted hretired htype hopen =>
    exact ⟨fun _ => ⟨htype, hopen, row, hrow, haccepted⟩, fun event => hold event⟩

theorem Lawful.follows {deed : Deed} (h : d.Lawful) (hn : d.Next deed d') : d.Follows d' := by
  cases hn with
  | closed workflowId details now hopen =>
    exact ⟨rfl, fun _ => Or.inr rfl, fun _ => rfl, fun _ => rfl⟩
  | assigned staffId details now hopen =>
    refine ⟨rfl, fun hp => ?_, fun hc => ?_, fun _ => rfl⟩
    · simp [hp, HumanCaseStatus.undecided] at hopen
    · simp [hc, HumanCaseStatus.undecided] at hopen
  | decided event hstatus hassigned hallowed hcase hworkflow =>
    refine ⟨rfl, fun _ => Or.inl rfl, fun hc => ?_, fun _ => rfl⟩
    rw [hstatus] at hc
    cases hc
  | delivered eventId => exact ⟨rfl, Or.inl, id, fun _ => rfl⟩
  | saved row hrow document hnext event actorType actorId details now hevent =>
    exact ⟨rfl, Or.inl, id, fun _ => rfl⟩
  | transitioned row hrow input now haccepted hretired htype hopen =>
    exact ⟨rfl, fun hp => absurd hp (h.reviewing htype).2.2.1, fun hc => absurd hc hopen,
      fun hne => absurd htype hne⟩

theorem Changes.refl (d : Dossier) : d.Changes d where
  phase hne := absurd rfl hne
  decision event hevent hnew := absurd rfl (hnew event hevent)

end Dossier

variable {db db' : Database} {scope : Scope} {caseId : String} {d : Dossier}

theorem database_lawful (h : database.Reachable Database.IsEmpty db)
    (hd : (db scope).dossier caseId = some d) : d.Lawful :=
  Dossier.lawful_invariant.reachable (database_reachable h) hd

theorem database_changes (h : database.Reachable Database.IsEmpty db) {e : Event}
    (hstep : database.step db e = some db') (hd : (db scope).dossier caseId = some d)
    {d' : Dossier} (hd' : (db' scope).dossier caseId = some d') : d.Changes d' := by
  obtain ⟨u, hu, rfl⟩ := Option.map_eq_some_iff.mp hstep
  by_cases hscope : e.operation.scope = scope
  · subst hscope
    rw [Function.update_self] at hd'
    have hmove := step_moves (reachable_bound (database_reachable h)) hu caseId
    rw [hd, hd'] at hmove
    cases hmove with
    | same => exact Dossier.Changes.refl d
    | next hn => exact hn.changes
  · rw [Function.update_of_ne (Ne.symm hscope), hd] at hd'
    cases hd'
    exact Dossier.Changes.refl d

theorem database_follows (h : database.Reachable Database.IsEmpty db) {es : List Event}
    (hrun : database.run db es = some db') (hd : (db scope).dossier caseId = some d) :
    ∃ d', (db' scope).dossier caseId = some d' ∧ d.Follows d' := by
  obtain ⟨fs, hfs⟩ := database_run hrun
  exact dossier_run Dossier.Follows.refl (fun _ _ _ => Dossier.Follows.trans)
    Dossier.lawful_invariant (fun _ _ => Dossier.Lawful.follows) (database_reachable h) hfs hd

/-- In every scope a workflow has one case at most, a case has one decision at most and one
outbox event for it, and a case that collects evidence has none. A decision is made by the assignee
of a claimed case, with an action of its type. A decided case can only be closed, a closed one
stays closed, and a case changes its type once at most: out of an accepted evidence review that
is not closed. -/
theorem human_case_lifecycle (h : database.Reachable Database.IsEmpty db) (scope : Scope) :
    (∀ row ∈ (db scope).cases.rows, ∀ other ∈ (db scope).cases.rows,
      row.workflowId = other.workflowId → row = other) ∧
    ∀ caseId d, (db scope).dossier caseId = some d →
      d.Lawful ∧
      (d.case.caseType = .refundEvidenceReview → d.decisions = [] ∧ d.outbox = [] ∧
        d.case.status ≠ .decisionPending ∧ d.case.decidedAt = none) ∧
      (∀ e db' d', database.step db e = some db' → (db' scope).dossier caseId = some d' →
        d.Changes d') ∧
      ∀ es db', database.run db es = some db' →
        ∃ d', (db' scope).dossier caseId = some d' ∧ d.Follows d' := by
  constructor
  · intro row hrow other hother hworkflow
    exact Transition.Table.eq_of_unique (db scope).oneCase hrow hother hworkflow
  · intro caseId d hd
    have hlawful := database_lawful h hd
    refine ⟨hlawful, hlawful.reviewing, ?_, ?_⟩
    · intro e db' d' hstep hd'
      exact database_changes h hstep hd hd'
    · intro es db' hrun
      exact database_follows h hrun hd

/-- The case of a journey that went through evidence review and approval. -/
theorem human_case_lifecycle_decided : ∃ db : Database,
    database.run (fun _ => .empty) Journey.decided = some db ∧
      ∃ d, (db Journey.scope).dossier Journey.caseId = some d ∧
        d.case.status = .decisionPending ∧ d.case.caseType = .refundApproval ∧ d.Lawful ∧
        ∀ es db', database.run db es = some db' →
          ∃ d', (db' Journey.scope).dossier Journey.caseId = some d' ∧ d.Follows d' := by
  obtain ⟨db, hrun, hcase⟩ : ∃ db : Database,
      database.run (fun _ => .empty) Journey.decided = some db ∧
        ((db Journey.scope).dossier Journey.caseId).any (fun d =>
          d.case.status = .decisionPending ∧ d.case.caseType = .refundApproval) = true :=
    Transition.Machine.exists_run (by decide +kernel)
  obtain ⟨d, hd, hstatus⟩ := (Option.any_eq_true _ _).mp hcase
  have hreach : database.Reachable Database.IsEmpty db := ⟨_, _, fun _ => rfl, hrun⟩
  obtain ⟨hlawful, -, -, hfollows⟩ :=
    (human_case_lifecycle hreach Journey.scope).2 Journey.caseId d hd
  obtain ⟨hpending, htype⟩ := of_decide_eq_true hstatus
  exact ⟨db, hrun, d, hd, hpending, htype, hlawful, hfollows⟩

end CSO.HumanOperations
