import CSO.HumanOperations.Routes

/-! Every decision that a workflow hears of through the outbox was recorded by its case. -/
namespace CSO.HumanOperations
open Transition (Table)

variable {t u : Tables} {db db' : Database}

/-- The event is in the outbox, delivered or not. -/
def Tables.Posted (t : Tables) (event : OutboxRow) : Prop :=
  ∃ row ∈ t.outbox.rows, Tables.deliver row = Tables.deliver event

theorem deliver_caseId {a b : OutboxRow} (h : Tables.deliver a = Tables.deliver b) :
    a.caseId = b.caseId := by
  have hid := congrArg OutboxRow.caseId h
  exact hid

theorem deliver_signal {a b : OutboxRow} (h : Tables.deliver a = Tables.deliver b) :
    a.signal = b.signal ∧ a.scope = b.scope := by
  have hsignal := congrArg OutboxRow.signal h
  have hscope := congrArg OutboxRow.scope h
  exact ⟨hsignal, hscope⟩

theorem posted_iff {event : OutboxRow} : t.Posted event ↔ ∃ d, t.dossier event.caseId = some d ∧
    Tables.deliver event ∈ d.outbox.map Tables.deliver := by
  constructor
  · rintro ⟨row, hrow, heq⟩
    have href := t.outboxReferences row hrow
    obtain ⟨humanCase, hc⟩ := Option.isSome_iff_exists.mp href
    obtain ⟨d, hd, -⟩ := Tables.exists_dossier hc
    rw [deliver_caseId heq] at hd
    refine ⟨d, hd, List.mem_map.mpr ⟨row, ?_, heq⟩⟩
    rw [Tables.dossier_outbox hd]
    exact List.mem_filter.mpr ⟨hrow, by simpa using deliver_caseId heq⟩
  · rintro ⟨d, hd, hmem⟩
    obtain ⟨row, hrow, heq⟩ := List.mem_map.mp hmem
    rw [Tables.dossier_outbox hd] at hrow
    exact ⟨row, (List.mem_filter.mp hrow).1, heq⟩

theorem Dossier.Next.outbox {d d' : Dossier} {deed : Dossier.Deed} (hn : d.Next deed d')
    (hdeed : deed ≠ .deciding) : d'.outbox.map Tables.deliver = d.outbox.map Tables.deliver := by
  cases hn with
  | closed workflowId details now hopen => rfl
  | assigned staffId details now hopen => rfl
  | decided event hstatus hassigned hallowed hcase hworkflow => exact absurd rfl hdeed
  | delivered eventId =>
    rw [List.map_map]
    apply List.map_congr_left
    intro row _
    simp only [Function.comp_apply]
    split_ifs <;> rfl
  | saved row hrow document hnext event actorType actorId details now hevent => rfl
  | transitioned row hrow input now haccepted hretired htype hopen => rfl

theorem Dossier.Next.audit {d d' : Dossier} {deed : Dossier.Deed} (hn : d.Next deed d') :
    d.audit ⊆ d'.audit := by
  cases hn with
  | closed workflowId details now hopen => exact List.subset_append_left _ _
  | assigned staffId details now hopen => exact List.subset_append_left _ _
  | decided event hstatus hassigned hallowed hcase hworkflow => exact List.subset_append_left _ _
  | delivered eventId => exact List.Subset.refl _
  | saved row hrow document hnext event actorType actorId details now hevent =>
    exact List.subset_append_left _ _
  | transitioned row hrow input now haccepted hretired htype hopen =>
    exact List.subset_append_left _ _

theorem Tables.Moves.posted_iff {deed : Dossier.Deed} (h : t.Moves deed u)
    (hdeed : deed ≠ .deciding) (event : OutboxRow) : u.Posted event ↔ t.Posted event := by
  rw [HumanOperations.posted_iff, HumanOperations.posted_iff]
  have hmove := h event.caseId
  generalize ht : t.dossier event.caseId = before at hmove
  generalize hu : u.dossier event.caseId = after at hmove
  cases hmove with
  | same => rfl
  | opened ho => cases ho <;> simp [Dossier.log]
  | next hn => simp only [Option.some.injEq, exists_eq_left', hn.outbox hdeed]

theorem Tables.Moves.mem_audit {deed : Dossier.Deed} (h : t.Moves deed u) {event : AuditRow}
    (hmem : event ∈ t.audit) : event ∈ u.audit := by
  obtain ⟨humanCase, hc⟩ := Option.isSome_iff_exists.mp (t.auditReferences event hmem)
  obtain ⟨d, hd, -⟩ := Tables.exists_dossier hc
  have haudit : event ∈ d.audit := by
    rw [Tables.dossier_audit hd]
    exact List.mem_filter.mpr ⟨hmem, by simp⟩
  have hmove := h event.caseId
  rw [hd] at hmove
  generalize hu : u.dossier event.caseId = after at hmove
  have hlater : ∃ d', after = some d' ∧ event ∈ d'.audit := by
    cases hmove with
    | same => exact ⟨d, rfl, haudit⟩
    | next hn => exact ⟨_, rfl, hn.audit haudit⟩
  obtain ⟨d', rfl, hd'⟩ := hlater
  rw [Tables.dossier_audit hu] at hd'
  exact (List.mem_filter.mp hd').1

/-- An operation moves the tables of its own scope. -/
theorem database_moves {e : Event} (h : database.Reachable Database.IsEmpty db)
    (hstep : database.step db e = some db') (scope : Scope) :
    (db scope).Moves e.operation.deed (db' scope) := by
  obtain ⟨u, hu, rfl⟩ := Option.map_eq_some_iff.mp hstep
  by_cases hscope : scope = e.operation.scope
  · subst hscope
    rw [Function.update_self]
    exact step_moves (reachable_bound (database_reachable h)) hu
  · rw [Function.update_of_ne hscope]
    exact Tables.Moves.refl _ _

/-- A decision posts its event in the outbox, and nothing else. -/
theorem Tables.Alters.posted_iff {caseId : String} {event : OutboxRow} {d : Dossier}
    (h : t.Alters u caseId (Dossier.recordDecision · event)) (hd : t.dossier caseId = some d)
    (hcase : event.caseId = caseId) (other : OutboxRow) :
    u.Posted other ↔ t.Posted other ∨ Tables.deliver other = Tables.deliver event := by
  rw [HumanOperations.posted_iff, HumanOperations.posted_iff, h other.caseId]
  by_cases hother : other.caseId = caseId
  · have houtbox : (d.recordDecision event).outbox = d.outbox ++ [event] := rfl
    simp [hother, hd, houtbox, eq_comm (a := Tables.deliver other)]
  · have hne : Tables.deliver other ≠ Tables.deliver event :=
      fun heq => hother ((deliver_caseId heq).trans hcase)
    simp [hother, hne]

/-- What the later states of the database keep. -/
structure Database.Keeps (db db' : Database) : Prop where
  reachable : database.Reachable Database.IsEmpty db'
  follows : ∀ scope caseId d, (db scope).dossier caseId = some d →
    ∃ d', (db' scope).dossier caseId = some d' ∧ d.Follows d'
  posted : ∀ scope event, (db scope).Posted event → (db' scope).Posted event
  audit : ∀ scope event, event ∈ (db scope).audit → event ∈ (db' scope).audit

theorem Dossier.Next.outbox_subset {d d' : Dossier} {deed : Dossier.Deed} (hn : d.Next deed d') :
    d.outbox.map Tables.deliver ⊆ d'.outbox.map Tables.deliver := by
  by_cases hdeed : deed = .deciding
  · subst hdeed
    cases hn with
    | decided event hstatus hassigned hallowed hcase hworkflow =>
      exact List.map_subset _ (List.subset_append_left d.outbox [event])
  · rw [hn.outbox hdeed]
    exact List.Subset.refl _

theorem Tables.Moves.posted {deed : Dossier.Deed} (h : t.Moves deed u) {event : OutboxRow}
    (hposted : t.Posted event) : u.Posted event := by
  obtain ⟨d, hd, hmem⟩ := HumanOperations.posted_iff.mp hposted
  have hmove := h event.caseId
  rw [hd] at hmove
  generalize hu : u.dossier event.caseId = after at hmove
  cases hmove with
  | same => exact HumanOperations.posted_iff.mpr ⟨d, hu, hmem⟩
  | next hn => exact HumanOperations.posted_iff.mpr ⟨_, hu, hn.outbox_subset hmem⟩

theorem database_keeps {e : Event} (h : database.Reachable Database.IsEmpty db)
    (hstep : database.step db e = some db') : db.Keeps db' where
  reachable := h.step hstep
  follows _ _ _ hd :=
    database_follows h (Transition.Machine.run_singleton.mpr hstep) hd
  posted scope _ hposted := (database_moves h hstep scope).posted hposted
  audit scope _ hmem := (database_moves h hstep scope).mem_audit hmem

/-! What a state of the routes knows. -/

/-- The case takes decisions, and the staff member has the role for them. -/
def Database.Admits (db : Database) (request : DecisionRequest) : Prop :=
  ∃ d, (db request.access.scope).dossier request.caseId = some d ∧
    d.case.caseType ≠ .refundEvidenceReview ∧ hasCaseRole request.access d.case = true

/-- The audit event of a recorded decision is there. -/
def Made.Recorded (m : Made) (t : Tables) : Prop :=
  ∃ audit ∈ t.audit, audit.caseId = m.case.caseId ∧ audit.eventType = .decisionRecorded ∧
    audit.actorType = .human ∧ audit.actorId = m.request.access.staffId ∧
    audit.caseVersion = m.case.caseVersion + 1 ∧
    audit.details = [("decision", m.request.decision.text)]

def Task.Sound (db : Database) : Task → Prop
  | .deciding request => db.Admits request
  | .decided scope event => event.scope = scope ∧ (db scope).Posted event
  | .delivering events => ∀ event ∈ events, (db event.scope).Posted event
  | .marking event rest => ∀ other ∈ event :: rest, (db other.scope).Posted other
  | .forwarding _ => True

/-- An event of the outbox is of its scope, and comes from a recorded decision. -/
def Made.Covers (made : List Made) (scope : Scope) (event : OutboxRow) : Prop :=
  event.scope = scope ∧ ∃ m ∈ made, Tables.deliver m.event = Tables.deliver event

structure Service.Sound (s : Service) : Prop where
  reachable : database.Reachable Database.IsEmpty s.db
  tasks : ∀ task ∈ s.tasks, task.Sound s.db
  made : ∀ m ∈ s.made, m.Governs m.event.signal ∧ m.Recorded (s.db m.event.scope)
  posted : ∀ scope event, (s.db scope).Posted event → Made.Covers s.made scope event
  signals : ∀ signal ∈ s.signals, signal.compatibility = false →
    ∃ event, (s.db event.scope).Posted event ∧ event.signal = signal

theorem Database.Keeps.admits (h : db.Keeps db') {request : DecisionRequest}
    (ha : db.Admits request) : db'.Admits request := by
  obtain ⟨d, hd, htype, hrole⟩ := ha
  obtain ⟨d', hd', hfollows⟩ := h.follows _ _ d hd
  have hsame := hfollows.phase htype
  refine ⟨d', hd', hsame ▸ htype, ?_⟩
  unfold hasCaseRole at hrole ⊢
  rw [hsame]
  exact hrole

theorem Database.Keeps.recorded (h : db.Keeps db') {m : Made} {scope : Scope}
    (hm : m.Recorded (db scope)) : m.Recorded (db' scope) := by
  obtain ⟨audit, haudit, hrest⟩ := hm
  exact ⟨audit, h.audit scope audit haudit, hrest⟩

theorem Task.Sound.keep (h : db.Keeps db') {task : Task} (ht : task.Sound db) : task.Sound db' := by
  cases task with
  | deciding request => exact h.admits ht
  | decided scope event => exact ⟨ht.1, h.posted _ _ ht.2⟩
  | delivering events => exact fun event hevent => h.posted _ _ (ht event hevent)
  | marking event rest => exact fun other hother => h.posted _ _ (ht other hother)
  | forwarding request => trivial

namespace Service.Sound
variable {s : Service} {tasks : List Task}

/-- A step that leaves the database, the decisions and the signals. -/
theorem retask (h : s.Sound) (htasks : ∀ task ∈ tasks, task ∈ s.tasks ∨ task.Sound s.db) :
    Service.Sound { s with tasks } where
  reachable := h.reachable
  tasks task htask := (htasks task htask).elim (h.tasks task) id
  made := h.made
  posted := h.posted
  signals := h.signals

theorem await (h : s.Sound) {task : Task} (htask : task.Sound s.db) : (s.await task).Sound := by
  apply h.retask
  intro other hother
  rcases List.mem_append.mp hother with hold | hnew
  · exact Or.inl hold
  · rw [List.mem_singleton.mp hnew]
    exact Or.inr htask

/-- A signal of an event in the outbox, or of the compatibility route. -/
theorem send (h : s.Sound) {signal : Signal} {outcome : Outcome}
    (hsignal : signal.compatibility = false →
      ∃ event, (s.db event.scope).Posted event ∧ event.signal = signal) :
    (s.send signal outcome).Sound := by
  have hsent : Service.Sound { s with signals := s.signals ++ [signal] } := by
    refine ⟨h.reachable, h.tasks, h.made, h.posted, ?_⟩
    intro other hother
    rcases List.mem_append.mp hother with hold | hnew
    · exact h.signals other hold
    · rw [List.mem_singleton.mp hnew]
      exact hsignal
  cases outcome with
  | delivered => exact hsent
  | lost => exact hsent
  | refused => exact h

/-- A step of the database, with what it records. -/
theorem store (h : s.Sound) (hkeeps : s.db.Keeps db') {made : List Made}
    (hmade : ∀ m ∈ made, m ∉ s.made → m.Governs m.event.signal ∧ m.Recorded (db' m.event.scope))
    (hposted : ∀ scope event, (db' scope).Posted event → Made.Covers made scope event) :
    Service.Sound { s with db := db', made } where
  reachable := hkeeps.reachable
  tasks task htask := (h.tasks task htask).keep hkeeps
  made m hm := by
    by_cases hold : m ∈ s.made
    · exact ⟨(h.made m hold).1, hkeeps.recorded (h.made m hold).2⟩
    · exact hmade m hm hold
  posted := hposted
  signals signal hsignal hgoverned := by
    obtain ⟨event, hevent, heq⟩ := h.signals signal hsignal hgoverned
    exact ⟨event, hkeeps.posted _ _ hevent, heq⟩

/-- A step of the database that decides nothing. -/
theorem operation (h : s.Sound) {e : Event} (hdeed : e.operation.deed ≠ .deciding)
    (hstep : database.step s.db e = some db') : Service.Sound { s with db := db' } := by
  have hkeeps := database_keeps h.reachable hstep
  apply h.store hkeeps (fun m hm hnew => absurd hm hnew)
  intro scope event hevent
  exact h.posted scope event
    (((database_moves h.reachable hstep scope).posted_iff hdeed event).mp hevent)

/-- The answer of the repository to a decision in time. -/
theorem decide_fresh (h : s.Sound) {request : DecisionRequest} {uuid : JS.Uuid} {now : ℤ}
    {event : OutboxRow} {d : Dossier} (hadmits : s.db.Admits request) (hkeeps : s.db.Keeps db')
    (hd : (s.db request.access.scope).dossier request.caseId = some d)
    (hstatus : d.case.status = .claimed)
    (hassigned : d.case.assignedStaffId = some request.access.staffId)
    (hallowed : request.decision ∈ allowedActionsForCaseType d.case.caseType)
    (hevent : event = request.input.event d.case uuid now)
    (halters : (s.db request.access.scope).Alters (db' request.access.scope) request.caseId
      (Dossier.recordDecision · event))
    (hothers : ∀ scope, scope ≠ request.access.scope → db' scope = s.db scope) :
    Service.Sound { s with db := db', made := s.made ++ [⟨request, d.case, event⟩] } := by
  obtain ⟨d', hd', htype, hrole⟩ := hadmits
  obtain rfl : d = d' := Option.some.inj (hd.symm.trans hd')
  have hcase : event.caseId = request.caseId := by
    rw [hevent]
    exact Tables.dossier_caseId hd
  have hscope : event.scope = request.access.scope := by
    rw [hevent]
    rfl
  apply h.store hkeeps
  · intro m hm hnew
    obtain rfl := List.mem_singleton.mp ((List.mem_append.mp hm).resolve_left hnew)
    constructor
    · have hsignal : event.signal = (request.input.event d.case uuid now).signal := by
        rw [hevent]
      rw [hsignal]
      refine ⟨rfl, rfl, rfl, rfl, hstatus, hassigned, ?_, ?_, hallowed⟩
      · intro happroval
        have htype : d.case.caseType = .refundApproval := happroval
        simpa [hasCaseRole, htype] using hrole
      · intro htakeover
        have htype : d.case.caseType = .refundTakeover := htakeover
        simpa [hasCaseRole, htype] using hrole
    · have haudit := Tables.dossier_audit (halters.self hd)
      have hlast : ∀ audit ∈ (d.recordDecision event).audit,
          audit ∈ (db' request.access.scope).audit := by
        intro audit hmem
        rw [haudit] at hmem
        exact (List.mem_filter.mp hmem).1
      rw [hscope]
      refine ⟨_, hlast _ (List.mem_append_right _ (List.mem_singleton_self _)), rfl, rfl, rfl, ?_,
        rfl, ?_⟩
      · rw [hevent]
        rfl
      · rw [hevent]
        rfl
  · intro scope other hother
    by_cases hsame : scope = request.access.scope
    · subst hsame
      rcases (halters.posted_iff hd hcase other).mp hother with hold | hnew
      · obtain ⟨hcovers, m, hm, heq⟩ := h.posted _ other hold
        exact ⟨hcovers, m, List.mem_append_left _ hm, heq⟩
      · have heq := congrArg OutboxRow.scope hnew
        exact ⟨heq.trans hscope, _, List.mem_append_right _ (List.mem_singleton_self _), hnew.symm⟩
    · rw [hothers scope hsame] at hother
      obtain ⟨hcovers, m, hm, heq⟩ := h.posted _ other hother
      exact ⟨hcovers, m, List.mem_append_left _ hm, heq⟩

/-- A decision that the repository hears of twice is in the outbox already. -/
theorem submit (h : s.Sound) {request : DecisionRequest} {uuid : JS.Uuid} {now : ℤ} {s' : Service}
    {next : Option Task} (hadmits : s.db.Admits request)
    (hsubmit : s.submit request uuid now = some (s', next)) :
    s'.Sound ∧ s'.tasks = s.tasks ∧ ∀ task ∈ next, task.Sound s'.db := by
  obtain ⟨db', hstep, hanswer⟩ := Option.map_eq_some_iff.mp hsubmit
  have hkeeps := database_keeps h.reachable hstep
  cases hrun : (decideCase request.input uuid now).run (s.db request.access.scope) with
  | error failure u =>
    simp only [hrun, Prod.mk.injEq] at hanswer
    obtain ⟨rfl, rfl⟩ := hanswer
    have hfails : ((Operation.decideCase request.input uuid).exec now).run
        (s.db request.access.scope) = .error failure u := Transition.bind_pure_error.mpr hrun
    rw [step_failure hstep hfails]
    exact ⟨h, rfl, by simp⟩
  | ok result u =>
    simp only [hrun, Prod.mk.injEq] at hanswer
    obtain ⟨rfl, rfl⟩ := hanswer
    have hreply : ((Operation.decideCase request.input uuid).exec now).run
        (s.db request.access.scope) = .ok (.decision result.1 result.2) u :=
      reply_ok.mpr ⟨result, hrun, rfl⟩
    have hu : db' request.access.scope = u := (step_reply hstep hreply).2.2
    have hothers : ∀ scope, scope ≠ request.access.scope → db' scope = s.db scope := by
      intro scope hne
      obtain ⟨v, -, rfl⟩ := Option.map_eq_some_iff.mp hstep
      exact Function.update_of_ne hne _ _
    rcases decideCase_ok hrun with ⟨hmem, hdossiers⟩ |
      ⟨d, hd, hstatus, hassigned, hallowed, -, hevent, hnew, halters⟩
    · have hmade : s.newlyMade request result.2 = [] := by
        apply if_pos
        rw [Table.find?_of_mem _ hmem]
        rfl
      rw [hmade, List.append_nil]
      refine ⟨h.store hkeeps (fun m hm hnew => absurd hm hnew) ?_, rfl, ?_⟩
      · intro scope event hposted
        apply h.posted scope event
        by_cases hsame : scope = request.access.scope
        · subst hsame
          rw [HumanOperations.posted_iff, hu, hdossiers, ← HumanOperations.posted_iff] at hposted
          exact hposted
        · rwa [hothers scope hsame] at hposted
      · intro task htask
        obtain rfl := Option.some.inj htask
        have hposted : (s.db request.access.scope).Posted result.2 := ⟨_, hmem, rfl⟩
        exact ⟨(h.posted _ _ hposted).1, hkeeps.posted _ _ hposted⟩
    · have hmade : s.newlyMade request result.2 = [⟨request, d.case, result.2⟩] := by
        have hcase : (s.db request.access.scope).cases.find? request.caseId = some d.case :=
          Tables.dossier_case hd
        simp [Service.newlyMade, hnew, hcase]
      rw [← hu] at halters
      rw [hmade]
      refine ⟨h.decide_fresh hadmits hkeeps hd hstatus hassigned hallowed hevent halters hothers,
        rfl, ?_⟩
      intro task htask
      obtain rfl := Option.some.inj htask
      have hcase : result.2.caseId = request.caseId := by
        rw [hevent]
        exact Tables.dossier_caseId hd
      have hscope : result.2.scope = request.access.scope := by
        rw [hevent]
        rfl
      exact ⟨hscope, (halters.posted_iff hd hcase result.2).mpr (Or.inr rfl)⟩

/-- What a route does from one await to the next. -/
theorem advance (h : s.Sound) {uuid : JS.Uuid} {now : ℤ} {outcome : Outcome} {task : Task}
    {s' : Service} {next : Option Task} (ht : task.Sound s.db)
    (hadvance : s.advance uuid now outcome task = some (s', next)) :
    s'.Sound ∧ s'.tasks = s.tasks ∧ ∀ task ∈ next, task.Sound s'.db := by
  cases task with
  | deciding request => exact h.submit ht hadvance
  | decided scope event =>
    obtain ⟨hscope, hposted⟩ := ht
    simp only [Service.advance] at hadvance
    split at hadvance
    · cases hadvance
      refine ⟨h, rfl, ?_⟩
      intro task htask
      obtain rfl := Option.some.inj htask
      intro other hother
      rw [List.mem_singleton.mp hother, hscope]
      exact hposted
    · cases hadvance
      exact ⟨h, rfl, by simp⟩
  | delivering events =>
    cases events with
    | nil =>
      cases hadvance
      exact ⟨h, rfl, by simp⟩
    | cons event rest =>
      cases hadvance
      have hsent : (s.send event.signal outcome).Sound :=
        h.send fun _ => ⟨event, ht event List.mem_cons_self, rfl⟩
      have hdb : (s.send event.signal outcome).db = s.db := by cases outcome <;> rfl
      refine ⟨hsent, by cases outcome <;> rfl, ?_⟩
      intro task htask
      obtain rfl := Option.some.inj htask
      rw [hdb]
      split_ifs
      · exact ht
      · exact fun other hother => ht other (List.mem_cons_of_mem event hother)
  | marking event rest =>
    have hrest : ∀ other ∈ rest, (s.db other.scope).Posted other :=
      fun other hother => ht other (List.mem_cons_of_mem event hother)
    simp only [Service.advance] at hadvance
    split_ifs at hadvance
    · obtain ⟨db', hstep, hanswer⟩ := Option.map_eq_some_iff.mp hadvance
      cases hanswer
      refine ⟨h.operation (by simp [Operation.deed]) hstep, rfl, ?_⟩
      intro task htask
      obtain rfl := Option.some.inj htask
      exact fun other hother => (database_keeps h.reachable hstep).posted _ _ (hrest other hother)
    · cases hadvance
      refine ⟨h, rfl, ?_⟩
      intro task htask
      obtain rfl := Option.some.inj htask
      exact hrest
  | forwarding request =>
    cases hadvance
    exact ⟨h.send (by simp [CompatibilityRequest.signal]), by cases outcome <;> rfl, by simp⟩

end Service.Sound

/-- A route lets a decision pass for the role that the type of the case requires. -/
theorem canSubmitDecision_role {access : HumanAccess} {row : CaseRow} {decision : HumanDecision}
    (h : canSubmitDecision access row decision = true) :
    row.caseType ≠ .refundEvidenceReview ∧ hasCaseRole access row = true := by
  simp only [canSubmitDecision, Bool.or_eq_true, decide_eq_true_eq] at h
  rcases h with hallowed | hretry
  · unfold allowedActionsForHuman at hallowed
    split_ifs at hallowed with htype hstatus happroval
    · simp at hallowed
    · simp at hallowed
    · push Not at hstatus
      exact ⟨htype, hstatus.2.2⟩
    · push Not at hstatus
      exact ⟨htype, hstatus.2.2⟩
  · simp only [canRetryPendingDecision, Bool.and_eq_true, decide_eq_true_eq] at hretry
    refine ⟨?_, hretry.1.2⟩
    intro htype
    rw [htype, allowedActions_evidenceReview] at hretry
    simp at hretry

theorem Service.Sound.step {s s' : Service} {evidence : Bool} {a : Action} (h : s.Sound)
    (hstep : s.step evidence a = some s') : s'.Sound := by
  cases a with
  | operation e =>
    simp only [Service.step] at hstep
    split_ifs at hstep with hdeed
    obtain ⟨db', hdb, rfl⟩ := Option.map_eq_some_iff.mp hstep
    exact h.operation hdeed hdb
  | decision request =>
    simp only [Service.step] at hstep
    split at hstep
    · rename_i current _ hget
      simp only [getCase, Transition.transaction_ok, requireCase_ok] at hget
      split_ifs at hstep with hsubmit
      · cases hstep
        obtain ⟨d, hd, hcase⟩ := Tables.exists_dossier hget.1
        exact h.await ⟨d, hd, hcase ▸ canSubmitDecision_role hsubmit⟩
      · cases hstep
        exact h
    · cases hstep
      exact h
  | compatibility request =>
    have hforwarding : (s.await (.forwarding request)).Sound := h.await trivial
    simp only [Service.step] at hstep
    split at hstep
    · split at hstep
      · split_ifs at hstep
        · exact Option.some.inj hstep ▸ hforwarding
        · exact Option.some.inj hstep ▸ h
      · exact Option.some.inj hstep ▸ h
    · exact Option.some.inj hstep ▸ hforwarding
  | dispatch scope =>
    simp only [Service.step] at hstep
    split at hstep
    · rename_i events _ hlist
      cases hstep
      simp only [listPendingOutbox, Transition.transaction_ok, Transition.bind_ok,
        Transition.get_ok, Transition.pure_ok] at hlist
      obtain ⟨_, _, ⟨rfl, -⟩, rfl, -⟩ := hlist
      apply h.await
      intro event hevent
      have hmem := (List.mem_insertionSort _).mp (List.mem_of_mem_take hevent)
      have hposted : (s.db scope).Posted event := ⟨event, (List.mem_filter.mp hmem).1, rfl⟩
      rw [(h.posted scope event hposted).1]
      exact hposted
    · cases hstep
      exact h
  | proceed index uuid now outcome =>
    simp only [Service.step, Option.bind_eq_some_iff, Option.map_eq_some_iff] at hstep
    obtain ⟨task, htask, ⟨t, next⟩, hadvance, rfl⟩ := hstep
    have hsound := h.tasks task (List.mem_of_getElem? htask)
    obtain ⟨ht, htasks, hnext⟩ := h.advance hsound hadvance
    cases next with
    | some task' =>
      apply ht.retask
      intro other hother
      rcases List.mem_or_eq_of_mem_set hother with hold | rfl
      · exact Or.inl hold
      · exact Or.inr (hnext _ rfl)
    | none => exact ht.retask fun other hother => Or.inl (List.mem_of_mem_eraseIdx hother)
  | abandon index =>
    cases hstep
    exact h.retask fun other hother => Or.inl (List.mem_of_mem_eraseIdx hother)

theorem service_sound {evidence : Bool} {s : Service}
    (h : (service evidence).Reachable (· = .empty) s) : s.Sound := by
  apply h.invariant
  · rintro s rfl
    refine ⟨Transition.Machine.reachable_init fun _ => rfl, ?_, ?_, ?_, ?_⟩
    · simp [Service.empty]
    · simp [Service.empty]
    · rintro scope event ⟨row, hrow, -⟩
      simp [Service.empty, Tables.empty, Table.empty] at hrow
    · simp [Service.empty]
  · intro s a s' hs hstep
    exact hs.step hstep

theorem Made.Recorded.audited {m : Made} (h : m.Recorded t)
    (hlawful : ∀ caseId d, t.dossier caseId = some d → d.Lawful) : m.Audited t := by
  obtain ⟨audit, hmem, hcase, htype, hrest⟩ := h
  obtain ⟨humanCase, hc⟩ := Option.isSome_iff_exists.mp (t.auditReferences audit hmem)
  rw [hcase] at hc
  obtain ⟨d, hd, -⟩ := Tables.exists_dossier hc
  have hdecisions : d.decisions = t.audit.filter fun event =>
      event.caseId = m.case.caseId ∧ event.eventType = .decisionRecorded := by
    rw [Dossier.decisions, Tables.dossier_audit hd, List.filter_filter]
    apply List.filter_congr
    intro event _
    rw [← Bool.decide_and]
    simp [and_comm]
  have hin : audit ∈ d.decisions := by
    rw [hdecisions]
    exact List.mem_filter.mpr ⟨hmem, by simp [hcase, htype]⟩
  have hone := (hlawful _ d hd).oneDecision
  refine ⟨audit, ?_, hrest⟩
  rw [← hdecisions]
  cases hlist : d.decisions with
  | nil =>
    rw [hlist] at hin
    cases hin
  | cons first rest =>
    rw [hlist, List.length_cons] at hone
    have hnil : rest = [] := List.length_eq_zero_iff.mp (by omega)
    rw [hlist, hnil, List.mem_singleton] at hin
    rw [hnil, hin]

theorem getEvidence_collected {scope : Scope} {workflowId : String}
    (h : (t.evidence.find? workflowId).isSome = true) :
    ∃ record, (getEvidence { scope with subjectCustomerId := none } workflowId).run t =
      .ok record t := by
  obtain ⟨row, hrow⟩ := Option.isSome_iff_exists.mp h
  obtain ⟨humanCase, hcase⟩ := Option.isSome_iff_exists.mp
    (t.evidenceReferences row ((Table.find?_eq_some _ _).mp hrow).1)
  refine ⟨row.record humanCase, ?_⟩
  simp only [getEvidence, load, Transition.transaction_ok, Transition.bind_ok, selectRecord_ok,
    Transition.required_ok, Transition.throwIf_ok, Transition.pure_ok]
  refine ⟨_, t, ⟨rfl, rfl⟩, _, t, ⟨?_, rfl⟩, (), t, ⟨by simp, rfl⟩, rfl, rfl⟩
  simp [hrow, Tables.record?, hcase]

/-- Whatever the routes and the dispatcher do, a decision that a workflow hears of through the
outbox is governed. The compatibility route sends none to a workflow with a collection where the
service collects evidence. -/
theorem signals_governed {evidence : Bool} {s : Service}
    (h : (service evidence).Reachable (· = .empty) s) :
    (∀ signal ∈ s.signals, signal.compatibility = false → s.Governed signal) ∧
    ∀ request : CompatibilityRequest, evidence = true →
      ((s.db request.access.scope).evidence.find? request.workflowId).isSome = true →
      (service evidence).step s (.compatibility request) = some s := by
  have hsound := service_sound h
  constructor
  · intro signal hsignal hgoverned
    obtain ⟨event, hposted, rfl⟩ := hsound.signals signal hsignal hgoverned
    obtain ⟨-, m, hm, heq⟩ := hsound.posted _ event hposted
    obtain ⟨hsame, hscope⟩ := deliver_signal heq
    obtain ⟨hgoverns, hrecorded⟩ := hsound.made m hm
    rw [hsame] at hgoverns
    rw [hscope] at hrecorded
    exact ⟨m, hm, hgoverns,
      hrecorded.audited fun caseId d hd => database_lawful hsound.reachable hd⟩
  · intro request hevidence hcollected
    obtain ⟨record, hrecord⟩ : ∃ record,
        (getEvidence { request.access.scope with subjectCustomerId := none }
          request.workflowId).run (s.db request.access.scope) =
            .ok record (s.db request.access.scope) := getEvidence_collected hcollected
    simp only [service, Service.step, hevidence, if_true, hrecord]

namespace Journey

def asOperations (events : List Event) : List Action := events.map .operation

def decisionRequest (staff : HumanAccess) (version : ℕ) (decision : HumanDecision) :
    DecisionRequest where
  access := staff
  caseId := caseId
  decision := decision
  reasonCode := none
  note := none
  expectedCaseVersion := version
  idempotencyKey := "decision-key-1"

/-- The approver decides the case after its transition, and the workflow hears of it. -/
def governed : List Action := asOperations (accepted ++ [
  ⟨.transition phase, 1786190705000⟩,
  ⟨.claimCase (claim 6 "claim-key-2"), 1786190706000⟩]) ++ [
  .decision (decisionRequest staff 7 .approve),
  .proceed 0 photoUuid 1786190707000 .delivered,
  .proceed 0 photoUuid 1786190708000 .delivered,
  .proceed 0 photoUuid 1786190709000 .delivered]

def takeover : OpenHumanCaseInput where
  scope
  workflowId := "refund-1"
  caseType := .refundTakeover
  reviewPacket := packet
  policyVersion := "refund-policy-v2"

def forwarded : CompatibilityRequest := ⟨staff, "refund-1", .approveExceptionalRefund, none⟩

/-- An approver decides the takeover case of a workflow, which nobody has claimed, through the
compatibility route. -/
def ungoverned : List Action := [
  .operation ⟨.openCase takeover caseUuid, 1786190700000⟩,
  .compatibility forwarded,
  .proceed 0 photoUuid 1786190701000 .delivered]

end Journey

theorem signals_governed_approved : ∃ s signal, (service true).Reachable (· = .empty) s ∧
    signal ∈ s.signals ∧ signal.decision = .approve ∧ s.Governed signal := by
  obtain ⟨s, hrun, hsignals⟩ : ∃ s, (service true).run .empty Journey.governed = some s ∧
      (s.signals.any fun signal => signal.compatibility = false ∧ signal.decision = .approve) =
        true := Transition.Machine.exists_run (by decide +kernel)
  obtain ⟨signal, hmem, hsignal⟩ := List.any_eq_true.mp hsignals
  obtain ⟨hgoverned, happroved⟩ := of_decide_eq_true hsignal
  have hreach : (service true).Reachable (· = .empty) s := ⟨_, _, rfl, hrun⟩
  exact ⟨s, signal, hreach, hmem, happroved,
    (signals_governed hreach).1 signal hmem hgoverned⟩

/-- No audit event stands behind it. -/
theorem compatibility_decision_ungoverned : ∃ s signal,
    (service true).Reachable (· = .empty) s ∧ signal ∈ s.signals ∧
      signal.workflowId = "refund-1" ∧ signal.decision = .approveExceptionalRefund ∧
      ¬s.Governed signal := by
  obtain ⟨s, hrun, hsignals, hmade⟩ : ∃ s, (service true).run .empty Journey.ungoverned = some s ∧
      s.signals = [Journey.forwarded.signal] ∧ s.made = [] := by
    refine Transition.Machine.exists_run ?_
    decide +kernel
  refine ⟨s, _, ⟨_, _, rfl, hrun⟩, hsignals ▸ List.mem_singleton_self _, rfl, rfl, ?_⟩
  rintro ⟨m, hm, -⟩
  rw [hmade] at hm
  cases hm

end CSO.HumanOperations
