import CSO.HumanOperations.MemoryKeys
import CSO.HumanOperations.Replays

/-! The operations on cases, in memory and in the database: what the one computes agrees with the
statements of the other. -/
namespace CSO.HumanOperations
open Transition (Table IsPostgresText)
open Work

/-- What a request under a key asks: the text of the key is used for nothing else, and what it was
used for before is told from it by the fingerprint. -/
def KeyKept (s : Memory × Database) (scope : Scope) (key : IdempotencyKey) (fingerprint : String) :
    Prop :=
  s.2.Unshared scope key ∧ ∀ stored, s.1.idempotency.get? key.idempotencyKey = some stored →
    JS.Sha256.hex stored.fingerprint = JS.Sha256.hex fingerprint → stored.fingerprint = fingerprint

def ClaimHumanCaseInput.key (input : ClaimHumanCaseInput) : IdempotencyKey :=
  ⟨.claim, input.caseId, input.idempotencyKey⟩

def ReassignHumanCaseInput.key (input : ReassignHumanCaseInput) : IdempotencyKey :=
  ⟨.reassign, input.caseId, input.idempotencyKey⟩

/-! Statements of the database. -/

section Runs
variable {t : Tables} {row : CaseRow} {caseId : String} {now : ℤ}

theorem requireCase_error (h : t.cases.find? caseId = none) :
    (requireCase caseId).run t = .error (.repository .caseNotFound) t := by
  have hselect : (selectCase caseId).run t = .ok none t := selectCase_ok.mpr ⟨h, rfl⟩
  rw [requireCase, Transition.bind_of_ok hselect]
  rfl

/-- The new version of a case. -/
def CaseRow.revised (change : CaseRow → CaseRow) (now : ℤ) (row : CaseRow) : CaseRow :=
  { change row with caseVersion := row.caseVersion + 1, updatedAt := now }

theorem run_reviseCase {change : CaseRow → CaseRow}
    {hid : ∀ row, (change row).caseId = row.caseId}
    {hw : ∀ row, (change row).workflowId = row.workflowId}
    (h : t.cases.find? caseId = some row) : (reviseCase caseId now change hid hw).run t =
      .ok (row.revised change now) (t.changeCase caseId (CaseRow.revised change now) hid hw) := by
  have hupdate : (updateCase caseId (CaseRow.revised change now) hid hw).run t =
      .ok () (t.changeCase caseId (CaseRow.revised change now) hid hw) := rfl
  have hfind : (t.changeCase caseId (CaseRow.revised change now) hid hw).cases.find? caseId =
      some (row.revised change now) := by
    have hmodified := t.cases.find?_modify caseId caseId (CaseRow.revised change now) hid
    rw [if_pos rfl, h] at hmodified
    exact hmodified
  have hselect := selectCase_ok.mpr ⟨hfind, rfl⟩
  exact (Transition.bind_of_ok hupdate).trans (Transition.bind_of_ok hselect)

theorem run_appendAudit (eventType : CaseEventType) (actorType : ActorType) (actorId : String)
    (details : List (String × String)) (h : (t.cases.find? row.caseId).isSome) :
    (appendAudit row eventType actorType actorId details now).run t = .ok () (t.addAudit
      ⟨row.caseId, eventType, now, actorType, actorId, row.caseVersion, details⟩ h) := dif_pos h

theorem run_insertOutbox {event : OutboxRow} (hid : t.outbox.find? event.eventId = none)
    (h : (t.cases.find? event.caseId).isSome) :
    (insertOutbox event).run t = .ok () (t.addOutbox event hid h) := dif_pos ⟨hid, h⟩

/-- The tables with a key that was free. -/
def Tables.addKey (t : Tables) (key : IdempotencyKey) (fingerprint : String)
    (h : t.idempotency.find? key = none) : Tables :=
  { t with idempotency := t.idempotency.insert ⟨key, fingerprint, none⟩ h }

@[simp] theorem Tables.addKey_cases (t : Tables) (key : IdempotencyKey) (fingerprint : String)
    (h : t.idempotency.find? key = none) : (t.addKey key fingerprint h).cases = t.cases := rfl

theorem reserve_new {key : IdempotencyKey} (fingerprint : String)
    (h : t.idempotency.find? key = none) :
    (reserveIdempotency key fingerprint).run t = .ok none (t.addKey key fingerprint h) := by
  have hinsert : (insertIdempotency ⟨key, fingerprint, none⟩).run t =
      .ok true (t.addKey key fingerprint h) := dif_pos h
  exact Transition.bind_of_ok hinsert

end Runs

/-! Both repositories at one call. -/

section Calls
variable {memory : Memory} {db : Database} {scope : Scope}

/-- What is computed in memory agrees with statements that start in `t`: both give the same and
leave what corresponds, or both throw the same. -/
def Agrees {α β : Type} (db : Database) (scope : Scope) (view : β → α) (t : Tables)
    (work : Work β) : Except Failure (α × Memory) → Prop
  | .ok (a, after) => ∃ b u, work.run t = .ok b u ∧ view b = a ∧
      after.Holds (Function.update db scope u)
  | .error failure => ∃ u, work.run t = .error failure u

namespace Agrees

variable {α β γ : Type} {view : β → α} {t u : Tables} {first : Work γ} {rest : γ → Work β}
  {result : Except Failure (α × Memory)} {failure : Failure}

theorem of_ok {c : γ} (hfirst : first.run t = .ok c u) (hrest : Agrees db scope view u (rest c) result) :
    Agrees db scope view t (first >>= rest) result := by
  cases result with
  | ok value =>
    obtain ⟨b, after, hrun, hafter⟩ := hrest
    exact ⟨b, after, (Transition.bind_of_ok hfirst).trans hrun, hafter⟩
  | error failure =>
    obtain ⟨after, hrun⟩ := hrest
    exact ⟨after, (Transition.bind_of_ok hfirst).trans hrun⟩

theorem of_error (hfirst : first.run t = .error failure u) :
    Agrees db scope view t (first >>= rest) (.error failure) :=
  ⟨u, Transition.bind_of_error hfirst⟩

theorem throws {c : Prop} [Decidable c] (hc : c) {rest : Unit → Work β} :
    Agrees db scope view t (Transition.throwIf c failure >>= rest) (.error failure) :=
  of_error (Transition.throwIf_error.mpr ⟨hc, rfl, rfl⟩)

theorem passes {c : Prop} [Decidable c] (hc : ¬c) {rest : Unit → Work β}
    (hrest : Agrees db scope view t (rest ()) result) :
    Agrees db scope view t (Transition.throwIf c failure >>= rest) result :=
  of_ok (Transition.throwIf_ok.mpr ⟨hc, rfl⟩) hrest

theorem done (b : β) {after : Memory} (hafter : after.Holds (Function.update db scope t)) :
    Agrees db scope view t (pure b) (.ok (view b, after)) := ⟨b, t, rfl, rfl, hafter⟩

theorem transaction {work : Work β} (h : Agrees db scope view t work result) :
    Agrees db scope view t (Transition.transaction work) result := by
  cases result with
  | ok value =>
    obtain ⟨b, after, hrun, hafter⟩ := h
    exact ⟨b, after, Transition.transaction_ok.mpr hrun, hafter⟩
  | error failure =>
    obtain ⟨after, hrun⟩ := h
    exact ⟨t, Transition.run_transaction_error hrun⟩

end Agrees

theorem Memory.Holds.unchanged (h : memory.Holds db) :
    memory.Holds (Function.update db scope (db scope)) := by
  rw [Function.update_eq_self]
  exact h

/-- Both repositories look for the case in the scope. -/
theorem Agrees.requires {α β : Type} {view : β → α} {t : Tables} (h : memory.Holds db)
    (hcases : t.cases = (db scope).cases) (caseId : String) {rest : CaseRow → Work β}
    {result : HumanCase → Except Failure (α × Memory)}
    (hrest : ∀ row, (db scope).cases.find? caseId = some row →
      Agrees db scope view t (rest row) (result (toHumanCase row))) :
    Agrees db scope view t (requireCase caseId >>= rest)
      (memory.requireCase caseId scope >>= result) := by
  cases hrow : (db scope).cases.find? caseId with
  | none =>
    rw [h.requireCase_none hrow]
    rw [← hcases] at hrow
    exact of_error (requireCase_error hrow)
  | some row =>
    have hagrees := hrest row hrow
    rw [h.requireCase_some hrow]
    rw [← hcases] at hrow
    exact of_ok (requireCase_ok.mpr ⟨hrow, rfl⟩) hagrees

/-- Both repositories compare the version. -/
theorem Agrees.version {α β : Type} {view : β → α} {t : Tables} (row : CaseRow) (expected : ℕ)
    {rest : Unit → Work β} {result : Unit → Except Failure (α × Memory)}
    (hrest : Agrees db scope view t (rest ()) (result ())) :
    Agrees db scope view t (assertExpectedVersion row expected >>= rest)
      (Memory.assertVersion (toHumanCase row) expected >>= result) := by
  by_cases hstale : row.caseVersion ≠ expected
  · have hmemory : Memory.assertVersion (toHumanCase row) expected =
        .error (.repository .staleCaseVersion) := if_pos hstale
    rw [hmemory]
    exact throws hstale
  · have hmemory : Memory.assertVersion (toHumanCase row) expected = .ok () := if_neg hstale
    rw [hmemory]
    exact passes hstale hrest

/-- A request that was answered shows the case as it is. -/
theorem Memory.Holds.shows (h : memory.Holds db) (caseId : String) :
    Agrees db scope toHumanCase (db scope) (HumanOperations.requireCase caseId)
      (memory.requireCase caseId scope >>= fun humanCase => .ok (humanCase, memory)) := by
  rw [← bind_pure (HumanOperations.requireCase caseId)]
  exact Agrees.requires h rfl caseId fun row _ => Agrees.done row h.unchanged

theorem KeepsCase.revised {change : CaseRow → CaseRow} (h : KeepsCase change) (now : ℤ) :
    KeepsCase (CaseRow.revised change now) :=
  ⟨h.caseId, h.workflowId, h.tenantId, h.environmentId, h.caseType⟩

theorem KeepsCase.update {change : CaseRow → CaseRow} (h : KeepsCase change) (memory : Memory)
    (row : CaseRow) (now : ℤ) : memory.update (toHumanCase row) now change =
      (toHumanCase (row.revised change now), { memory with
        cases := memory.cases.set (row.revised change now).caseId
          (toHumanCase (row.revised change now)) }) := by
  have hshown : HumanCase.mk (row.revised change now) (allowedActionsForCaseType row.caseType) =
      toHumanCase (row.revised change now) := by
    rw [toHumanCase, (h.revised now).caseType]
  exact congrArg (fun next : HumanCase =>
    (next, { memory with cases := memory.cases.set next.caseId next })) hshown

/-- A revision of a case with its audit event, in memory and in the database. -/
theorem Memory.Holds.revised (h : memory.Holds db) {row : CaseRow} {caseId : String}
    {change : CaseRow → CaseRow} (hrow : (db scope).cases.find? caseId = some row)
    (hkeeps : KeepsCase change) (now : ℤ) (eventType : CaseEventType) (actorType : ActorType)
    (actorId : String) (details : List (String × String)) :
    ∃ v u, (reviseCase caseId now change hkeeps.caseId hkeeps.workflowId).run (db scope) =
        .ok (row.revised change now) v ∧
      (HumanOperations.appendAudit (row.revised change now) eventType actorType actorId details
        now).run v = .ok () u ∧
      ((memory.update (toHumanCase row) now change).2.appendAudit (toHumanCase
        (row.revised change now)) eventType actorType actorId details now).Holds
          (Function.update db scope u) := by
  have hrevised := hkeeps.revised now
  have hid : row.caseId = caseId := ((Table.find?_eq_some _ _).mp hrow).2
  have hsome : (((db scope).changeCase caseId (CaseRow.revised change now) hrevised.caseId
      hrevised.workflowId).cases.find? (row.revised change now).caseId).isSome := by
    have hold : ((db scope).cases.find? (row.revised change now).caseId).isSome := by
      rw [hrevised.caseId, hid, hrow]
      rfl
    exact @Tables.isSome_find?_modify _ caseId _ hrevised.caseId _ hold
  refine ⟨_, _, run_reviseCase hrow, run_appendAudit eventType actorType actorId details hsome, ?_⟩
  rw [hkeeps.update]
  exact h.revise hrow hrevised (hrevised.caseId row) rfl rfl rfl rfl

theorem Memory.Holds.closeCase (h : memory.Holds db) (input : CloseHumanCaseInput) (now : ℤ) :
    Agrees db input.scope toHumanCase (db input.scope) (HumanOperations.closeCase input now)
      (memory.closeCase input now) := by
  refine Agrees.transaction (Agrees.requires h rfl input.caseId fun row hrow => ?_)
  by_cases hworkflow : row.workflowId ≠ input.workflowId
  · have hmemory : (toHumanCase row).workflowId ≠ input.workflowId := hworkflow
    rw [if_pos hmemory]
    exact Agrees.throws hworkflow
  · have hmemory : ¬(toHumanCase row).workflowId ≠ input.workflowId := hworkflow
    rw [if_neg hmemory]
    refine Agrees.passes hworkflow ?_
    by_cases hclosed : row.status = .closed
    · have hmemory : (toHumanCase row).status = .closed := hclosed
      rw [if_pos hclosed, if_pos hmemory]
      exact Agrees.done row h.unchanged
    · have hmemory : (toHumanCase row).status ≠ .closed := hclosed
      rw [if_neg hclosed, if_neg hmemory]
      have hkeeps : KeepsCase fun row : CaseRow => { row with status := .closed } :=
        ⟨fun _ => rfl, fun _ => rfl, fun _ => rfl, fun _ => rfl, fun _ => rfl⟩
      obtain ⟨v, u, hrevise, haudit, hafter⟩ := h.revised hrow hkeeps now .caseClosed .workflow
        input.workflowId (input.outcome.toList.map fun outcome => ("outcome", outcome.text))
      refine Agrees.of_ok hrevise (Agrees.of_ok haudit ?_)
      rw [hkeeps.update] at hafter ⊢
      exact Agrees.done _ hafter

theorem Tables.caseOf_some {t : Tables} {row : CaseRow} {workflowId : String}
    (h : t.caseOf workflowId = some row) : t.cases.find? row.caseId = some row :=
  t.cases.find?_of_mem (List.mem_of_find?_eq_some h)

theorem Tables.caseOf_none {t : Tables} {workflowId : String} (h : t.caseOf workflowId = none) :
    ∀ row ∈ t.cases.rows, row.workflowId ≠ workflowId := by
  intro row hrow
  simpa using List.find?_eq_none.mp h row hrow

theorem Memory.Holds.openCase (h : memory.Holds db) (input : OpenHumanCaseInput) (uuid : JS.Uuid)
    (now : ℤ) (hfree : memory.cases.get? ("case-" ++ uuid.text) = none)
    (htenant : IsPostgresText input.scope.tenantId)
    (henvironment : IsPostgresText input.scope.environmentId) :
    Agrees db input.scope toHumanCase (db input.scope) (HumanOperations.openCase input uuid now)
      (memory.openCase input uuid now) := by
  refine Agrees.transaction ?_
  refine Agrees.of_ok (selectCaseOf_ok.mpr ⟨rfl, rfl⟩) ?_
  have hindex := h.index input.scope input.workflowId htenant henvironment
  rw [Memory.openCase]
  cases hcurrent : (db input.scope).caseOf input.workflowId with
  | some current =>
    rw [hcurrent, Option.map_some] at hindex
    rw [hindex]
    dsimp only
    rw [(h.get_case (Tables.caseOf_some hcurrent)).1]
    show Agrees _ _ _ _ _ (if _ then _ else _)
    by_cases hconflict : input.conflicts current
    · have hmemory : (toHumanCase current).caseType ≠ input.caseType ∨
          (toHumanCase current).policyVersion ≠ input.policyVersion := hconflict
      rw [if_pos hmemory]
      exact Agrees.throws hconflict
    · have hmemory : ¬((toHumanCase current).caseType ≠ input.caseType ∨
          (toHumanCase current).policyVersion ≠ input.policyVersion) := hconflict
      rw [if_neg hmemory]
      exact Agrees.passes hconflict (Agrees.done current h.unchanged)
  | none =>
    rw [hcurrent, Option.map_none] at hindex
    rw [hindex]
    have hnone := h.no_case hfree input.scope
    have hworkflow := Tables.caseOf_none hcurrent
    have hinsert : (insertCase (input.row uuid now)).run (db input.scope) =
        .ok true ((db input.scope).addCase (input.row uuid now) hnone hworkflow) :=
      (dif_pos hworkflow).trans (dif_pos hnone)
    have hsome : (((db input.scope).addCase (input.row uuid now) hnone hworkflow).cases.find?
        (input.row uuid now).caseId).isSome := by
      have hnew := Table.find?_insert (db input.scope).cases (input.row uuid now).caseId
        (input.row uuid now) hnone
      rw [if_pos rfl] at hnew
      exact Option.isSome_iff_exists.mpr ⟨_, hnew⟩
    refine Agrees.of_ok hinsert (Agrees.of_ok (run_appendAudit _ _ _ _ hsome) ?_)
    refine Agrees.done (input.row uuid now) ?_
    exact h.addCase ⟨rfl, rfl⟩ rfl htenant henvironment hfree hcurrent rfl rfl rfl rfl

/-! A request under a key. -/

/-- Both repositories find the key new, know the request, or refuse it. -/
theorem Memory.Holds.reserve (h : memory.Holds db) {key : IdempotencyKey} {fingerprint : String}
    (hkept : KeyKept (memory, db) scope key fingerprint) :
    (∃ hfree, memory.replay key.idempotencyKey fingerprint = .ok none ∧
        (reserveIdempotency key (JS.Sha256.hex fingerprint)).run (db scope) =
          .ok none ((db scope).addKey key (JS.Sha256.hex fingerprint) hfree)) ∨
      (∃ stored record, memory.replay key.idempotencyKey fingerprint = .ok (some stored) ∧
        (reserveIdempotency key (JS.Sha256.hex fingerprint)).run (db scope) =
          .ok (some record) (db scope) ∧
        record.key = key ∧ Remembers (db scope) stored record) ∨
      (memory.replay key.idempotencyKey fingerprint = .error (.repository .idempotencyConflict) ∧
        (reserveIdempotency key (JS.Sha256.hex fingerprint)).run (db scope) =
          .error (.repository .idempotencyConflict) (db scope)) := by
  rcases Option.eq_none_or_eq_some ((db scope).idempotency.find? key) with
    hrecord | ⟨record, hrecord⟩
  · refine Or.inl ⟨hrecord, ?_, reserve_new _ hrecord⟩
    have hnone : memory.idempotency.get? key.idempotencyKey = none := by
      cases hget : memory.idempotency.get? key.idempotencyKey with
      | none => rfl
      | some stored =>
        obtain ⟨place, other, record, htext, hfound⟩ := h.stored _ _ hget
        obtain ⟨rfl, rfl⟩ := hkept.1 place other htext (by rw [hfound]; exact Option.some_ne_none _)
        rw [hrecord] at hfound
        cases hfound
    rw [Memory.replay, hnone]
  · refine Or.inr ?_
    obtain ⟨stored, hget, hremembers⟩ := h.records scope key record hrecord
    have hkey : record.key = key := ((Table.find?_eq_some _ _).mp hrecord).2
    rw [Memory.replay, hget, reserve_recorded _ hrecord, hremembers.fingerprint]
    by_cases hsame : stored.fingerprint = fingerprint
    · rw [if_pos (congrArg JS.Sha256.hex hsame)]
      exact Or.inl ⟨stored, record, if_neg (not_not.mpr hsame), rfl, hkey, hremembers⟩
    · rw [if_neg fun hhex => hsame (hkept.2 stored hget hhex)]
      exact Or.inr ⟨if_pos hsame, rfl⟩

theorem Memory.Holds.reserved (h : memory.Holds db) {key : IdempotencyKey} {fingerprint : String}
    (hkept : KeyKept (memory, db) scope key fingerprint) (haction : key.action ≠ .decision)
    (hfree : (db scope).idempotency.find? key = none) :
    (memory.remember key.idempotencyKey ⟨fingerprint, key.caseId, none⟩).Holds
      (Function.update db scope ((db scope).addKey key (JS.Sha256.hex fingerprint) hfree)) := by
  have hremembers : Remembers (db scope) ⟨fingerprint, key.caseId, none⟩
      ⟨key, JS.Sha256.hex fingerprint, none⟩ := by
    constructor
    · rfl
    · rfl
    · exact iff_of_false Bool.false_ne_true haction
    · intro event hevent
      cases hevent
  refine h.remember hkept.1 hremembers (fun other => ?_) rfl rfl rfl
  exact Table.find?_insert (db scope).idempotency other ⟨key, JS.Sha256.hex fingerprint, none⟩ hfree

theorem not_undecided {status : HumanCaseStatus} :
    ¬status.undecided ↔ status = .closed ∨ status = .decisionPending := by
  cases status <;> decide

theorem keepsCase_assign (staffId : String) : KeepsCase (CaseRow.assign · staffId) :=
  ⟨fun _ => rfl, fun _ => rfl, fun _ => rfl, fun _ => rfl, fun _ => rfl⟩

/-- An assignment under a key that is new. -/
theorem Memory.Holds.assigned (h : memory.Holds db) {key : IdempotencyKey} {fingerprint : String}
    (hkept : KeyKept (memory, db) scope key fingerprint) (haction : key.action ≠ .decision)
    (hfree : (db scope).idempotency.find? key = none) {row : CaseRow}
    (hrow : (db scope).cases.find? key.caseId = some row) (staffId : String) (now : ℤ)
    (details : List (String × String)) {result : Except Failure (HumanCase × Memory)}
    (hresult : result = .ok (toHumanCase (row.revised (CaseRow.assign · staffId) now),
      ((memory.update (toHumanCase row) now (CaseRow.assign · staffId)).2.appendAudit
        (toHumanCase (row.revised (CaseRow.assign · staffId) now)) .caseClaimed .human staffId
          details now).remember key.idempotencyKey ⟨fingerprint, row.caseId, none⟩)) :
    Agrees db scope toHumanCase ((db scope).addKey key (JS.Sha256.hex fingerprint) hfree) (do
      let claimed ← reviseCase key.caseId now (CaseRow.assign · staffId)
      HumanOperations.appendAudit claimed .caseClaimed .human staffId details now
      return claimed) result := by
  have hid : row.caseId = key.caseId := ((Table.find?_eq_some _ _).mp hrow).2
  have hreserved := h.reserved hkept haction hfree
  have hself := Function.update_self scope
    ((db scope).addKey key (JS.Sha256.hex fingerprint) hfree) db
  have hrow' : ((Function.update db scope ((db scope).addKey key (JS.Sha256.hex fingerprint)
      hfree)) scope).cases.find? key.caseId = some row := by
    rw [hself]
    exact hrow
  obtain ⟨v, u, hrevise, haudit, hafter⟩ := hreserved.revised hrow' (keepsCase_assign staffId) now
    .caseClaimed .human staffId details
  rw [hself] at hrevise
  rw [Function.update_idem] at hafter
  rw [hresult, hid]
  refine Agrees.of_ok hrevise (Agrees.of_ok haudit ?_)
  exact Agrees.done _ hafter

theorem Memory.Holds.claimCase (h : memory.Holds db) (input : ClaimHumanCaseInput) (now : ℤ)
    (hkept : KeyKept (memory, db) input.scope input.key (Memory.claimFingerprint input)) :
    Agrees db input.scope toHumanCase (db input.scope) (HumanOperations.claimCase input now)
      (memory.claimCase input now) := by
  refine Agrees.transaction ?_
  rw [Memory.claimCase, show input.idempotencyKey = input.key.idempotencyKey from rfl]
  rcases h.reserve hkept with ⟨hfree, hmemory, hreserve⟩ |
    ⟨stored, record, hmemory, hreserve, hkey, hremembers⟩ | ⟨hmemory, hreserve⟩
  · rw [hmemory]
    refine Agrees.of_ok hreserve (Agrees.requires h (Tables.addKey_cases _ _ _ _) input.caseId
      fun row hrow => Agrees.version row input.expectedCaseVersion ?_)
    by_cases hdone : row.status = .closed ∨ row.status = .decisionPending
    · have hmemory : (toHumanCase row).status = .closed ∨
          (toHumanCase row).status = .decisionPending := hdone
      rw [if_pos hmemory]
      exact Agrees.throws (Or.inl (not_undecided.mpr hdone))
    · have hmemory : ¬((toHumanCase row).status = .closed ∨
          (toHumanCase row).status = .decisionPending) := hdone
      rw [if_neg hmemory]
      by_cases hother : row.assignedStaffId ≠ none ∧ row.assignedStaffId ≠ some input.staffId
      · have hmemory : (toHumanCase row).assignedStaffId ≠ none ∧
            (toHumanCase row).assignedStaffId ≠ some input.staffId := hother
        rw [if_pos hmemory]
        exact Agrees.throws (Or.inr hother)
      · have hmemory : ¬((toHumanCase row).assignedStaffId ≠ none ∧
            (toHumanCase row).assignedStaffId ≠ some input.staffId) := hother
        have hpass : ¬(¬row.status.undecided ∨ row.assignedStaffId ≠ none ∧
            row.assignedStaffId ≠ some input.staffId) := by
          rintro (hclosed | hassigned)
          · exact hdone (not_undecided.mp hclosed)
          · exact hother hassigned
        rw [if_neg hmemory]
        refine Agrees.passes hpass ?_
        by_cases hown : row.assignedStaffId = some input.staffId
        · have hmemory : (toHumanCase row).assignedStaffId = some input.staffId := hown
          have hid : row.caseId = input.caseId := ((Table.find?_eq_some _ _).mp hrow).2
          rw [if_pos hown, if_pos hmemory]
          refine Agrees.done row ?_
          show Memory.Holds (memory.remember _ ⟨_, row.caseId, _⟩) _
          rw [hid]
          exact h.reserved hkept nofun hfree
        · have hmemory : (toHumanCase row).assignedStaffId ≠ some input.staffId := hown
          rw [if_neg hown, if_neg hmemory]
          refine h.assigned hkept nofun hfree hrow input.staffId now [] ?_
          rw [(keepsCase_assign input.staffId).update]
          rfl
  · rw [hmemory]
    have hcase : stored.caseId = input.caseId := hremembers.caseId.trans (congrArg _ hkey)
    show Agrees _ _ _ _ _ (memory.requireCase stored.caseId input.scope >>= _)
    rw [hcase]
    exact Agrees.of_ok hreserve (h.shows input.caseId)
  · rw [hmemory]
    exact Agrees.of_error hreserve

theorem Memory.Holds.reassignCase (h : memory.Holds db) (input : ReassignHumanCaseInput) (now : ℤ)
    (hkept : KeyKept (memory, db) input.scope input.key (Memory.reassignFingerprint input)) :
    Agrees db input.scope toHumanCase (db input.scope) (HumanOperations.reassignCase input now)
      (memory.reassignCase input now) := by
  refine Agrees.transaction ?_
  rw [Memory.reassignCase, show input.idempotencyKey = input.key.idempotencyKey from rfl]
  rcases h.reserve hkept with ⟨hfree, hmemory, hreserve⟩ |
    ⟨stored, record, hmemory, hreserve, hkey, hremembers⟩ | ⟨hmemory, hreserve⟩
  · rw [hmemory]
    refine Agrees.of_ok hreserve (Agrees.requires h (Tables.addKey_cases _ _ _ _) input.caseId
      fun row hrow => Agrees.version row input.expectedCaseVersion ?_)
    by_cases hdone : row.status = .closed ∨ row.status = .decisionPending
    · have hmemory : (toHumanCase row).status = .closed ∨
          (toHumanCase row).status = .decisionPending := hdone
      rw [if_pos hmemory]
      exact Agrees.throws (not_undecided.mpr hdone)
    · have hmemory : ¬((toHumanCase row).status = .closed ∨
          (toHumanCase row).status = .decisionPending) := hdone
      rw [if_neg hmemory]
      refine Agrees.passes (fun hclosed => hdone (not_undecided.mp hclosed)) ?_
      refine h.assigned hkept nofun hfree hrow input.assignedStaffId now [("reassigned", "true")] ?_
      rw [(keepsCase_assign input.assignedStaffId).update]
      rfl
  · rw [hmemory]
    have hcase : stored.caseId = input.caseId := hremembers.caseId.trans (congrArg _ hkey)
    show Agrees _ _ _ _ _ (memory.requireCase stored.caseId input.scope >>= _)
    rw [hcase]
    exact Agrees.of_ok hreserve (h.shows input.caseId)
  · rw [hmemory]
    exact Agrees.of_error hreserve

/-! A decision. -/

/-- The case once it is decided. -/
def CaseRow.decide (now : ℤ) (row : CaseRow) : CaseRow :=
  { row with status := .decisionPending, decidedAt := some now }

theorem keepsCase_decide (now : ℤ) : KeepsCase (CaseRow.decide now) :=
  ⟨fun _ => rfl, fun _ => rfl, fun _ => rfl, fun _ => rfl, fun _ => rfl⟩

def decisionView (decided : CaseRow × OutboxRow) : HumanCase × HumanDecisionOutboxEvent :=
  (toHumanCase decided.1, toOutboxEvent decided.2)

theorem Database.Unshared.of_idempotency {t : Tables} {key : IdempotencyKey}
    (h : db.Unshared scope key) (hidempotency : t.idempotency = (db scope).idempotency) :
    Database.Unshared (Function.update db scope t) scope key := by
  intro place other htext hfound
  refine h place other htext ?_
  by_cases hplace : place = scope
  · rw [hplace, Function.update_self, hidempotency] at hfound
    rw [hplace]
    exact hfound
  · rw [Function.update_of_ne hplace] at hfound
    exact hfound

theorem Memory.Holds.decided (h : memory.Holds db) (input : DecideHumanCaseInput) (uuid : JS.Uuid)
    (now : ℤ) (hkept : KeyKept (memory, db) input.scope input.key (Memory.decisionFingerprint input))
    (hfree : (db input.scope).idempotency.find? input.key = none)
    (hmemory : memory.outbox.get? ("outbox-" ++ uuid.text) = none)
    (houtbox : (db input.scope).outbox.find? ("outbox-" ++ uuid.text) = none) {row decided : CaseRow}
    (hrow : (db input.scope).cases.find? input.caseId = some row)
    (hdecided : decided = row.revised (CaseRow.decide now) now) {event : HumanDecisionOutboxEvent}
    (hevent : event = Memory.decisionEvent input (toHumanCase decided) uuid now) {after : Memory}
    (hafter : after = ({ memory with
      cases := memory.cases.set decided.caseId (toHumanCase decided)
      outbox := memory.outbox.set event.eventId event }.appendAudit
        (toHumanCase decided) .decisionRecorded .human input.staffId
          [("decision", input.decision.text)] now).remember input.key.idempotencyKey
            ⟨Memory.decisionFingerprint input, decided.caseId, some event⟩) :
    Agrees db input.scope decisionView ((db input.scope).addKey input.key
      (JS.Sha256.hex (Memory.decisionFingerprint input)) hfree) (do
        let decided ← reviseCase input.caseId now (CaseRow.decide now)
        let event := input.event decided uuid now
        insertOutbox event
        updateIdempotency input.key event.eventId
        HumanOperations.appendAudit decided .decisionRecorded .human input.staffId
          [("decision", input.decision.text)] now
        return (decided, event))
      (.ok ((toHumanCase decided, event), after)) := by
  have hkeeps := (keepsCase_decide now).revised now
  have hcase : decided.caseId = row.caseId := by
    rw [hdecided]
    rfl
  have hid : row.caseId = input.caseId := ((Table.find?_eq_some _ _).mp hrow).2
  have hscope : (toHumanCase decided).InScope input.scope := by
    rw [hdecided]
    exact (h.get_case hrow).2
  have hposted : toOutboxEvent (input.event decided uuid now) = event := by
    rw [hevent, Memory.decisionEvent, hscope.1, hscope.2]
    rfl
  -- The tables of the case, of its event and of the key, each beside what the memory holds by then.
  have hsome : (((db input.scope).changeCase input.caseId (CaseRow.revised (CaseRow.decide now) now)
      hkeeps.caseId hkeeps.workflowId).cases.find? decided.caseId).isSome := by
    have hold : ((db input.scope).cases.find? decided.caseId).isSome := by
      rw [hcase, hid, hrow]
      rfl
    exact @Tables.isSome_find?_modify _ input.caseId _ hkeeps.caseId _ hold
  let audited : AuditRow := ⟨decided.caseId, .decisionRecorded, now, .human, input.staffId,
    decided.caseVersion, [("decision", input.decision.text)]⟩
  have haudited : audited.caseId = row.caseId := hcase
  let changed := ((db input.scope).changeCase input.caseId
    (CaseRow.revised (CaseRow.decide now) now) hkeeps.caseId hkeeps.workflowId).addAudit audited hsome
  let posted := changed.addOutbox (input.event decided uuid now) houtbox hsome
  have hchanged := h.revise (t := changed) hrow hkeeps haudited rfl rfl rfl rfl
  rw [← hdecided] at hchanged
  have hself := Function.update_self input.scope changed db
  have hpending : (input.event decided uuid now).status = .pending := rfl
  have hplaced : (toOutboxEvent (input.event decided uuid now)).InScope input.scope := by
    rw [hposted, hevent]
    exact hscope
  have hposted' := hchanged.addEvent (t := posted) hpending hplaced hmemory
    (by rw [hself]; rfl) (by rw [hself]; rfl) (by rw [hself]; rfl) (by rw [hself]; rfl)
  rw [Function.update_idem, hposted] at hposted'
  let record : IdempotencyRow :=
    ⟨input.key, JS.Sha256.hex (Memory.decisionFingerprint input),
      some (input.event decided uuid now).eventId⟩
  have hself' := Function.update_self input.scope posted db
  have hremembers : Remembers posted
      ⟨Memory.decisionFingerprint input, decided.caseId, some event⟩ record := by
    constructor
    · rfl
    · exact hcase.trans hid
    · exact iff_of_true rfl rfl
    · rintro event' ⟨⟩
      refine ⟨input.event decided uuid now, ?_, ?_, hposted⟩
      · rfl
      · exact posted.outbox.find?_of_mem (List.mem_append_right _ (List.mem_singleton_self _))
  have hunshared := hkept.1.of_idempotency (t := posted) rfl
  let reserved := (db input.scope).addKey input.key
    (JS.Sha256.hex (Memory.decisionFingerprint input)) hfree
  let final : Tables := { posted with
    idempotency := reserved.idempotency.modify input.key
      (fun row => { row with outboxEventId := some (input.event decided uuid now).eventId }) fun _ => rfl }
  have hfind (other : IdempotencyKey) : final.idempotency.find? other =
      if input.key = other then some record else posted.idempotency.find? other := by
    have hmodified := reserved.idempotency.find?_modify input.key other
      (fun row => { row with outboxEventId := some (input.event decided uuid now).eventId }) fun _ => rfl
    have hinserted (key : IdempotencyKey) := Table.find?_insert (db input.scope).idempotency key
      ⟨input.key, JS.Sha256.hex (Memory.decisionFingerprint input), none⟩ hfree
    refine hmodified.trans ?_
    by_cases hkey : input.key = other
    · rw [if_pos hkey.symm, if_pos hkey]
      have hnew := hinserted input.key
      rw [if_pos rfl] at hnew
      exact congrArg (Option.map _) hnew
    · rw [if_neg (Ne.symm hkey), if_neg hkey]
      have hold := hinserted other
      rw [if_neg hkey] at hold
      exact hold
  have hfinal := hposted'.remember (t := final) hunshared (hself'.symm ▸ hremembers)
    (by rw [hself']; exact hfind) (by rw [hself']) (by rw [hself']) (by rw [hself'])
  rw [Function.update_idem] at hfinal
  have hcases : reserved.cases.find? input.caseId = some row := hrow
  refine Agrees.of_ok (run_reviseCase hcases) ?_
  rw [← hdecided]
  refine Agrees.of_ok (run_insertOutbox houtbox hsome) ?_
  have hkeyed : (updateIdempotency input.key (input.event decided uuid now).eventId).run
      ((reserved.changeCase input.caseId (CaseRow.revised (CaseRow.decide now) now) hkeeps.caseId
        hkeeps.workflowId).addOutbox (input.event decided uuid now) houtbox hsome) = .ok () _ := rfl
  refine Agrees.of_ok hkeyed ?_
  refine Agrees.of_ok (run_appendAudit _ _ _ _ (by exact hsome)) ?_
  have hid' : event.eventId = (input.event decided uuid now).eventId := by
    rw [hevent]
    rfl
  rw [hafter, hid']
  exact ⟨(decided, input.event decided uuid now), _, rfl, congrArg (Prod.mk _) hposted, hfinal⟩

theorem Memory.Holds.decideCase (h : memory.Holds db) (input : DecideHumanCaseInput) (uuid : JS.Uuid)
    (now : ℤ) (hkept : KeyKept (memory, db) input.scope input.key (Memory.decisionFingerprint input))
    (hmemoryFree : memory.outbox.get? ("outbox-" ++ uuid.text) = none)
    (houtbox : (db input.scope).outbox.find? ("outbox-" ++ uuid.text) = none) :
    Agrees db input.scope decisionView (db input.scope) (HumanOperations.decideCase input uuid now)
      (memory.decideCase input uuid now) := by
  refine Agrees.transaction ?_
  rw [Memory.decideCase, show input.idempotencyKey = input.key.idempotencyKey from rfl]
  rcases h.reserve hkept with ⟨hfree, hmemory, hreserve⟩ |
    ⟨stored, record, hmemory, hreserve, hkey, hremembers⟩ | ⟨hmemory, hreserve⟩
  · rw [hmemory]
    refine Agrees.of_ok hreserve (Agrees.requires h (Tables.addKey_cases _ _ _ _) input.caseId
      fun row hrow => Agrees.version row input.expectedCaseVersion ?_)
    by_cases hconflict : row.status ≠ .claimed ∨ row.assignedStaffId ≠ some input.staffId ∨
        input.decision ∉ allowedActionsForCaseType row.caseType
    · have hmemory : (toHumanCase row).status ≠ .claimed ∨
          (toHumanCase row).assignedStaffId ≠ some input.staffId ∨
            input.decision ∉ (toHumanCase row).allowedActions := hconflict
      rw [if_pos hmemory]
      exact Agrees.throws hconflict
    · have hmemory : ¬((toHumanCase row).status ≠ .claimed ∨
          (toHumanCase row).assignedStaffId ≠ some input.staffId ∨
            input.decision ∉ (toHumanCase row).allowedActions) := hconflict
      rw [if_neg hmemory]
      refine Agrees.passes hconflict ?_
      have hupdate := (keepsCase_decide now).update memory row now
      rw [show (memory.update (toHumanCase row) now fun row =>
        { row with status := .decisionPending, decidedAt := some now }) = _ from hupdate]
      exact h.decided input uuid now hkept hfree hmemoryFree houtbox hrow rfl rfl rfl
  · rw [hmemory]
    have hcase : stored.caseId = input.caseId := hremembers.caseId.trans (congrArg _ hkey)
    have haction : record.key.action = .decision := congrArg _ hkey
    obtain ⟨event, hevent⟩ := Option.isSome_iff_exists.mp (hremembers.decision.mpr haction)
    obtain ⟨row, heventId, hfind, hshown⟩ := hremembers.event event hevent
    obtain ⟨fingerprint, caseId, outboxEvent⟩ := stored
    cases hevent
    cases hcase
    refine Agrees.of_ok hreserve ?_
    refine Agrees.of_ok (Transition.required_ok.mpr ⟨heventId, rfl⟩) ?_
    refine Agrees.of_ok (selectOutbox_ok.mpr ⟨hfind, rfl⟩) ?_
    refine Agrees.of_ok (Transition.required_ok.mpr ⟨rfl, rfl⟩) ?_
    refine Agrees.requires h rfl input.caseId fun humanCase _ => ?_
    rw [← hshown]
    exact Agrees.done (humanCase, row) h.unchanged
  · rw [hmemory]
    exact Agrees.of_error hreserve

/-! The outbox. -/

/-- Sorting by time does not look at what else is in an event. -/
theorem map_insertionSort_events (rows : List OutboxRow) :
    (rows.insertionSort fun a b => a.createdAt ≤ b.createdAt).map toOutboxEvent =
      (rows.map toOutboxEvent).insertionSort fun a b => a.createdAt ≤ b.createdAt :=
  List.map_insertionSort _ _ toOutboxEvent rows fun _ _ _ _ => Iff.rfl

theorem Memory.Holds.listPendingOutbox (h : memory.Holds db) (scope : Scope) (limit : ℕ) :
    (HumanOperations.listPendingOutbox limit).run (db scope) = .ok
        ((((db scope).outbox.rows.filter fun row => row.status = .pending).insertionSort
          fun a b => a.createdAt ≤ b.createdAt).take limit) (db scope) ∧
      ((((db scope).outbox.rows.filter fun row => row.status = .pending).insertionSort
        fun a b => a.createdAt ≤ b.createdAt).take limit).map toOutboxEvent =
          memory.listPendingOutbox scope limit := by
  constructor
  · exact Transition.transaction_ok.mpr (Transition.read_ok.mpr ⟨rfl, rfl⟩)
  · have hpending := h.outbox scope
    rw [Memory.pendingIn, Tables.pendingEvents] at hpending
    rw [Memory.listPendingOutbox, List.map_take, map_insertionSort_events, hpending]

end Calls
end CSO.HumanOperations
