import CSO.HumanOperations.MemoryRepository
import CSO.Python.Strings

/-! What the memory holds of the database, and that the changes of both keep it so. -/
namespace CSO.HumanOperations
open Transition (Table IsPostgresText)

/-- What is kept in memory under a key beside the record of the database. -/
structure Remembers (t : Tables) (stored : StoredIdempotency) (record : IdempotencyRow) : Prop where
  fingerprint : record.requestFingerprint = JS.Sha256.hex stored.fingerprint
  caseId : stored.caseId = record.key.caseId
  decision : stored.outboxEvent.isSome ↔ record.key.action = .decision
  event : ∀ event, stored.outboxEvent = some event →
    ∃ row, record.outboxEventId = some row.eventId ∧ t.outbox.find? row.eventId = some row ∧
      toOutboxEvent row = event

/-- The case of a scope. -/
def Memory.caseIn (memory : Memory) (scope : Scope) (caseId : String) : Option HumanCase :=
  (memory.cases.get? caseId).filter (·.InScope scope)

def Memory.pendingIn (memory : Memory) (scope : Scope) : List HumanDecisionOutboxEvent :=
  memory.outbox.values.filter (·.InScope scope)

def Tables.pendingEvents (t : Tables) : List HumanDecisionOutboxEvent :=
  (t.outbox.rows.filter (·.status = .pending)).map toOutboxEvent

/-- The memory holds the cases, their audit trails and the pending events of every scope, and under
a key what the database records of its only request. -/
structure Memory.Holds (memory : Memory) (db : Database) : Prop where
  cases : ∀ scope caseId,
    memory.caseIn scope caseId = ((db scope).cases.find? caseId).map toHumanCase
  index : ∀ scope workflowId, IsPostgresText scope.tenantId → IsPostgresText scope.environmentId →
    memory.workflowIndex.get? (workflowKey scope workflowId) =
      ((db scope).caseOf workflowId).map CaseRow.caseId
  audit : ∀ scope caseId, ((db scope).cases.find? caseId).isSome →
    (memory.auditEvents.get? caseId).getD [] = (db scope).audit.filter (·.caseId = caseId)
  noAudit : ∀ caseId, memory.cases.get? caseId = none → memory.auditEvents.get? caseId = none
  outbox : ∀ scope, memory.pendingIn scope = (db scope).pendingEvents
  outboxKeys : ∀ entry ∈ memory.outbox.entries, entry.1 = entry.2.eventId
  records : ∀ scope key record, (db scope).idempotency.find? key = some record →
    ∃ stored, memory.idempotency.get? key.idempotencyKey = some stored ∧
      Remembers (db scope) stored record
  stored : ∀ key stored, memory.idempotency.get? key = some stored →
    ∃ scope recordKey record, recordKey.idempotencyKey = key ∧
      (db scope).idempotency.find? recordKey = some record

/-- A case is in one scope. -/
theorem HumanCase.InScope.eq {humanCase : HumanCase} {scope scope' : Scope}
    (h : humanCase.InScope scope) (h' : humanCase.InScope scope') : scope = scope' := by
  obtain ⟨tenant, environment⟩ := scope
  obtain ⟨tenant', environment'⟩ := scope'
  rw [Scope.mk.injEq]
  exact ⟨h.1.symm.trans h'.1, h.2.symm.trans h'.2⟩

/-- A change of a case keeps who and what it is about. -/
structure KeepsCase (change : CaseRow → CaseRow) : Prop where
  caseId : ∀ row, (change row).caseId = row.caseId
  workflowId : ∀ row, (change row).workflowId = row.workflowId
  tenantId : ∀ row, (change row).tenantId = row.tenantId
  environmentId : ∀ row, (change row).environmentId = row.environmentId
  caseType : ∀ row, (change row).caseType = row.caseType

theorem KeepsCase.caseOf {change : CaseRow → CaseRow} (h : KeepsCase change) {t t' : Tables} {caseId : String}
    (hcases : t'.cases = t.cases.modify caseId change h.caseId) (workflowId : String) :
    (t'.caseOf workflowId).map CaseRow.caseId = (t.caseOf workflowId).map CaseRow.caseId := by
  rw [Tables.caseOf, hcases]
  show ((t.cases.rows.map fun row => if row.caseId = caseId then change row else row).find?
    fun row => row.workflowId = workflowId).map CaseRow.caseId = _
  rw [List.find?_map, Option.map_map]
  have hsame : ((fun row : CaseRow => decide (row.workflowId = workflowId)) ∘ fun row =>
      if row.caseId = caseId then change row else row) =
        fun row => decide (row.workflowId = workflowId) := by
    funext row
    rw [Function.comp_apply]
    split_ifs
    · rw [h.workflowId]
    · rfl
  rw [hsame, Tables.caseOf]
  congr 1
  funext row
  rw [Function.comp_apply]
  split_ifs
  · exact h.caseId row
  · rfl

namespace Memory.Holds

variable {memory : Memory} {db : Database} {scope : Scope} {caseId : String}

theorem empty : Memory.empty.Holds fun _ => .empty where
  cases := fun _ _ => rfl
  index := fun _ _ _ _ => rfl
  audit := fun _ _ h => nomatch h
  noAudit := fun _ _ => rfl
  outbox := fun _ => rfl
  outboxKeys := fun _ h => absurd h List.not_mem_nil
  records := fun _ _ _ h => nomatch h
  stored := fun _ _ h => nomatch h

theorem get_case (h : memory.Holds db) {row : CaseRow}
    (hrow : (db scope).cases.find? caseId = some row) :
    memory.cases.get? caseId = some (toHumanCase row) ∧ (toHumanCase row).InScope scope := by
  have hcase := h.cases scope caseId
  rw [hrow, Memory.caseIn, Option.map_some, Option.filter_eq_some_iff] at hcase
  exact ⟨hcase.1, by simpa using hcase.2⟩

theorem no_case (h : memory.Holds db) (hnone : memory.cases.get? caseId = none) (scope : Scope) :
    (db scope).cases.find? caseId = none := by
  have hcase := h.cases scope caseId
  rw [Memory.caseIn, hnone, Option.filter_none] at hcase
  exact Option.map_eq_none_iff.mp hcase.symm

theorem requireCase_some (h : memory.Holds db) {row : CaseRow}
    (hrow : (db scope).cases.find? caseId = some row) :
    memory.requireCase caseId scope = .ok (toHumanCase row) := by
  obtain ⟨hget, hscope⟩ := h.get_case hrow
  rw [Memory.requireCase, hget]
  exact if_pos hscope

theorem requireCase_none (h : memory.Holds db) (hnone : (db scope).cases.find? caseId = none) :
    memory.requireCase caseId scope = .error (.repository .caseNotFound) := by
  have hcase := h.cases scope caseId
  rw [hnone, Memory.caseIn, Option.map_none] at hcase
  rw [Memory.requireCase]
  cases hget : memory.cases.get? caseId with
  | none => rfl
  | some humanCase =>
    rw [hget, Option.filter_some] at hcase
    refine if_neg fun hscope => ?_
    rw [if_pos (decide_eq_true hscope)] at hcase
    cases hcase

/-- A case is put in with an audit event: a new one, or a new version of one. -/
theorem putCase (h : memory.Holds db) {row : CaseRow} {event : AuditRow}
    (index : JS.Map String String) {t : Tables}
    (hscope : (toHumanCase row).InScope scope) (hevent : event.caseId = row.caseId)
    (hothers : ∀ other, other ≠ scope → (db other).cases.find? row.caseId = none)
    (hevents : (memory.auditEvents.get? row.caseId).getD [] =
      (db scope).audit.filter (·.caseId = row.caseId))
    (hcases : ∀ caseId, t.cases.find? caseId =
      if row.caseId = caseId then some row else (db scope).cases.find? caseId)
    (haudit : t.audit = (db scope).audit ++ [event]) (houtbox : t.outbox = (db scope).outbox)
    (hidempotency : t.idempotency = (db scope).idempotency)
    (hindex : ∀ place workflowId, IsPostgresText place.tenantId →
      IsPostgresText place.environmentId → index.get? (workflowKey place workflowId) =
        ((Function.update db scope t place).caseOf workflowId).map CaseRow.caseId) :
    Memory.Holds { memory with
      cases := memory.cases.set row.caseId (toHumanCase row)
      workflowIndex := index
      auditEvents := memory.auditEvents.set row.caseId
        ((memory.auditEvents.get? row.caseId).getD [] ++ [event]) } (Function.update db scope t) where
  cases place caseId := by
    have hget := JS.Map.get?_set memory.cases row.caseId caseId (toHumanCase row)
    rw [Memory.caseIn, hget]
    by_cases hplace : place = scope
    · rw [hplace, Function.update_self, hcases]
      by_cases hid : row.caseId = caseId
      · rw [if_pos hid, if_pos hid, Option.filter_some, if_pos (decide_eq_true hscope)]
        rfl
      · rw [if_neg hid, if_neg hid]
        exact h.cases scope caseId
    · rw [Function.update_of_ne hplace]
      by_cases hid : row.caseId = caseId
      · have hout : ¬(toHumanCase row).InScope place := fun hin => hplace (hin.eq hscope)
        rw [if_pos hid, Option.filter_some, if_neg (by simpa using hout), ← hid,
          hothers place hplace]
        rfl
      · rw [if_neg hid]
        exact h.cases place caseId
  index := hindex
  audit place caseId hsome := by
    rw [JS.Map.get?_set]
    by_cases hplace : place = scope
    · rw [hplace, Function.update_self] at hsome ⊢
      rw [haudit, List.filter_append]
      by_cases hid : row.caseId = caseId
      · rw [if_pos hid, Option.getD_some, hevents, hid,
          List.filter_cons_of_pos (by simpa using hevent.trans hid), List.filter_nil]
      · have hother : event.caseId ≠ caseId := fun heq => hid (hevent.symm.trans heq)
        rw [if_neg hid, List.filter_cons_of_neg (by simpa using hother), List.filter_nil,
          List.append_nil]
        rw [hcases, if_neg hid] at hsome
        exact h.audit scope caseId hsome
    · rw [Function.update_of_ne hplace] at hsome ⊢
      have hid : row.caseId ≠ caseId := by
        intro hid
        rw [← hid, hothers place hplace] at hsome
        cases hsome
      rw [if_neg hid]
      exact h.audit place caseId hsome
  noAudit caseId hnone := by
    rw [JS.Map.get?_set] at hnone ⊢
    by_cases hid : row.caseId = caseId
    · rw [if_pos hid] at hnone
      cases hnone
    · rw [if_neg hid] at hnone ⊢
      exact h.noAudit caseId hnone
  outbox place := by
    by_cases hplace : place = scope
    · rw [hplace, Function.update_self, Tables.pendingEvents, houtbox]
      exact h.outbox scope
    · rw [Function.update_of_ne hplace]
      exact h.outbox place
  outboxKeys := h.outboxKeys
  records place key record hrecord := by
    by_cases hplace : place = scope
    · rw [hplace, Function.update_self, hidempotency] at hrecord
      obtain ⟨stored, hstored, hremembers⟩ := h.records scope key record hrecord
      refine ⟨stored, hstored, hremembers.fingerprint, hremembers.caseId, hremembers.decision, ?_⟩
      rw [hplace, Function.update_self, houtbox]
      exact hremembers.event
    · rw [Function.update_of_ne hplace] at hrecord ⊢
      exact h.records place key record hrecord
  stored key stored hstored := by
    obtain ⟨place, recordKey, record, hkey, hrecord⟩ := h.stored key stored hstored
    refine ⟨place, recordKey, record, hkey, ?_⟩
    by_cases hplace : place = scope
    · rw [hplace, Function.update_self, hidempotency, ← hplace]
      exact hrecord
    · rw [Function.update_of_ne hplace]
      exact hrecord

/-! A new version of a case, with its audit event. -/

theorem revise (h : memory.Holds db) {row : CaseRow} {change : CaseRow → CaseRow}
    (hrow : (db scope).cases.find? caseId = some row) (hkeeps : KeepsCase change)
    {event : AuditRow} (hevent : event.caseId = row.caseId) {t : Tables}
    (hcases : t.cases = (db scope).cases.modify caseId change hkeeps.caseId)
    (haudit : t.audit = (db scope).audit ++ [event]) (houtbox : t.outbox = (db scope).outbox)
    (hidempotency : t.idempotency = (db scope).idempotency) :
    Memory.Holds { memory with
      cases := memory.cases.set (change row).caseId (toHumanCase (change row))
      auditEvents := memory.auditEvents.set (change row).caseId
        ((memory.auditEvents.get? (change row).caseId).getD [] ++ [event]) }
      (Function.update db scope t) := by
  have hid : row.caseId = caseId := ((Table.find?_eq_some _ _).mp hrow).2
  have hnew : (change row).caseId = row.caseId := hkeeps.caseId row
  obtain ⟨hget, hscope⟩ := h.get_case hrow
  rw [← hnew] at hevent
  refine h.putCase memory.workflowIndex ?_ hevent ?_ ?_ ?_ haudit houtbox hidempotency ?_
  · exact ⟨(hkeeps.tenantId row).trans hscope.1, (hkeeps.environmentId row).trans hscope.2⟩
  · intro other hother
    rw [hnew, hid]
    have hcase := h.cases other caseId
    have hout : ¬(toHumanCase row).InScope other := fun hin => hother (hin.eq hscope)
    rw [Memory.caseIn, hget, Option.filter_some, if_neg (by simpa using hout)] at hcase
    exact Option.map_eq_none_iff.mp hcase.symm
  · rw [hnew, hid]
    exact h.audit scope caseId (Option.isSome_iff_exists.mpr ⟨row, hrow⟩)
  · intro other
    rw [hcases, Table.find?_modify, hrow, hnew, hid]
    by_cases hsame : caseId = other
    · rw [if_pos hsame, if_pos hsame.symm]
      rfl
    · rw [if_neg hsame, if_neg (Ne.symm hsame)]
  · intro place workflowId htenant henvironment
    rw [h.index place workflowId htenant henvironment]
    by_cases hplace : place = scope
    · rw [hplace, Function.update_self]
      exact (hkeeps.caseOf hcases workflowId).symm
    · rw [Function.update_of_ne hplace]

/-! A new case. -/

theorem workflowKey_inj {place place' : Scope} {workflowId workflowId' : String}
    (htenant : IsPostgresText place.tenantId) (henvironment : IsPostgresText place.environmentId)
    (htenant' : IsPostgresText place'.tenantId) (henvironment' : IsPostgresText place'.environmentId)
    (h : workflowKey place workflowId = workflowKey place' workflowId') :
    place = place' ∧ workflowId = workflowId' := by
  have hchars := congrArg String.toList h
  rw [workflowKey, workflowKey] at hchars
  simp only [String.toList_append, String.toList_singleton, List.append_assoc,
    List.singleton_append] at hchars
  obtain ⟨htenants, hrest⟩ := Python.append_cons_inj htenant htenant' hchars
  obtain ⟨henvironments, hworkflows⟩ := Python.append_cons_inj henvironment henvironment' hrest
  obtain ⟨tenant, environment⟩ := place
  obtain ⟨tenant', environment'⟩ := place'
  rw [Scope.mk.injEq]
  exact ⟨⟨String.toList_injective htenants, String.toList_injective henvironments⟩,
    String.toList_injective hworkflows⟩

theorem addCase (h : memory.Holds db) {row : CaseRow} {event : AuditRow} {t : Tables}
    (hscope : (toHumanCase row).InScope scope) (hevent : event.caseId = row.caseId)
    (htenant : IsPostgresText scope.tenantId) (henvironment : IsPostgresText scope.environmentId)
    (hfree : memory.cases.get? row.caseId = none)
    (hworkflow : (db scope).caseOf row.workflowId = none)
    (hcases : t.cases.rows = (db scope).cases.rows ++ [row])
    (haudit : t.audit = (db scope).audit ++ [event]) (houtbox : t.outbox = (db scope).outbox)
    (hidempotency : t.idempotency = (db scope).idempotency) :
    Memory.Holds { memory with
      cases := memory.cases.set row.caseId (toHumanCase row)
      workflowIndex := memory.workflowIndex.set (workflowKey scope row.workflowId) row.caseId
      auditEvents := memory.auditEvents.set row.caseId
        ((memory.auditEvents.get? row.caseId).getD [] ++ [event]) } (Function.update db scope t) := by
  have hnone (place : Scope) := h.no_case hfree place
  refine h.putCase _ hscope hevent (fun other _ => hnone other) ?_ ?_ haudit houtbox hidempotency ?_
  · rw [h.noAudit _ hfree]
    refine (List.filter_eq_nil_iff.mpr fun audit haudit heq => ?_).symm
    have hreferenced := (db scope).auditReferences audit haudit
    have hid : audit.caseId = row.caseId := by simpa using heq
    rw [hid, hnone scope] at hreferenced
    cases hreferenced
  · intro caseId
    rw [Table.find?, hcases, List.find?_append, List.find?_singleton]
    by_cases hid : row.caseId = caseId
    · have hold := hnone scope
      rw [Table.find?, hid] at hold
      rw [hold, if_pos hid, if_pos (by simpa using hid)]
      rfl
    · rw [if_neg hid, if_neg (by simpa using hid), Option.or_none]
      rfl
  · intro place workflowId hplaceTenant hplaceEnvironment
    rw [JS.Map.get?_set]
    by_cases hplace : place = scope
    · rw [hplace, Function.update_self, Tables.caseOf, hcases, List.find?_append,
        List.find?_singleton]
      by_cases hsame : row.workflowId = workflowId
      · rw [Tables.caseOf, hsame] at hworkflow
        rw [if_pos (by rw [hsame]), hworkflow, if_pos (by simpa using hsame)]
        rfl
      · rw [if_neg fun hkey => hsame
          (workflowKey_inj htenant henvironment htenant henvironment hkey).2,
          if_neg (by simpa using hsame), Option.or_none]
        exact h.index scope workflowId htenant henvironment
    · rw [Function.update_of_ne hplace, if_neg fun hkey => hplace
        (workflowKey_inj htenant henvironment hplaceTenant hplaceEnvironment hkey).1.symm]
      exact h.index place workflowId hplaceTenant hplaceEnvironment

end Memory.Holds
end CSO.HumanOperations
