import CSO.HumanOperations.MemoryHolds

/-! The keys and the outbox of the memory. -/
namespace CSO.HumanOperations
open Transition (Table IsPostgresText)

/-- Nothing is recorded under the text of the key but what is recorded under the key in its
scope. -/
def Database.Unshared (db : Database) (scope : Scope) (key : IdempotencyKey) : Prop :=
  ∀ place other, other.idempotencyKey = key.idempotencyKey →
    (db place).idempotency.find? other ≠ none → place = scope ∧ other = key

/-- An event is in one scope. -/
theorem HumanDecisionOutboxEvent.InScope.eq {event : HumanDecisionOutboxEvent}
    {scope scope' : Scope} (h : event.InScope scope) (h' : event.InScope scope') :
    scope = scope' := by
  obtain ⟨tenant, environment⟩ := scope
  obtain ⟨tenant', environment'⟩ := scope'
  rw [Scope.mk.injEq]
  exact ⟨h.1.symm.trans h'.1, h.2.symm.trans h'.2⟩

theorem Remembers.of_outbox {t t' : Tables} {stored : StoredIdempotency} {record : IdempotencyRow}
    (h : Remembers t stored record)
    (hkept : ∀ row, t.outbox.find? row.eventId = some row → ∃ row', row'.eventId = row.eventId ∧
      t'.outbox.find? row.eventId = some row' ∧ toOutboxEvent row' = toOutboxEvent row) :
    Remembers t' stored record where
  fingerprint := h.fingerprint
  caseId := h.caseId
  decision := h.decision
  event event hevent := by
    obtain ⟨row, hid, hrow, rfl⟩ := h.event event hevent
    obtain ⟨row', hsame, hrow', hshown⟩ := hkept row hrow
    refine ⟨row', ?_, ?_, hshown⟩
    · rw [hsame]
      exact hid
    · rw [hsame]
      exact hrow'

namespace Memory.Holds

variable {memory : Memory} {db : Database} {scope : Scope} {caseId : String} {t : Tables}

/-- A database of the same cases with the same audit trail. -/
theorem sameCases (hcases : t.cases = (db scope).cases)
    (haudit : t.audit = (db scope).audit) (place : Scope) :
    ((Function.update db scope t) place).cases = (db place).cases ∧
      ((Function.update db scope t) place).audit = (db place).audit := by
  by_cases hplace : place = scope
  · rw [hplace, Function.update_self]
    exact ⟨hcases, haudit⟩
  · rw [Function.update_of_ne hplace]
    exact ⟨rfl, rfl⟩

/-- What is not about keys and events stays. -/
theorem keepCases (h : memory.Holds db) (hcases : t.cases = (db scope).cases)
    (haudit : t.audit = (db scope).audit)
    (idempotency : JS.Map String StoredIdempotency)
    (outbox : JS.Map String HumanDecisionOutboxEvent)
    (houtbox : ∀ place, outbox.values.filter (·.InScope place) =
      ((Function.update db scope t) place).pendingEvents)
    (hkeys : ∀ entry ∈ outbox.entries, entry.1 = entry.2.eventId)
    (hrecords : ∀ place key record,
      ((Function.update db scope t) place).idempotency.find? key = some record →
        ∃ stored, idempotency.get? key.idempotencyKey = some stored ∧
          Remembers ((Function.update db scope t) place) stored record)
    (hstored : ∀ key stored, idempotency.get? key = some stored → ∃ place recordKey record,
      recordKey.idempotencyKey = key ∧
        ((Function.update db scope t) place).idempotency.find? recordKey = some record) :
    Memory.Holds { memory with idempotency := idempotency, outbox := outbox }
      (Function.update db scope t) where
  cases place caseId := by
    rw [(sameCases hcases haudit place).1]
    exact h.cases place caseId
  index place workflowId htenant henvironment := by
    rw [Tables.caseOf, (sameCases hcases haudit place).1]
    exact h.index place workflowId htenant henvironment
  audit place caseId hsome := by
    rw [(sameCases hcases haudit place).1] at hsome
    rw [(sameCases hcases haudit place).2]
    exact h.audit place caseId hsome
  noAudit := h.noAudit
  outbox := houtbox
  outboxKeys := hkeys
  records := hrecords
  stored := hstored

theorem remember (h : memory.Holds db) {key : IdempotencyKey} {stored : StoredIdempotency}
    {record : IdempotencyRow} (hunshared : db.Unshared scope key)
    (hremembers : Remembers (db scope) stored record)
    (hfind : ∀ other, t.idempotency.find? other =
      if key = other then some record else (db scope).idempotency.find? other)
    (hcases : t.cases = (db scope).cases) (haudit : t.audit = (db scope).audit)
    (houtbox : t.outbox = (db scope).outbox) :
    (memory.remember key.idempotencyKey stored).Holds (Function.update db scope t) := by
  have hpending (place : Scope) : ((Function.update db scope t) place).outbox =
      (db place).outbox := by
    by_cases hplace : place = scope
    · rw [hplace, Function.update_self, houtbox]
    · rw [Function.update_of_ne hplace]
  have hkeep {place : Scope} {stored : StoredIdempotency} {record : IdempotencyRow}
      (hold : Remembers (db place) stored record) :
      Remembers ((Function.update db scope t) place) stored record := by
    refine hold.of_outbox fun row hrow => ⟨row, rfl, ?_, rfl⟩
    rw [hpending]
    exact hrow
  refine h.keepCases hcases haudit _ memory.outbox (fun place => ?_) h.outboxKeys ?_ ?_
  · rw [Tables.pendingEvents, hpending]
    exact h.outbox place
  · intro place other found hfound
    rw [JS.Map.get?_set]
    by_cases hsame : key.idempotencyKey = other.idempotencyKey
    · have hboth : place = scope ∧ other = key := by
        by_cases hplace : place = scope
        · refine ⟨hplace, ?_⟩
          rw [hplace, Function.update_self, hfind] at hfound
          by_cases hkey : key = other
          · exact hkey.symm
          · rw [if_neg hkey] at hfound
            exact (hunshared scope other hsame.symm (by rw [hfound]; exact Option.some_ne_none _)).2
        · rw [Function.update_of_ne hplace] at hfound
          exact hunshared place other hsame.symm (by rw [hfound]; exact Option.some_ne_none _)
      rw [hboth.1, hboth.2, Function.update_self, hfind, if_pos rfl] at hfound
      rw [if_pos hsame, hboth.1, ← Option.some.inj hfound]
      exact ⟨stored, rfl, hkeep hremembers⟩
    · rw [if_neg hsame]
      have hold : (db place).idempotency.find? other = some found := by
        by_cases hplace : place = scope
        · rw [hplace, Function.update_self, hfind, if_neg fun heq => hsame (by rw [heq])] at hfound
          rw [hplace]
          exact hfound
        · rw [Function.update_of_ne hplace] at hfound
          exact hfound
      obtain ⟨kept, hget, hremembered⟩ := h.records place other found hold
      exact ⟨kept, hget, hkeep hremembered⟩
  · intro other kept hget
    rw [JS.Map.get?_set] at hget
    by_cases hsame : key.idempotencyKey = other
    · refine ⟨scope, key, record, hsame, ?_⟩
      rw [Function.update_self, hfind, if_pos rfl]
    · rw [if_neg hsame] at hget
      obtain ⟨place, recordKey, found, hkey, hfound⟩ := h.stored other kept hget
      refine ⟨place, recordKey, found, hkey, ?_⟩
      by_cases hplace : place = scope
      · rw [hplace, Function.update_self, hfind, if_neg fun heq => hsame (by rw [heq, hkey]),
          ← hplace]
        exact hfound
      · rw [Function.update_of_ne hplace]
        exact hfound

/-- The records stay when the events of the outbox do. -/
theorem keepRecords (h : memory.Holds db) (hidempotency : t.idempotency = (db scope).idempotency)
    (hkept : ∀ row, (db scope).outbox.find? row.eventId = some row →
      ∃ row', row'.eventId = row.eventId ∧ t.outbox.find? row.eventId = some row' ∧
        toOutboxEvent row' = toOutboxEvent row) :
    (∀ place key record,
      ((Function.update db scope t) place).idempotency.find? key = some record →
        ∃ stored, memory.idempotency.get? key.idempotencyKey = some stored ∧
          Remembers ((Function.update db scope t) place) stored record) ∧
      ∀ key stored, memory.idempotency.get? key = some stored → ∃ place recordKey record,
        recordKey.idempotencyKey = key ∧
          ((Function.update db scope t) place).idempotency.find? recordKey = some record := by
  constructor
  · intro place key record hrecord
    by_cases hplace : place = scope
    · rw [hplace, Function.update_self, hidempotency] at hrecord
      obtain ⟨stored, hget, hremembers⟩ := h.records scope key record hrecord
      rw [hplace, Function.update_self]
      exact ⟨stored, hget, hremembers.of_outbox hkept⟩
    · rw [Function.update_of_ne hplace] at hrecord ⊢
      exact h.records place key record hrecord
  · intro key stored hget
    obtain ⟨place, recordKey, record, hkey, hrecord⟩ := h.stored key stored hget
    refine ⟨place, recordKey, record, hkey, ?_⟩
    by_cases hplace : place = scope
    · rw [hplace, Function.update_self, hidempotency, ← hplace]
      exact hrecord
    · rw [Function.update_of_ne hplace]
      exact hrecord

theorem addEvent (h : memory.Holds db) {row : OutboxRow} (hpending : row.status = .pending)
    (hscope : (toOutboxEvent row).InScope scope) (hfree : memory.outbox.get? row.eventId = none)
    (houtbox : t.outbox.rows = (db scope).outbox.rows ++ [row])
    (hcases : t.cases = (db scope).cases) (haudit : t.audit = (db scope).audit)
    (hidempotency : t.idempotency = (db scope).idempotency) :
    Memory.Holds { memory with
      outbox := memory.outbox.set row.eventId (toOutboxEvent row) } (Function.update db scope t) := by
  have hentries := JS.Map.entries_set_new hfree (toOutboxEvent row)
  have hrecords := h.keepRecords (t := t) hidempotency fun old hold => ⟨old, rfl, by
    rw [Table.find?, houtbox, List.find?_append]
    exact congrArg (Option.or · _) hold, rfl⟩
  refine h.keepCases hcases haudit memory.idempotency _ (fun place => ?_)
    (fun entry hentry => ?_) hrecords.1 hrecords.2
  · rw [JS.Map.values, hentries, List.map_append, List.map_singleton, List.filter_append]
    have hold := h.outbox place
    rw [Memory.pendingIn, JS.Map.values] at hold
    rw [hold]
    by_cases hplace : place = scope
    · rw [hplace, Function.update_self, Tables.pendingEvents, Tables.pendingEvents, houtbox,
        List.filter_append, List.map_append, List.filter_cons_of_pos (by simpa using hscope),
        List.filter_nil, List.filter_cons_of_pos (by simpa using hpending), List.filter_nil]
      rfl
    · have hout : ¬(toOutboxEvent row).InScope place := fun hin => hplace (hin.eq hscope)
      rw [Function.update_of_ne hplace, List.filter_cons_of_neg (by simpa using hout),
        List.filter_nil, List.append_nil]
  · rw [hentries] at hentry
    rcases List.mem_append.mp hentry with hold | hnew
    · exact h.outboxKeys entry hold
    · rw [List.mem_singleton.mp hnew]
      rfl

theorem pendingEvents_changeOutbox (t : Tables) (eventId : String) :
    (t.changeOutbox eventId).pendingEvents =
      t.pendingEvents.filter fun event => event.eventId ≠ eventId := by
  rw [Tables.pendingEvents, Tables.pendingEvents, List.filter_map, List.filter_filter]
  show ((t.outbox.rows.map fun row => if row.eventId = eventId then Tables.deliver row
    else row).filter _).map _ = _
  rw [List.filter_map, List.map_map]
  have hfilter : ((fun row : OutboxRow => decide (row.status = .pending)) ∘ fun row =>
      if row.eventId = eventId then Tables.deliver row else row) = fun row =>
        (((fun event : HumanDecisionOutboxEvent => decide (event.eventId ≠ eventId)) ∘
          toOutboxEvent) row && decide (row.status = .pending)) := by
    funext row
    rw [Function.comp_apply, Function.comp_apply]
    have hid : (toOutboxEvent row).eventId = row.eventId := rfl
    rw [hid]
    by_cases hsame : row.eventId = eventId
    · rw [if_pos hsame, decide_eq_false (not_not_intro hsame)]
      rfl
    · rw [if_neg hsame, decide_eq_true hsame, Bool.true_and]
  rw [hfilter]
  refine List.map_congr_left fun row _ => ?_
  rw [Function.comp_apply]
  split_ifs <;> rfl

/-- A pending event stands under its own identifier. -/
theorem get_event (h : memory.Holds db) {event : HumanDecisionOutboxEvent}
    (hevent : event ∈ memory.pendingIn scope) :
    memory.outbox.get? event.eventId = some event ∧ event.InScope scope := by
  obtain ⟨hvalue, hscope⟩ := List.mem_filter.mp hevent
  obtain ⟨entry, hentry, hsame⟩ := List.mem_map.mp hvalue
  refine ⟨?_, by simpa using hscope⟩
  rw [JS.Map.get?_eq_some, ← hsame, ← h.outboxKeys entry hentry]
  exact hentry

theorem values_delete (h : memory.Holds db) (eventId : String) :
    (memory.outbox.delete eventId).values =
      memory.outbox.values.filter fun event => event.eventId ≠ eventId := by
  rw [JS.Map.values, JS.Map.values, List.filter_map]
  show (memory.outbox.entries.filter _).map Prod.snd = _
  congr 1
  refine List.filter_congr fun entry hentry => ?_
  rw [Function.comp_apply, h.outboxKeys entry hentry]

theorem deliver (h : memory.Holds db) (eventId : String) :
    (memory.markOutboxDelivered scope eventId).Holds
      (Function.update db scope ((db scope).changeOutbox eventId)) := by
  have hrecords := h.keepRecords (t := (db scope).changeOutbox eventId) rfl fun row hrow => by
    have hmodified := (db scope).outbox.find?_modify eventId row.eventId Tables.deliver fun _ => rfl
    by_cases hid : row.eventId = eventId
    · refine ⟨Tables.deliver row, rfl, ?_, rfl⟩
      rw [if_pos hid, ← hid, hrow] at hmodified
      exact hid ▸ hmodified
    · rw [if_neg hid] at hmodified
      exact ⟨row, rfl, hmodified.trans hrow, rfl⟩
  have hpending (place : Scope) : ((Function.update db scope ((db scope).changeOutbox eventId))
      place).pendingEvents = if place = scope then
        (db scope).pendingEvents.filter fun event => event.eventId ≠ eventId
      else (db place).pendingEvents := by
    by_cases hplace : place = scope
    · rw [hplace, Function.update_self, if_pos rfl, pendingEvents_changeOutbox]
    · rw [Function.update_of_ne hplace, if_neg hplace]
  have hold (place : Scope) : memory.outbox.values.filter (·.InScope place) =
      (db place).pendingEvents := h.outbox place
  by_cases hin : ∃ event, memory.outbox.get? eventId = some event ∧ event.InScope scope
  · obtain ⟨event, hget, hscope⟩ := hin
    have hdelivered : memory.markOutboxDelivered scope eventId =
        { memory with outbox := memory.outbox.delete eventId } := by
      rw [Memory.markOutboxDelivered, hget]
      exact if_pos hscope
    rw [hdelivered]
    refine h.keepCases (t := (db scope).changeOutbox eventId) rfl rfl memory.idempotency _
      (fun place => ?_) (fun entry hentry => h.outboxKeys entry (List.mem_of_mem_filter hentry)) hrecords.1
      hrecords.2
    rw [h.values_delete, List.filter_filter, hpending, ← hold scope, List.filter_filter]
    by_cases hplace : place = scope
    · rw [if_pos hplace, hplace]
      exact List.filter_congr fun other _ => Bool.and_comm _ _
    · rw [if_neg hplace, ← hold place]
      refine List.filter_congr fun other hother => ?_
      by_cases hplaced : other.InScope place
      · -- The event that leaves is of another scope.
        have hne : other.eventId ≠ eventId := by
          intro heq
          have hfound := h.get_event (List.mem_filter.mpr ⟨hother, decide_eq_true hplaced⟩)
          rw [heq, hget] at hfound
          exact hplace (hplaced.eq (Option.some.inj hfound.1 ▸ hscope))
        rw [decide_eq_true hplaced, decide_eq_true hne]
        rfl
      · rw [decide_eq_false hplaced, Bool.false_and]
  · have hkept : memory.markOutboxDelivered scope eventId = memory := by
      rw [Memory.markOutboxDelivered]
      cases hget : memory.outbox.get? eventId with
      | none => rfl
      | some event => exact if_neg fun hscope => hin ⟨event, hget, hscope⟩
    rw [hkept]
    refine h.keepCases (t := (db scope).changeOutbox eventId) rfl rfl memory.idempotency
      memory.outbox (fun place => ?_) h.outboxKeys hrecords.1 hrecords.2
    rw [hpending, hold place]
    by_cases hplace : place = scope
    · rw [if_pos hplace, hplace]
      refine (List.filter_eq_self.mpr fun event hevent => ?_).symm
      rw [← h.outbox scope] at hevent
      obtain ⟨hget, hscope⟩ := h.get_event hevent
      have hne : event.eventId ≠ eventId := fun heq => hin ⟨event, heq ▸ hget, hscope⟩
      exact decide_eq_true hne
    · rw [if_neg hplace]

end Memory.Holds
end CSO.HumanOperations
