import CSO.Conversation.Machine

/-! The integrity of the store: numbers without gap or repeat, one payload and one event for each
message, links that stay, and failures that leave no trace. -/
namespace CSO.Conversation
open Transition (Machine Table)

namespace Tables

/-- The sequence numbers of a conversation, in the order of its messages. -/
def sequenceNumbers (t : Tables) (conversationId : String) : List ℕ :=
  ((t.messages.rows.map MessageRow.key).filter fun key =>
    key.conversationId = conversationId).map MessageKey.sequenceNumber

/-- What an event says about its message. -/
def events (t : Tables) : List (MessageKey × String) :=
  t.outbox.rows.map fun event => (⟨event.aggregateId, event.aggregateSequence⟩, event.messageId)

structure Sound (t : Tables) : Prop where
  numbered : ∀ c ∈ t.conversations.rows, 1 ≤ c.nextSequenceNumber ∧
    t.sequenceNumbers c.conversationId = List.range' 1 (c.nextSequenceNumber - 1)
  payloads : t.payloads.rows.map PayloadRow.payloadId = t.messages.rows.map MessageRow.payloadId
  events : t.events = t.messages.rows.map fun m => (m.key, m.messageId)

end Tables

variable {t u : Tables} {s : State} {now : ℤ} {request : Request} {reply : Reply}

theorem sound_empty : Tables.empty.Sound where
  numbered := by simp [Tables.empty, Table.empty]
  payloads := rfl
  events := rfl

/-- Tables that agree on these columns are sound alike. -/
theorem Tables.Sound.congr (h : t.Sound) (hc : u.conversations = t.conversations)
    (hp : u.payloads = t.payloads) (ho : u.outbox = t.outbox)
    (hm : u.messages.rows.map (fun m => (m.key, m.messageId, m.payloadId)) =
      t.messages.rows.map fun m => (m.key, m.messageId, m.payloadId)) : u.Sound := by
  have hkey := congrArg (List.map Prod.fst) hm
  have hid := congrArg (List.map fun m => (m.1, m.2.1)) hm
  have hpayload := congrArg (List.map fun m => m.2.2) hm
  simp only [List.map_map, Function.comp_def] at hkey hid hpayload
  have hnumbers : u.sequenceNumbers = t.sequenceNumbers := by
    funext conversationId
    exact congrArg (fun keys => (List.filter (fun key : MessageKey =>
      key.conversationId = conversationId) keys).map MessageKey.sequenceNumber) hkey
  constructor
  · rw [hc, hnumbers]
    exact h.numbered
  · rw [hp, h.payloads]
    exact hpayload.symm
  · rw [Tables.events, ho]
    exact h.events.trans hid.symm

theorem Tables.Sound.record (h : t.Sound) (row : IdempotencyRow)
    (hfree : t.idempotency.find? row.key = none) : (t.record row hfree).Sound :=
  h.congr rfl rfl rfl rfl

theorem Tables.Sound.linkMessage (h : t.Sound) (key : MessageKey) (workflowId : String) :
    (t.linkMessage key workflowId).Sound := by
  refine h.congr rfl rfl rfl ?_
  change (t.messages.rows.map _).map _ = _
  rw [List.map_map]
  apply List.map_congr_left
  intro row _
  rw [Function.comp_apply]
  split_ifs <;> rfl

/-- No message belongs to a conversation that does not exist. -/
theorem Tables.sequenceNumbers_of_none {conversationId : String}
    (h : t.conversations.find? conversationId = none) : t.sequenceNumbers conversationId = [] := by
  unfold Tables.sequenceNumbers
  rw [List.map_eq_nil_iff, List.filter_eq_nil_iff]
  intro key hkey
  obtain ⟨m, hm, rfl⟩ := List.mem_map.mp hkey
  have hreference := t.messageReferences m hm
  simp only [decide_eq_true_eq]
  intro heq
  rw [heq, h] at hreference
  cases hreference

theorem Tables.Sound.addConversation {row : ConversationRow} (h : t.Sound)
    (hfree : t.conversations.find? row.conversationId = none) (hone : row.nextSequenceNumber = 1) :
    (t.addConversation row hfree).Sound where
  numbered := by
    intro c hc
    have hmem : c ∈ t.conversations.rows ∨ c = row := by
      simpa [Tables.addConversation] using hc
    rcases hmem with hold | rfl
    · exact h.numbered c hold
    · have hnone : t.sequenceNumbers c.conversationId = [] := Tables.sequenceNumbers_of_none hfree
      rw [hone]
      exact ⟨le_refl 1, hnone⟩
  payloads := h.payloads
  events := h.events

/-- The number that a conversation gives away is its next one. -/
theorem Stores.sound {input : MessageInput} {options : AppendMessageOptions} {ids : Drawn}
    {conversation : ConversationRow} (h : t.Sound) (hopen : t.Open input conversation)
    (hs : Stores t u input options ids now conversation) : u.Sound := by
  have hfound := (t.conversations.find?_eq_some _).mp hopen.1
  constructor
  · intro c hc
    rw [hs.conversations] at hc
    obtain ⟨row, hrow, rfl⟩ := List.mem_map.mp hc
    have hold := h.numbered row hrow
    have hnumbers : ∀ conversationId, u.sequenceNumbers conversationId =
        t.sequenceNumbers conversationId ++
          if uuid input.conversationId = conversationId then [conversation.nextSequenceNumber]
          else [] := by
      intro conversationId
      unfold Tables.sequenceNumbers
      rw [hs.messages, List.map_append, List.filter_append, List.map_append]
      congr 1
      by_cases hsame : uuid input.conversationId = conversationId
      · simp [hsame, MessageInput.row]
      · simp [hsame, MessageInput.row]
    by_cases hsame : row.conversationId = uuid input.conversationId
    · have heq : row = conversation :=
        Table.eq_of_unique t.conversations.unique hrow hfound.1 (hsame.trans hfound.2.symm)
      subst heq
      rw [if_pos hsame]
      refine ⟨Nat.le_add_left 1 _, ?_⟩
      calc u.sequenceNumbers row.conversationId
          = List.range' 1 (row.nextSequenceNumber - 1) ++ [row.nextSequenceNumber] := by
            rw [hnumbers, hold.2, if_pos hsame.symm]
        _ = List.range' 1 (row.nextSequenceNumber - 1 + 1) := by
            rw [List.range'_1_concat, Nat.add_sub_cancel' hold.1]
        _ = List.range' 1 ((row.advance now).nextSequenceNumber - 1) := by
            rw [Nat.sub_add_cancel hold.1]
            rfl
    · rw [if_neg hsame]
      refine ⟨hold.1, ?_⟩
      rw [hnumbers, hold.2, if_neg (Ne.symm hsame), List.append_nil]
  · rw [hs.payloads, hs.messages, List.map_append, List.map_append, h.payloads]
    rfl
  · have hevents := h.events
    unfold Tables.events at hevents ⊢
    rw [hs.outbox, hs.messages, List.map_append, List.map_append, hevents]
    rfl

theorem Handles.sound (h : Handles t now request reply u) (hs : t.Sound) : u.Sound := by
  cases h with
  | kept => exact hs
  | created => exact (hs.record _ _).addConversation _ rfl
  | appended hsize hopen happend =>
    cases happend with
    | replayed => exact hs
    | known => exact hs.record _ _
    | stored hopen hnone hclient hstores => exact hstores.sound hs hopen
  | linked hlink =>
    cases hlink with
    | replayed => exact hs
    | kept => exact hs.record _ _
    | linked => exact (hs.linkMessage _ _).record _ _

theorem reachable_sound (h : runtime.Reachable IsInitial s) : s.tables.Sound :=
  tables_invariant sound_empty (fun _ _ _ _ _ hs hh => hh.sound hs) h

/-! Messages stay. -/

/-- A message apart from its link. -/
def MessageRow.unlinked (row : MessageRow) : MessageRow := { row with refundWorkflowId := none }

/-- Every message stays, with its link if it has one. -/
def Tables.Extends (t u : Tables) : Prop :=
  ∀ m ∈ t.messages.rows, ∃ m' ∈ u.messages.rows, m'.unlinked = m.unlinked ∧
    (m.refundWorkflowId = none ∨ m'.refundWorkflowId = m.refundWorkflowId)

theorem Tables.Extends.of_mem (h : ∀ m ∈ t.messages.rows, m ∈ u.messages.rows) : t.Extends u :=
  fun m hm => ⟨m, h m hm, rfl, Or.inr rfl⟩

theorem Tables.Extends.trans {v : Tables} (h : t.Extends u) (h' : u.Extends v) : t.Extends v := by
  intro m hm
  obtain ⟨m', hm', hsame, hlink⟩ := h m hm
  obtain ⟨m'', hm'', hsame', hlink'⟩ := h' m' hm'
  refine ⟨m'', hm'', hsame'.trans hsame, ?_⟩
  rcases hlink with hnone | hkept
  · exact Or.inl hnone
  · rcases hlink' with hnone | hkept'
    · exact Or.inl (hkept ▸ hnone)
    · exact Or.inr (hkept'.trans hkept)

theorem Links.extends {input : LinkRefundWorkflowInput} {answer : LinkStatus × String}
    (h : Links t input answer u) : t.Extends u := by
  cases h with
  | replayed => exact .of_mem fun m hm => hm
  | kept => exact .of_mem fun m hm => hm
  | linked hfound hfree =>
    rename_i message row hrow hrecord
    intro m hm
    have hmessage := List.mem_of_find?_eq_some hfound
    refine ⟨_, List.mem_map_of_mem hm, ?_⟩
    split_ifs with hkey
    · have heq := Table.eq_of_unique t.messages.unique hm hmessage hkey
      exact ⟨rfl, Or.inl (heq ▸ hfree)⟩
    · exact ⟨rfl, Or.inr rfl⟩

theorem Handles.extends (h : Handles t now request reply u) : t.Extends u := by
  cases h with
  | kept => exact .of_mem fun m hm => hm
  | created => exact .of_mem fun m hm => hm
  | appended hsize hopen happend =>
    cases happend with
    | replayed => exact .of_mem fun m hm => hm
    | known => exact .of_mem fun m hm => hm
    | stored hopen hnone hclient hstores =>
      apply Tables.Extends.of_mem
      intro m hm
      rw [hstores.messages]
      exact List.mem_append_left _ hm
  | linked hlink => exact hlink.extends

theorem run_extends {es : List Event} {s' : State} (h : runtime.run s es = some s') :
    s.tables.Extends s'.tables := by
  refine Machine.run_invariant (I := fun s' => s.tables.Extends s'.tables) ?_
    (.of_mem fun m hm => hm) h
  intro a e b ha hstep
  cases hstep
  rcases step_cases a e with hsame | ⟨reply, t, -, hhandles, hstep⟩
  · rw [hsame]
    exact ha
  · rw [hstep]
    exact ha.trans hhandles.extends

/-- In every reachable state the numbers of each conversation are those from one to its next, every
message has its own payload and its own event under its number, a link is never replaced, and
whatever fails changes nothing. -/
theorem store_integrity (h : runtime.Reachable IsInitial s) :
    (∀ c ∈ s.tables.conversations.rows, 1 ≤ c.nextSequenceNumber ∧
      s.tables.sequenceNumbers c.conversationId = List.range' 1 (c.nextSequenceNumber - 1)) ∧
    (∀ m ∈ s.tables.messages.rows,
      (∃ p, (s.tables.payloads.rows.filter fun p => p.payloadId = m.payloadId) = [p]) ∧
      ∀ m' ∈ s.tables.messages.rows, m'.payloadId = m.payloadId → m' = m) ∧
    (∀ m ∈ s.tables.messages.rows, ∃ event,
      (s.tables.outbox.rows.filter fun event => event.messageId = m.messageId) = [event] ∧
      event.aggregateId = m.key.conversationId ∧ event.aggregateSequence = m.key.sequenceNumber) ∧
    (∀ es s', runtime.run s es = some s' → ∀ m ∈ s.tables.messages.rows, ∀ workflowId,
      m.refundWorkflowId = some workflowId → ∃ m' ∈ s'.tables.messages.rows,
        m'.key = m.key ∧ m'.messageId = m.messageId ∧ m'.refundWorkflowId = some workflowId) ∧
    (∀ (request : Request) now failure t,
      (request.exec now).run s.tables = .error failure t → t = s.tables) := by
  have hsound := reachable_sound h
  have hids : (s.tables.messages.rows.map MessageRow.payloadId).Nodup :=
    hsound.payloads ▸ s.tables.payloads.unique
  refine ⟨hsound.numbered, ?_, ?_, ?_, ?_⟩
  · intro m hm
    refine ⟨?_, fun m' hm' heq => Table.eq_of_unique hids hm' hm heq⟩
    obtain ⟨p, hp, hid⟩ := List.mem_map.mp
      (hsound.payloads ▸ List.mem_map_of_mem hm : m.payloadId ∈ _)
    refine ⟨p, Table.filter_eq_singleton (List.Nodup.of_map _ s.tables.payloads.unique) hp
      (by simpa using hid) ?_⟩
    intro other hother heq
    exact Table.eq_of_unique s.tables.payloads.unique hother hp
      ((of_decide_eq_true heq).trans hid.symm)
  · intro m hm
    have hmem : (m.key, m.messageId) ∈ s.tables.events := by
      rw [hsound.events]
      exact List.mem_map_of_mem hm
    obtain ⟨event, hevent, heq⟩ := List.mem_map.mp hmem
    obtain ⟨hkey, hid⟩ := Prod.mk.inj heq
    have hunique : (s.tables.outbox.rows.map OutboxRow.messageId).Nodup := by
      have hsecond := congrArg (List.map Prod.snd) hsound.events
      simp only [Tables.events, List.map_map, Function.comp_def] at hsecond
      exact hsecond ▸ s.tables.oneId
    refine ⟨event, Table.filter_eq_singleton (List.Nodup.of_map _ s.tables.outbox.unique) hevent
      (by simpa using hid) ?_, congrArg MessageKey.conversationId hkey,
      congrArg MessageKey.sequenceNumber hkey⟩
    intro other hother hsame
    exact Table.eq_of_unique hunique hother hevent ((of_decide_eq_true hsame).trans hid.symm)
  · intro es s' hrun m hm workflowId hlinked
    obtain ⟨m', hm', hsame, hlink⟩ := run_extends hrun m hm
    have hkey : m'.unlinked.key = m.unlinked.key := by rw [hsame]
    have hid : m'.unlinked.messageId = m.unlinked.messageId := by rw [hsame]
    refine ⟨m', hm', hkey, hid, ?_⟩
    rcases hlink with hnone | hsame
    · rw [hlinked] at hnone
      cases hnone
    · rw [hsame, hlinked]
  · intro request now failure t herror
    exact exec_error herror

theorem store_integrity_turn : ∃ s, runtime.Reachable IsInitial s ∧
    s.tables.sequenceNumbers Turn.conversationId.text = [1, 2] ∧
    ∀ m ∈ s.tables.messages.rows,
      (∃ p, (s.tables.payloads.rows.filter fun p => p.payloadId = m.payloadId) = [p]) ∧
      ∀ m' ∈ s.tables.messages.rows, m'.payloadId = m.payloadId → m' = m := by
  obtain ⟨s, hrun, hnumbers⟩ : ∃ s, runtime.run .initial Turn.linked = some s ∧
      s.tables.sequenceNumbers Turn.conversationId.text = [1, 2] :=
    Machine.exists_run (by decide +kernel)
  have hreach : runtime.Reachable IsInitial s := ⟨_, _, rfl, hrun⟩
  exact ⟨s, hreach, hnumbers, (store_integrity hreach).2.1⟩

end CSO.Conversation
