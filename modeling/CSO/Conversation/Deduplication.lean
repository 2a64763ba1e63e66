import CSO.Conversation.Integrity
import CSO.JS.Quote

/-! Retries and copies of message requests: one message for each client message id, one answer for
each key. -/
namespace CSO.Conversation
open Transition (Machine Table transaction throwIf)
open Work

namespace Kind

def operation : Kind → Operation
  | customer => .acceptMessage
  | assistant => .appendAssistantMessage

def sender : Kind → SenderKind
  | customer => .endCustomer
  | assistant => .assistant

theorem operation_inj {kind other : Kind} (h : kind.operation = other.operation) : kind = other := by
  cases kind <;> cases other <;> first | rfl | cases h

end Kind

namespace Answer

/-- The key under which the request is kept. -/
def key (a : Answer) : IdempotencyKey := a.input.key (a.input.options a.kind)

/-- The conversation and the client message id that the message is stored under. -/
def client (a : Answer) : String × String :=
  (uuid a.input.conversationId, (a.input.options a.kind).storedClientMessageId)

end Answer

theorem operation_of_options (input : MessageInput) (kind : Kind) :
    (input.options kind).operation = kind.operation := by
  cases kind <;> rfl

theorem sender_of_options (input : MessageInput) (kind : Kind) :
    (input.options kind).senderKind = kind.sender := by
  cases kind <;> rfl

/-- One kind stores different client message ids under different texts. -/
theorem stored_inj {input other : MessageInput} {kind : Kind}
    (h : (input.options kind).storedClientMessageId = (other.options kind).storedClientMessageId) :
    input.clientMessageId = other.clientMessageId := by
  cases kind with
  | customer => exact h
  | assistant => exact String.append_right_inj _ |>.mp h

theorem stored_congr {input other : MessageInput} {kind : Kind}
    (h : input.clientMessageId = other.clientMessageId) :
    (input.options kind).storedClientMessageId = (other.options kind).storedClientMessageId := by
  cases kind with
  | customer => exact h
  | assistant => exact congrArg ("assistant:" ++ ·) h

variable {t u : Tables} {s : State} {now : ℤ} {request : Request} {reply : Reply}
  {input : MessageInput} {kind : Kind} {ids : Drawn} {result : MessageResult} {m : MessageRow}

namespace Tables

theorem clientMessage_eq_some {conversationId clientMessageId : String} :
    t.clientMessage conversationId clientMessageId = some m ↔
      m ∈ t.messages.rows ∧ m.client = (uuid conversationId, clientMessageId) :=
  Table.find?_eq_some ⟨t.messages.rows, t.oneClientId⟩ (uuid conversationId, clientMessageId)

/-- Rows under one client message id are one row. -/
theorem eq_of_client {m' : MessageRow} (h : m ∈ t.messages.rows) (h' : m' ∈ t.messages.rows)
    (hclient : m.client = m'.client) : m = m' :=
  Table.eq_of_unique t.oneClientId h h' hclient

end Tables

/-- A message that stays keeps all but its link. -/
theorem extends_client (h : t.Extends u) (hm : m ∈ t.messages.rows) :
    ∃ m' ∈ u.messages.rows, m'.client = m.client ∧ m'.messageId = m.messageId ∧
      m'.key = m.key ∧ m'.contentSha256 = m.contentSha256 ∧ m'.senderKind = m.senderKind := by
  obtain ⟨m', hm', hsame, -⟩ := h m hm
  have hclient : m'.unlinked.client = m.unlinked.client := by rw [hsame]
  have hid : m'.unlinked.messageId = m.unlinked.messageId := by rw [hsame]
  have hkey : m'.unlinked.key = m.unlinked.key := by rw [hsame]
  have hsha : m'.unlinked.contentSha256 = m.unlinked.contentSha256 := by rw [hsame]
  have hsender : m'.unlinked.senderKind = m.unlinked.senderKind := by rw [hsame]
  exact ⟨m', hm', hclient, hid, hkey, hsha, hsender⟩

/-! What an answered request leaves of records and conversations. -/

theorem find?_concat {ρ κ : Type} [DecidableEq κ] {key : ρ → κ} {T U : Table ρ κ key} {row : ρ}
    (h : U.rows = T.rows ++ [row]) (k : κ) :
    U.find? k = (T.find? k).or (if key row = k then some row else none) := by
  unfold Table.find?
  rw [h, List.find?_append, List.find?_singleton]
  simp

/-- A request leaves at most one new record. -/
theorem Handles.idempotency (h : Handles t now request reply u) :
    u.idempotency.rows = t.idempotency.rows ∨
    ∃ new, u.idempotency.rows = t.idempotency.rows ++ [new] ∧
      t.idempotency.find? new.key = none ∧
      (new.key.operation = .create ∨ new.key.operation = .linkRefundWorkflow ∨
        ∃ kind input ids result, request = .append kind input ids ∧ reply = .message result ∧
          new = input.record (input.options kind) result now) := by
  cases h with
  | kept => exact Or.inl rfl
  | created hnew hreply =>
    rename_i row hrecord hfree
    exact Or.inr ⟨row, rfl, hrecord, Or.inl hnew⟩
  | appended hsize hopen happend =>
    cases happend with
    | replayed => exact Or.inl rfl
    | known hfree => exact Or.inr ⟨_, rfl, hfree, Or.inr (Or.inr ⟨_, _, _, _, rfl, rfl, rfl⟩)⟩
    | stored hopen hnone hclient hstores =>
      exact Or.inr ⟨_, hstores.idempotency, hnone, Or.inr (Or.inr ⟨_, _, _, _, rfl, rfl, rfl⟩)⟩
  | linked hlink =>
    cases hlink with
    | replayed => exact Or.inl rfl
    | kept hm hlinked hnew hfree => exact Or.inr ⟨_, rfl, hfree, Or.inr (Or.inl hnew)⟩
    | linked hm hfree hnew hrecord => exact Or.inr ⟨_, rfl, hrecord, Or.inr (Or.inl hnew)⟩

/-- A record stays. -/
theorem Handles.idempotency_stays (h : Handles t now request reply u) {k : IdempotencyKey}
    {row : IdempotencyRow} (hrow : t.idempotency.find? k = some row) :
    u.idempotency.find? k = some row := by
  rcases h.idempotency with hsame | ⟨new, hrows, -⟩
  · unfold Table.find? at hrow ⊢
    rw [hsame]
    exact hrow
  · rw [find?_concat hrows, hrow, Option.some_or]

/-- A new record of a message request is that of the request which has been answered. -/
theorem Handles.idempotency_origin (h : Handles t now request reply u) {row : IdempotencyRow}
    (hrow : row ∈ u.idempotency.rows) (hop : row.key.operation = kind.operation) :
    row ∈ t.idempotency.rows ∨ ∃ a ∈ request.answers reply, a.kind = kind ∧ row.key = a.key ∧
      row.canonicalRequestHash = a.input.hash ∧ row.result = .message a.result := by
  rcases h.idempotency with hsame | ⟨new, hrows, -, hnew⟩
  · exact Or.inl (hsame ▸ hrow)
  · rw [hrows, List.mem_append, List.mem_singleton] at hrow
    rcases hrow with hold | rfl
    · exact Or.inl hold
    · rw [hop] at hnew
      rcases hnew with hcreate | hlink | ⟨other, input, ids, result, rfl, rfl, rfl⟩
      · cases kind <;> cases hcreate
      · cases kind <;> cases hlink
      · refine Or.inr ⟨⟨other, input, result⟩, List.mem_singleton_self _, ?_, rfl, rfl, rfl⟩
        exact Kind.operation_inj ((operation_of_options input other).symm.trans hop)

/-- A conversation that is open for a customer stays so. -/
theorem Handles.open_stays (h : Handles t now request reply u)
    (hopen : ∃ conversation, t.Open input conversation) :
    ∃ conversation, u.Open input conversation := by
  obtain ⟨conversation, hfound, hstatus, hsubject⟩ := hopen
  cases h with
  | kept => exact ⟨conversation, hfound, hstatus, hsubject⟩
  | created hnew hreply =>
    rename_i created id row hrecord hfree
    refine ⟨conversation, ?_, hstatus, hsubject⟩
    have hne : (created.row id now).conversationId ≠ uuid input.conversationId := by
      intro heq
      rw [heq] at hfree
      exact absurd (hfound.symm.trans hfree) (by simp)
    rw [Tables.addConversation, Table.find?_insert, if_neg hne]
    exact hfound
  | appended hsize hopen happend =>
    cases happend with
    | replayed => exact ⟨conversation, hfound, hstatus, hsubject⟩
    | known => exact ⟨conversation, hfound, hstatus, hsubject⟩
    | stored hopen hnone hclient hstores =>
      rename_i other ids result given
      have hmem := ((t.conversations.find?_eq_some _).mp hfound)
      by_cases hsame : conversation.conversationId = uuid other.conversationId
      · refine ⟨conversation.advance now, (u.conversations.find?_eq_some _).mpr ⟨?_, hmem.2⟩, hstatus,
          hsubject⟩
        rw [hstores.conversations]
        exact List.mem_map.mpr ⟨conversation, hmem.1, if_pos hsame⟩
      · refine ⟨conversation, (u.conversations.find?_eq_some _).mpr ⟨?_, hmem.2⟩, hstatus, hsubject⟩
        rw [hstores.conversations]
        exact List.mem_map.mpr ⟨conversation, hmem.1, if_neg hsame⟩
  | linked hlink =>
    cases hlink with
    | replayed => exact ⟨conversation, hfound, hstatus, hsubject⟩
    | kept => exact ⟨conversation, hfound, hstatus, hsubject⟩
    | linked => exact ⟨conversation, hfound, hstatus, hsubject⟩

/-- A message is one that was there, apart from its link, or that of a new answer. -/
theorem Handles.message_origin (h : Handles t now request reply u) (hm : m ∈ u.messages.rows) :
    (∃ m₀ ∈ t.messages.rows, m.unlinked = m₀.unlinked) ∨
    ∃ a ∈ request.answers reply, m.client = a.client ∧ m.senderKind = a.kind.sender ∧
      m.contentSha256 = JS.Sha256.hex a.input.text ∧
      a.result = ⟨m.messageId, m.key.sequenceNumber⟩ := by
  cases h with
  | kept => exact Or.inl ⟨m, hm, rfl⟩
  | created => exact Or.inl ⟨m, hm, rfl⟩
  | @appended kind input ids result u hsize hopen happend =>
    cases happend with
    | replayed => exact Or.inl ⟨m, hm, rfl⟩
    | known => exact Or.inl ⟨m, hm, rfl⟩
    | stored hopen hnone hclient hstores =>
      rw [hstores.messages, List.mem_append, List.mem_singleton] at hm
      rcases hm with hold | rfl
      · exact Or.inl ⟨m, hold, rfl⟩
      · exact Or.inr ⟨⟨kind, input, _⟩, List.mem_singleton_self _, rfl, sender_of_options input kind,
          rfl, rfl⟩
  | linked hlink =>
    cases hlink with
    | replayed => exact Or.inl ⟨m, hm, rfl⟩
    | kept => exact Or.inl ⟨m, hm, rfl⟩
    | linked =>
      obtain ⟨m₀, hm₀, rfl⟩ := List.mem_map.mp hm
      refine Or.inl ⟨m₀, hm₀, ?_⟩
      split_ifs <;> rfl

/-- An answer is given by an append. -/
theorem Handles.answer (h : Handles t now request reply u) {a : Answer}
    (ha : a ∈ request.answers reply) :
    byteLength a.input.text ≤ 32 * 1024 ∧ (∃ conversation, t.Open a.input conversation) ∧
      ∃ ids, Appends t a.input (a.input.options a.kind) ids now a.result u := by
  cases h with
  | kept _ _ hnone =>
    rw [hnone] at ha
    cases ha
  | created hnew hnone =>
    rw [hnone] at ha
    cases ha
  | @appended kind input ids result u hsize hopen happend =>
    cases List.mem_singleton.mp ha
    exact ⟨hsize, hopen, ids, happend⟩
  | linked => cases ha

/-- What every answered request keeps holds of every reachable state. -/
theorem answers_invariant {I : State → Prop} (hinitial : I .initial)
    (hkeeps : ∀ s now request reply u, I s → Handles s.tables now request reply u →
      I ⟨u, request.answers reply ++ s.answers⟩)
    (h : runtime.Reachable IsInitial s) : I s := by
  apply h.invariant
  · intro s hs
    rw [hs]
    exact hinitial
  · intro s e s' hs hstep
    cases hstep
    rcases step_cases s e with hsame | ⟨reply, t, -, hhandles, hstep⟩
    · rw [hsame]
      exact hs
    · rw [hstep]
      exact hkeeps _ _ _ _ _ hs hhandles

/-- What the tables keep of the answers. -/
structure Kept (s : State) : Prop where
  fits : ∀ a ∈ s.answers, byteLength a.input.text ≤ 32 * 1024
  opened : ∀ a ∈ s.answers, ∃ conversation, s.tables.Open a.input conversation
  recorded : ∀ a ∈ s.answers, ∃ row, s.tables.idempotency.find? a.key = some row ∧
    row.canonicalRequestHash = a.input.hash ∧ row.result = .message a.result
  answered : ∀ row ∈ s.tables.idempotency.rows, ∀ kind : Kind,
    row.key.operation = kind.operation → ∃ a ∈ s.answers, a.kind = kind ∧ row.key = a.key ∧
      row.canonicalRequestHash = a.input.hash ∧ row.result = .message a.result
  owned : ∀ m ∈ s.tables.messages.rows, ∃ a ∈ s.answers, m.client = a.client ∧
    m.senderKind = a.kind.sender ∧ m.contentSha256 = JS.Sha256.hex a.input.text ∧
    a.result = ⟨m.messageId, m.key.sequenceNumber⟩

/-- The record that answers a request. -/
theorem Appends.recorded {options : AppendMessageOptions}
    (h : Appends t input options ids now result u) :
    ∃ row, u.idempotency.find? (input.key options) = some row ∧
      row.canonicalRequestHash = input.hash ∧ row.result = .message result := by
  cases h with
  | replayed hfound hhash hresult => exact ⟨_, hfound, hhash, hresult⟩
  | known hnone =>
    refine ⟨input.record options _ now, ?_, rfl, rfl⟩
    rw [Tables.record, Table.find?_insert]
    exact if_pos rfl
  | stored hopen hnone hclient hstores =>
    refine ⟨input.record options _ now, ?_, rfl, rfl⟩
    rw [find?_concat hstores.idempotency, hnone, Option.none_or]
    exact if_pos rfl

theorem Kept.handles (h : Kept s) (hh : Handles s.tables now request reply u) :
    Kept ⟨u, request.answers reply ++ s.answers⟩ where
  fits := by
    intro a ha
    rcases List.mem_append.mp ha with hnew | hold
    · exact (hh.answer hnew).1
    · exact h.fits a hold
  opened := by
    intro a ha
    rcases List.mem_append.mp ha with hnew | hold
    · exact hh.open_stays (hh.answer hnew).2.1
    · exact hh.open_stays (h.opened a hold)
  recorded := by
    intro a ha
    rcases List.mem_append.mp ha with hnew | hold
    · obtain ⟨-, -, ids, happend⟩ := hh.answer hnew
      exact happend.recorded
    · obtain ⟨row, hrow, hhash, hresult⟩ := h.recorded a hold
      exact ⟨row, hh.idempotency_stays hrow, hhash, hresult⟩
  answered := by
    intro row hrow kind hop
    rcases hh.idempotency_origin hrow hop with hold | ⟨a, ha, hsame⟩
    · obtain ⟨a, ha, hsame⟩ := h.answered row hold kind hop
      exact ⟨a, List.mem_append_right _ ha, hsame⟩
    · exact ⟨a, List.mem_append_left _ ha, hsame⟩
  owned := by
    intro m hm
    rcases hh.message_origin hm with ⟨m₀, hm₀, hsame⟩ | ⟨a, ha, howned⟩
    · obtain ⟨a, ha, hclient, hsender, hsha, hresult⟩ := h.owned m₀ hm₀
      refine ⟨a, List.mem_append_right _ ha, ?_⟩
      have hkept : m.unlinked.client = m₀.unlinked.client ∧
          m.unlinked.senderKind = m₀.unlinked.senderKind ∧
          m.unlinked.contentSha256 = m₀.unlinked.contentSha256 ∧
          m.unlinked.messageId = m₀.unlinked.messageId ∧ m.unlinked.key = m₀.unlinked.key := by
        rw [hsame]
        exact ⟨rfl, rfl, rfl, rfl, rfl⟩
      obtain ⟨hc, hk, hs, hi, hn⟩ := hkept
      refine ⟨hc.trans hclient, hk.trans hsender, hs.trans hsha, hresult.trans ?_⟩
      rw [show m.messageId = m₀.messageId from hi, show m.key = m₀.key from hn]
    · exact ⟨a, List.mem_append_left _ ha, howned⟩

theorem reachable_kept (h : runtime.Reachable IsInitial s) : Kept s :=
  answers_invariant
    ⟨fun _ ha => absurd ha List.not_mem_nil, fun _ ha => absurd ha List.not_mem_nil,
      fun _ ha => absurd ha List.not_mem_nil, fun _ hr => absurd hr List.not_mem_nil,
      fun _ hm => absurd hm List.not_mem_nil⟩
    (fun _ _ _ _ _ hs hh => hs.handles hh) h

/-! Requests that find what they are about. -/

section Found
variable {options : AppendMessageOptions} {conversation : ConversationRow}

theorem appendMessage_found (hopen : t.Open input conversation) {row : IdempotencyRow}
    (hfound : t.idempotency.find? (input.key options) = some row) :
    (appendMessage input options ids now).run t =
      (transaction do
        ensureMatchingRequest row input.hash
        parseMessageResult row.result).run t := by
  obtain ⟨hconversation, hstatus, hsubject⟩ := hopen
  have hthrow : (throwIf (conversation.subjectCustomerId ≠ input.context.subjectCustomerId)
      .conversationUnavailable : Work Unit).run t = .ok () t :=
    Transition.throwIf_ok.mpr ⟨not_not.mpr hsubject, rfl⟩
  unfold appendMessage
  rw [Transition.run_transaction, Transition.run_transaction,
    Transition.bind_of_ok (selectConversation_ok.mpr ⟨hconversation, rfl⟩), Option.filter_some,
    if_pos (by simp [hstatus]), Transition.bind_of_ok (Transition.required_ok.mpr ⟨rfl, rfl⟩),
    Transition.bind_of_ok hthrow,
    Transition.bind_of_ok (selectIdempotency_ok.mpr ⟨hfound, rfl⟩)]

theorem appendMessage_known (hopen : t.Open input conversation)
    (hnone : t.idempotency.find? (input.key options) = none)
    (hclient : t.clientMessage input.conversationId options.storedClientMessageId = some m) :
    (appendMessage input options ids now).run t =
      (transaction do
        throwIf (m.contentSha256 ≠ JS.Sha256.hex input.text) .idempotencyConflict
        insertIdempotency (input.record options ⟨m.messageId, m.key.sequenceNumber⟩ now)
        return ⟨m.messageId, m.key.sequenceNumber⟩).run t := by
  obtain ⟨hconversation, hstatus, hsubject⟩ := hopen
  have hthrow : (throwIf (conversation.subjectCustomerId ≠ input.context.subjectCustomerId)
      .conversationUnavailable : Work Unit).run t = .ok () t :=
    Transition.throwIf_ok.mpr ⟨not_not.mpr hsubject, rfl⟩
  unfold appendMessage
  rw [Transition.run_transaction, Transition.run_transaction,
    Transition.bind_of_ok (selectConversation_ok.mpr ⟨hconversation, rfl⟩), Option.filter_some,
    if_pos (by simp [hstatus]), Transition.bind_of_ok (Transition.required_ok.mpr ⟨rfl, rfl⟩),
    Transition.bind_of_ok hthrow,
    Transition.bind_of_ok (selectIdempotency_ok.mpr ⟨hnone, rfl⟩),
    Transition.bind_of_ok (selectClientMessage_ok.mpr ⟨hclient, rfl⟩)]

/-- A key that was used for another request is refused. -/
theorem appendMessage_mismatch (hopen : t.Open input conversation) {row : IdempotencyRow}
    (hfound : t.idempotency.find? (input.key options) = some row)
    (hhash : row.canonicalRequestHash ≠ input.hash) :
    (appendMessage input options ids now).run t = .error .idempotencyConflict t := by
  rw [appendMessage_found hopen hfound]
  apply Transition.run_transaction_error
  exact Transition.bind_of_error (Transition.throwIf_error.mpr ⟨hhash, rfl, rfl⟩)

theorem appendMessage_replay (hopen : t.Open input conversation) {row : IdempotencyRow}
    (hfound : t.idempotency.find? (input.key options) = some row)
    (hhash : row.canonicalRequestHash = input.hash) (hresult : row.result = .message result) :
    (appendMessage input options ids now).run t = .ok result t := by
  have hmatch : (ensureMatchingRequest row input.hash).run t = .ok () t :=
    ensureMatchingRequest_ok.mpr ⟨hhash, rfl⟩
  rw [appendMessage_found hopen hfound, Transition.transaction_ok, Transition.bind_of_ok hmatch]
  exact parseMessageResult_ok.mpr ⟨hresult, rfl⟩

/-- A client message id that was used for another text is refused. -/
theorem appendMessage_changed (hopen : t.Open input conversation)
    (hnone : t.idempotency.find? (input.key options) = none)
    (hclient : t.clientMessage input.conversationId options.storedClientMessageId = some m)
    (hsha : m.contentSha256 ≠ JS.Sha256.hex input.text) :
    (appendMessage input options ids now).run t = .error .idempotencyConflict t := by
  rw [appendMessage_known hopen hnone hclient]
  apply Transition.run_transaction_error
  exact Transition.bind_of_error (Transition.throwIf_error.mpr ⟨hsha, rfl, rfl⟩)

theorem appendMessage_again (hopen : t.Open input conversation)
    (hnone : t.idempotency.find? (input.key options) = none)
    (hclient : t.clientMessage input.conversationId options.storedClientMessageId = some m)
    (hsha : m.contentSha256 = JS.Sha256.hex input.text) :
    ∃ u, (appendMessage input options ids now).run t =
      .ok ⟨m.messageId, m.key.sequenceNumber⟩ u ∧ u.messages = t.messages := by
  have hthrow : (throwIf (m.contentSha256 ≠ JS.Sha256.hex input.text)
      .idempotencyConflict : Work Unit).run t = .ok () t :=
    Transition.throwIf_ok.mpr ⟨not_not.mpr hsha, rfl⟩
  have hinsert : (insertIdempotency (input.record options
      ⟨m.messageId, m.key.sequenceNumber⟩ now)).run t = .ok () (t.record _ hnone) :=
    insertIdempotency_ok.mpr ⟨hnone, rfl⟩
  refine ⟨t.record (input.record options ⟨m.messageId, m.key.sequenceNumber⟩ now) hnone, ?_, rfl⟩
  rw [appendMessage_known hopen hnone hclient, Transition.transaction_ok,
    Transition.bind_of_ok hthrow, Transition.bind_of_ok hinsert]
  exact Transition.pure_ok.mpr ⟨rfl, rfl⟩

end Found

/-! A message whose identifiers are new is stored. -/

section Fresh
variable {options : AppendMessageOptions} {conversation : ConversationRow}

/-- The identifiers are not taken. -/
structure Fresh (t : Tables) (ids : Drawn) : Prop where
  message : ∀ m ∈ t.messages.rows, m.messageId ≠ ids.messageId.text
  payload : t.payloads.find? ids.payloadId.text = none
  event : t.outbox.find? ids.eventId.text = none

/-- No message has the number that its conversation gives away next. -/
theorem Tables.Sound.next_free (hs : t.Sound) (hopen : t.Open input conversation) :
    ∀ m ∈ t.messages.rows, m.key ≠ ⟨uuid input.conversationId, conversation.nextSequenceNumber⟩ := by
  intro m hm heq
  obtain ⟨hmem, hid⟩ := (t.conversations.find?_eq_some _).mp hopen.1
  have hnumber : conversation.nextSequenceNumber ∈ t.sequenceNumbers conversation.conversationId := by
    unfold Tables.sequenceNumbers
    refine List.mem_map.mpr ⟨m.key, List.mem_filter.mpr ⟨List.mem_map_of_mem hm, ?_⟩, by rw [heq]⟩
    simp [heq, hid]
  rw [(hs.numbered conversation hmem).2, List.mem_range'_1] at hnumber
  have hpositive := (hs.numbered conversation hmem).1
  omega

theorem appendMessage_stored (hs : t.Sound) (hopen : t.Open input conversation)
    (hfresh : Fresh t ids) (hsize : byteLength input.text ≤ 32 * 1024)
    (hnone : t.idempotency.find? (input.key options) = none)
    (hclient : t.clientMessage input.conversationId options.storedClientMessageId = none) :
    ∃ u, (appendMessage input options ids now).run t =
      .ok ⟨ids.messageId.text, conversation.nextSequenceNumber⟩ u := by
  have hnext := hs.next_free hopen
  have hthrow : (throwIf (conversation.subjectCustomerId ≠ input.context.subjectCustomerId)
      .conversationUnavailable : Work Unit).run t = .ok () t :=
    Transition.throwIf_ok.mpr ⟨not_not.mpr hopen.2.2, rfl⟩
  let a := t.changeConversation (uuid input.conversationId) (fun row => row.advance now) fun _ => rfl
  have hupdate : (updateConversation input.conversationId fun row => row.advance now).run t =
      .ok () a := rfl
  have hpayload : a.payloads.find? (input.payload ids now).payloadId = none := hfresh.payload
  let b := a.addPayload (input.payload ids now) hpayload
  have hinsertPayload : (insertPayload (input.payload ids now)).run a = .ok () b := by
    simp only [insertPayload, EStateM.run]
    rw [dif_pos hpayload]
  have hadmits : b.Admits (input.row options ids conversation.nextSequenceNumber now) := by
    refine ⟨?_, hfresh.message, ?_, ?_, ?_, hsize⟩
    · rw [Table.find?_eq_none]
      exact hnext
    · intro m hm heq
      have hfound : t.clientMessage input.conversationId options.storedClientMessageId = some m :=
        Tables.clientMessage_eq_some.mpr ⟨hm, heq⟩
      rw [hclient] at hfound
      cases hfound
    · have hfound : b.conversations.find? (uuid input.conversationId) =
          some (conversation.advance now) := by
        refine (t.conversations.find?_modify _ _ (fun row => row.advance now) fun row =>
          row.advance_conversationId now).trans ?_
        rw [if_pos rfl, hopen.1, Option.map_some]
      exact Option.isSome_of_eq_some hfound
    · have hfound : b.payloads.find? ids.payloadId.text = some (input.payload ids now) :=
        (a.payloads.find?_insert _ (input.payload ids now) hpayload).trans (if_pos rfl)
      exact Option.isSome_of_eq_some hfound
  let c := b.addMessage _ hadmits
  have hinsertMessage : (insertMessage (input.row options ids conversation.nextSequenceNumber
      now)).run b = .ok () c := by
    simp only [insertMessage, EStateM.run]
    rw [dif_pos hadmits]
  have hevent : c.outbox.find? (input.event options ids conversation.nextSequenceNumber now).eventId =
      none ∧ ∀ r ∈ c.outbox.rows,
        r.aggregate ≠ (input.event options ids conversation.nextSequenceNumber now).aggregate := by
    refine ⟨hfresh.event, ?_⟩
    intro r hr heq
    have hmem : ((⟨r.aggregateId, r.aggregateSequence⟩ : MessageKey), r.messageId) ∈ t.events :=
      List.mem_map_of_mem hr
    rw [hs.events] at hmem
    obtain ⟨m, hm, hkey⟩ := List.mem_map.mp hmem
    have hid := congrArg (fun x => x.2.1) heq
    have hsequence := congrArg (fun x => x.2.2) heq
    refine hnext m hm ((congrArg Prod.fst hkey).trans ?_)
    exact congrArg₂ MessageKey.mk hid hsequence
  let d := c.addOutbox _ hevent.1 hevent.2
  have hinsertOutbox : (insertOutbox (input.event options ids conversation.nextSequenceNumber
      now)).run c = .ok () d := by
    simp only [insertOutbox, EStateM.run]
    rw [dif_pos hevent]
  let e := d.record (input.record options
    ⟨ids.messageId.text, conversation.nextSequenceNumber⟩ now) hnone
  have hinsertIdempotency : (insertIdempotency (input.record options
      ⟨ids.messageId.text, conversation.nextSequenceNumber⟩ now)).run d = .ok () e :=
    insertIdempotency_ok.mpr ⟨hnone, rfl⟩
  refine ⟨e, ?_⟩
  unfold appendMessage
  rw [Transition.transaction_ok,
    Transition.bind_of_ok (selectConversation_ok.mpr ⟨hopen.1, rfl⟩), Option.filter_some,
    if_pos (by simp [hopen.2.1]), Transition.bind_of_ok (Transition.required_ok.mpr ⟨rfl, rfl⟩),
    Transition.bind_of_ok hthrow,
    Transition.bind_of_ok (selectIdempotency_ok.mpr ⟨hnone, rfl⟩),
    Transition.bind_of_ok (selectClientMessage_ok.mpr ⟨hclient, rfl⟩)]
  exact Transition.bind_of_ok hupdate |>.trans <| Transition.bind_of_ok hinsertPayload |>.trans <|
    Transition.bind_of_ok hinsertMessage |>.trans <| Transition.bind_of_ok hinsertOutbox |>.trans <|
    Transition.bind_of_ok hinsertIdempotency

end Fresh

/-! One message for each client message id. -/

/-- The text whose hash identifies a request under its key. -/
def MessageInput.canonical (input : MessageInput) : String :=
  (JS.Json.obj [("clientMessageId", .str input.clientMessageId), ("text", .str input.text)]).stringify

theorem MessageInput.hash_eq (input : MessageInput) :
    input.hash = JS.Sha256.hex input.canonical := rfl

/-- SHA-256 tells apart what these requests hash. -/
def CollisionFree (inputs : List MessageInput) : Prop :=
  ∀ a ∈ inputs, ∀ b ∈ inputs,
    (JS.Sha256.hex a.canonical = JS.Sha256.hex b.canonical → a.canonical = b.canonical) ∧
    (JS.Sha256.hex a.text = JS.Sha256.hex b.text → a.text = b.text)

theorem CollisionFree.mono {inputs others : List MessageInput} (h : CollisionFree inputs)
    (hsub : ∀ a ∈ others, a ∈ inputs) : CollisionFree others :=
  fun a ha b hb => h a (hsub a ha) b (hsub b hb)

theorem CollisionFree.eq_of_hash {inputs : List MessageInput} (h : CollisionFree inputs)
    {a b : MessageInput} (ha : a ∈ inputs) (hb : b ∈ inputs) (hhash : a.hash = b.hash) :
    a.clientMessageId = b.clientMessageId ∧ a.text = b.text :=
  JS.stringify_pair_inj ((h a ha b hb).1 hhash)

theorem hash_congr {input other : MessageInput}
    (hid : input.clientMessageId = other.clientMessageId) (htext : input.text = other.text) :
    input.hash = other.hash := by
  rw [MessageInput.hash, MessageInput.hash, hid, htext]

def State.inputs (s : State) : List MessageInput := s.answers.map Answer.input

/-- The message of an answer. -/
def Answer.Has (a : Answer) (t : Tables) : Prop :=
  ∃ m ∈ t.messages.rows, m.client = a.client ∧ m.contentSha256 = JS.Sha256.hex a.input.text ∧
    a.result = ⟨m.messageId, m.key.sequenceNumber⟩

theorem Answer.Has.stays {a : Answer} (h : a.Has t) (hextends : t.Extends u) : a.Has u := by
  obtain ⟨m, hm, hclient, hsha, hresult⟩ := h
  obtain ⟨m', hm', hclient', hid, hkey, hsha', -⟩ := extends_client hextends hm
  exact ⟨m', hm', hclient'.trans hclient, hsha'.trans hsha, by rw [hid, hkey]; exact hresult⟩

theorem Answer.client_congr {a b : Answer} (hkind : a.kind = b.kind)
    (hconversation : uuid a.input.conversationId = uuid b.input.conversationId)
    (hid : a.input.clientMessageId = b.input.clientMessageId) : a.client = b.client := by
  unfold Answer.client
  rw [hconversation, hkind, stored_congr hid]

/-- An answer is a replay of the one under its record, or has its message. -/
theorem Appends.has {a : Answer} (h : Appends t a.input (a.input.options a.kind) ids now a.result u) :
    (∃ row, t.idempotency.find? a.key = some row ∧ row.canonicalRequestHash = a.input.hash ∧
      row.result = .message a.result) ∨ a.Has u := by
  obtain ⟨kind, input, result⟩ := a
  cases h with
  | replayed hfound hhash hresult => exact Or.inl ⟨_, hfound, hhash, hresult⟩
  | known hnone hclient hsha =>
    obtain ⟨hm, hc⟩ := Tables.clientMessage_eq_some.mp hclient
    exact Or.inr ⟨_, hm, hc, hsha, rfl⟩
  | stored hopen hnone hclient hstores =>
    refine Or.inr ⟨input.row (input.options kind) ids _ now, ?_, rfl, rfl, rfl⟩
    rw [hstores.messages]
    exact List.mem_append_right _ (List.mem_singleton_self _)

/-- Every answer has its message, the one that a replay repeats too. -/
theorem Kept.has (hk : Kept s) (hh : Handles s.tables now request reply u)
    (hfree : CollisionFree (State.inputs ⟨u, request.answers reply ++ s.answers⟩))
    (h : ∀ a ∈ s.answers, a.Has s.tables) :
    ∀ a ∈ request.answers reply ++ s.answers, a.Has u := by
  intro a ha
  rcases List.mem_append.mp ha with hnew | hold
  · obtain ⟨-, -, ids, happend⟩ := hh.answer hnew
    rcases happend.has with ⟨row, hfound, hhash, hresult⟩ | hhas
    · obtain ⟨hrow, hkey⟩ := (Table.find?_eq_some _ _).mp hfound
      obtain ⟨b, hb, hkind, hkey', hhash', hresult'⟩ := hk.answered row hrow a.kind
        (by rw [hkey]; exact operation_of_options a.input a.kind)
      have hconversation : b.input.conversationId = a.input.conversationId :=
        congrArg IdempotencyKey.resourceScope (hkey'.symm.trans hkey)
      obtain ⟨hid, htext⟩ := hfree.eq_of_hash
        (List.mem_map_of_mem (List.mem_append_right _ hb) : b.input ∈ _)
        (List.mem_map_of_mem ha : a.input ∈ _) (hhash'.symm.trans hhash)
      obtain ⟨m, hm, hclient, hsha, hmine⟩ := (h b hb).stays hh.extends
      refine ⟨m, hm, ?_, ?_, ?_⟩
      · rw [hclient]
        exact Answer.client_congr hkind (congrArg uuid hconversation) hid
      · rw [hsha, htext]
      · rw [← hmine]
        exact Result.message.inj (hresult.symm.trans hresult')
    · exact hhas
  · exact (h a hold).stays hh.extends

theorem reachable_has (h : runtime.Reachable IsInitial s) (hfree : CollisionFree s.inputs) :
    ∀ a ∈ s.answers, a.Has s.tables := by
  have hall : Kept s ∧ (CollisionFree s.inputs → ∀ a ∈ s.answers, a.Has s.tables) := by
    apply answers_invariant (I := fun s => Kept s ∧
      (CollisionFree s.inputs → ∀ a ∈ s.answers, a.Has s.tables)) _ _ h
    · exact ⟨reachable_kept (Machine.reachable_init rfl), fun _ a ha => absurd ha List.not_mem_nil⟩
    · rintro s now request reply u ⟨hk, hs⟩ hh
      refine ⟨hk.handles hh, ?_⟩
      intro hfree
      apply hk.has hh hfree
      apply hs
      exact hfree.mono fun a ha => by
        obtain ⟨b, hb, rfl⟩ := List.mem_map.mp ha
        exact List.mem_map_of_mem (List.mem_append_right _ hb)
  exact hall.2 hfree

/-! What a request is answered. -/

/-- How a request that conflicts with another one is refused: for its size first. -/
def MessageInput.refusal (input : MessageInput) : Failure :=
  if byteLength input.text > 32 * 1024 then .messageTooLarge else .idempotencyConflict

theorem exec_appendText (input : MessageInput) (kind : Kind) (ids : Drawn) (now : ℤ) :
    (Request.append kind input ids).exec now =
      (do return Reply.message (← appendText input (input.options kind) ids now)) := by
  cases kind <;> rfl

theorem exec_append (kind : Kind) (hsize : byteLength input.text ≤ 32 * 1024) :
    (Request.append kind input ids).exec now =
      (do return Reply.message (← appendMessage input (input.options kind) ids now)) := by
  rw [exec_appendText, appendText, if_neg (not_lt.mpr hsize)]

theorem exec_tooLarge (kind : Kind) (hsize : byteLength input.text > 32 * 1024) :
    ((Request.append kind input ids).exec now).run t = .error .messageTooLarge t := by
  rw [exec_appendText, appendText, if_pos hsize]
  rfl

theorem exec_refused (kind : Kind)
    (h : (appendMessage input (input.options kind) ids now).run t = .error .idempotencyConflict t) :
    ((Request.append kind input ids).exec now).run t = .error input.refusal t := by
  unfold MessageInput.refusal
  split_ifs with hsize
  · exact exec_tooLarge kind hsize
  · rw [exec_append kind (not_lt.mp hsize)]
    exact Transition.bind_pure_error.mpr h

/-- The conversation of an answer is open for its customer. -/
theorem Kept.answer_open (hk : Kept s) {a : Answer} (ha : a ∈ s.answers)
    (hconversation : uuid input.conversationId = uuid a.input.conversationId)
    (hsubject : input.context.subjectCustomerId = a.input.context.subjectCustomerId) :
    ∃ conversation, s.tables.Open input conversation := by
  obtain ⟨conversation, hfound, hstatus, howner⟩ := hk.opened a ha
  exact ⟨conversation, hconversation ▸ hfound, hstatus, howner.trans hsubject.symm⟩

/-- The record under a key is that of an answer to the same request, or of another one. -/
theorem Kept.found (hk : Kept s) {row : IdempotencyRow}
    (hfound : s.tables.idempotency.find? (input.key (input.options kind)) = some row) :
    ∃ b ∈ s.answers, b.kind = kind ∧ b.input.conversationId = input.conversationId ∧
      b.input.idempotencyKey = input.idempotencyKey ∧ row.canonicalRequestHash = b.input.hash ∧
      row.result = .message b.result := by
  obtain ⟨hrow, hkey⟩ := (Table.find?_eq_some _ _).mp hfound
  obtain ⟨b, hb, hkind, hkey', hhash, hresult⟩ := hk.answered row hrow kind
    (by rw [hkey]; exact operation_of_options input kind)
  have hsame := hkey'.symm.trans hkey
  exact ⟨b, hb, hkind, congrArg IdempotencyKey.resourceScope hsame,
    congrArg IdempotencyKey.idempotencyKey hsame, hhash, hresult⟩

/-- Answers of one kind to one client message id of a conversation are one answer. -/
theorem answers_agree (hhas : ∀ a ∈ s.answers, a.Has s.tables) (hfree : CollisionFree s.inputs)
    {a b : Answer} (ha : a ∈ s.answers) (hb : b ∈ s.answers) (hclient : a.client = b.client) :
    a.input.text = b.input.text ∧ a.result = b.result := by
  obtain ⟨m, hm, hc, hsha, hresult⟩ := hhas a ha
  obtain ⟨m', hm', hc', hsha', hresult'⟩ := hhas b hb
  have hsame := Tables.eq_of_client hm hm' (hc.trans (hclient.trans hc'.symm))
  subst hsame
  refine ⟨?_, hresult.trans hresult'.symm⟩
  exact (hfree _ (List.mem_map_of_mem ha) _ (List.mem_map_of_mem hb)).2 (hsha.symm.trans hsha')

section Next
variable {a : Answer} (h : runtime.Reachable IsInitial s) (ha : a ∈ s.answers)
  (hfree : CollisionFree (input :: s.inputs))
  (hconversation : uuid input.conversationId = uuid a.input.conversationId)
  (hsubject : input.context.subjectCustomerId = a.input.context.subjectCustomerId)
include h ha hfree hconversation hsubject

theorem answered_alike (hid : input.clientMessageId = a.input.clientMessageId)
    (htext : input.text = a.input.text)
    (hkey : ∀ b ∈ s.answers, b.kind = a.kind → b.input.conversationId = input.conversationId →
      b.input.idempotencyKey = input.idempotencyKey →
        b.input.clientMessageId = input.clientMessageId ∧ b.input.text = input.text) :
    ∃ u, ((Request.append a.kind input ids).exec now).run s.tables = .ok (.message a.result) u ∧
      u.messages = s.tables.messages := by
  have hk := reachable_kept h
  have hinputs := hfree.mono fun b hb => List.mem_cons_of_mem input hb
  have hhas := reachable_has h hinputs
  obtain ⟨conversation, hopen⟩ := hk.answer_open ha hconversation hsubject
  rw [exec_append a.kind (htext ▸ hk.fits a ha)]
  simp only [Transition.bind_ok, Transition.pure_ok]
  cases hfound : s.tables.idempotency.find? (input.key (input.options a.kind)) with
  | some row =>
    obtain ⟨b, hb, hkind, hconv, hkeyb, hhash, hresult⟩ := hk.found hfound
    obtain ⟨hidb, htextb⟩ := hkey b hb hkind hconv hkeyb
    have hclient : b.client = a.client := Answer.client_congr hkind
      ((congrArg uuid hconv).trans hconversation) (hidb.trans hid)
    obtain ⟨-, hsame⟩ := answers_agree hhas hinputs hb ha hclient
    refine ⟨s.tables, ⟨a.result, s.tables, ?_, rfl, rfl⟩, rfl⟩
    exact appendMessage_replay hopen hfound (hhash.trans (hash_congr hidb htextb))
      (hresult.trans (congrArg Result.message hsame))
  | none =>
    obtain ⟨m, hm, hc, hsha, hresult⟩ := hhas a ha
    have hclient : s.tables.clientMessage input.conversationId
        (input.options a.kind).storedClientMessageId = some m := by
      rw [Tables.clientMessage_eq_some, hc, Answer.client, hconversation, stored_congr hid]
      exact ⟨hm, rfl⟩
    obtain ⟨u, hrun, hmessages⟩ : ∃ u, (appendMessage input (input.options a.kind) ids now).run
        s.tables = .ok ⟨m.messageId, m.key.sequenceNumber⟩ u ∧ u.messages = s.tables.messages :=
      appendMessage_again hopen hfound hclient (by rw [hsha, htext])
    exact ⟨u, ⟨_, _, hrun, congrArg Reply.message hresult.symm, rfl⟩, hmessages⟩

/-- A key that an answer was given under is refused for another request. -/
theorem key_conflict (hscope : input.conversationId = a.input.conversationId)
    (hkey : input.idempotencyKey = a.input.idempotencyKey)
    (hother : input.clientMessageId ≠ a.input.clientMessageId ∨ input.text ≠ a.input.text) :
    ((Request.append a.kind input ids).exec now).run s.tables = .error input.refusal s.tables := by
  have hk := reachable_kept h
  obtain ⟨conversation, hopen⟩ := hk.answer_open ha hconversation hsubject
  obtain ⟨row, hrow, hhash, -⟩ := hk.recorded a ha
  have hsame : a.key = input.key (input.options a.kind) := by
    unfold Answer.key MessageInput.key
    rw [operation_of_options, operation_of_options, hscope, hkey]
  rw [hsame] at hrow
  apply exec_refused
  apply appendMessage_mismatch hopen hrow
  intro heq
  obtain ⟨hid, htext⟩ := hfree.eq_of_hash List.mem_cons_self
    (List.mem_cons_of_mem _ (List.mem_map_of_mem ha)) (heq.symm.trans hhash)
  rcases hother with hne | hne
  · exact hne hid
  · exact hne htext

/-- A client message id that an answer was given for is refused with another text. -/
theorem client_conflict (hid : input.clientMessageId = a.input.clientMessageId)
    (htext : input.text ≠ a.input.text) :
    ((Request.append a.kind input ids).exec now).run s.tables = .error input.refusal s.tables := by
  have hk := reachable_kept h
  have hinputs := hfree.mono fun b hb => List.mem_cons_of_mem input hb
  have hhas := reachable_has h hinputs
  obtain ⟨conversation, hopen⟩ := hk.answer_open ha hconversation hsubject
  apply exec_refused
  cases hfound : s.tables.idempotency.find? (input.key (input.options a.kind)) with
  | some row =>
    apply appendMessage_mismatch hopen hfound
    intro heq
    -- The record of the same request would be that of an answer with another text.
    obtain ⟨b, hb, hkind, hconv, -, hhash, -⟩ := hk.found hfound
    obtain ⟨hidb, htextb⟩ := hfree.eq_of_hash List.mem_cons_self
      (List.mem_cons_of_mem _ (List.mem_map_of_mem hb)) (heq.symm.trans hhash)
    have hclient : b.client = a.client := Answer.client_congr hkind
      ((congrArg uuid hconv).trans hconversation) (hidb.symm.trans hid)
    exact htext (htextb.trans (answers_agree hhas hinputs hb ha hclient).1)
  | none =>
    obtain ⟨m, hm, hc, hsha, -⟩ := hhas a ha
    have hclient : s.tables.clientMessage input.conversationId
        (input.options a.kind).storedClientMessageId = some m := by
      rw [Tables.clientMessage_eq_some, hc, Answer.client, hconversation, stored_congr hid]
      exact ⟨hm, rfl⟩
    apply appendMessage_changed hopen hfound hclient
    intro heq
    exact htext ((hfree _ List.mem_cons_self _
      (List.mem_cons_of_mem _ (List.mem_map_of_mem ha))).2 (heq.symm.trans hsha))

end Next

/-- Whatever has been answered in a reachable state: one client message id has one message and one
answer; different ones never share a message; and a further request gets the same answer, or is
refused where it reuses a key for another request or a client message id for another text. -/
theorem appended_once (h : runtime.Reachable IsInitial s) (hfree : CollisionFree s.inputs) :
    (∀ a ∈ s.answers, ∀ b ∈ s.answers, a.kind = b.kind →
      uuid a.input.conversationId = uuid b.input.conversationId →
      (a.input.clientMessageId = b.input.clientMessageId →
        a.input.text = b.input.text ∧ a.result = b.result) ∧
      (a.input.clientMessageId ≠ b.input.clientMessageId →
        a.result.messageId ≠ b.result.messageId ∧
          a.result.sequenceNumber ≠ b.result.sequenceNumber)) ∧
    (∀ a ∈ s.answers, ∃ m, (s.tables.messages.rows.filter fun m => m.client = a.client) = [m] ∧
      a.result = ⟨m.messageId, m.key.sequenceNumber⟩) ∧
    (∀ a ∈ s.answers, ∀ input ids now, CollisionFree (input :: s.inputs) →
      uuid input.conversationId = uuid a.input.conversationId →
      input.context.subjectCustomerId = a.input.context.subjectCustomerId →
      (input.clientMessageId = a.input.clientMessageId → input.text = a.input.text →
        (∀ b ∈ s.answers, b.kind = a.kind → b.input.conversationId = input.conversationId →
          b.input.idempotencyKey = input.idempotencyKey →
            b.input.clientMessageId = input.clientMessageId ∧ b.input.text = input.text) →
        ∃ u, ((Request.append a.kind input ids).exec now).run s.tables =
            .ok (.message a.result) u ∧ u.messages = s.tables.messages) ∧
      (input.clientMessageId = a.input.clientMessageId → input.text ≠ a.input.text →
        ((Request.append a.kind input ids).exec now).run s.tables =
          .error input.refusal s.tables) ∧
      (input.conversationId = a.input.conversationId →
        input.idempotencyKey = a.input.idempotencyKey →
        (input.clientMessageId ≠ a.input.clientMessageId ∨ input.text ≠ a.input.text) →
        ((Request.append a.kind input ids).exec now).run s.tables =
          .error input.refusal s.tables)) := by
  have hhas := reachable_has h hfree
  refine ⟨?_, ?_, ?_⟩
  · intro a ha b hb hkind hconversation
    constructor
    · intro hid
      exact answers_agree hhas hfree ha hb (Answer.client_congr hkind hconversation hid)
    · intro hid
      obtain ⟨m, hm, hc, -, hresult⟩ := hhas a ha
      obtain ⟨m', hm', hc', -, hresult'⟩ := hhas b hb
      have hne : m ≠ m' := by
        rintro rfl
        have hstored := congrArg Prod.snd (hc.symm.trans hc')
        unfold Answer.client at hstored
        rw [hkind] at hstored
        exact hid (stored_inj hstored)
      rw [hresult, hresult']
      constructor
      · intro heq
        exact hne (Table.eq_of_unique s.tables.oneId hm hm' heq)
      · intro heq
        have hconv : m.key.conversationId = m'.key.conversationId :=
          (congrArg Prod.fst hc).trans (hconversation.trans (congrArg Prod.fst hc').symm)
        have hkey : m.key = m'.key := by
          rw [show m.key = ⟨m.key.conversationId, m.key.sequenceNumber⟩ from rfl, hconv]
          exact congrArg (MessageKey.mk m'.key.conversationId) heq
        exact hne (Table.eq_of_unique s.tables.messages.unique hm hm' hkey)
  · intro a ha
    obtain ⟨m, hm, hc, -, hresult⟩ := hhas a ha
    refine ⟨m, ?_, hresult⟩
    apply Table.filter_eq_singleton (List.Nodup.of_map _ s.tables.messages.unique) hm
    · exact decide_eq_true hc
    · intro other hother heq
      exact Tables.eq_of_client hother hm ((of_decide_eq_true heq).trans hc.symm)
  · intro a ha input ids now hfree' hconversation hsubject
    refine ⟨?_, ?_, ?_⟩
    · intro hid htext hkey
      exact answered_alike h ha hfree' hconversation hsubject hid htext hkey
    · intro hid htext
      exact client_conflict h ha hfree' hconversation hsubject hid htext
    · intro hscope hkey hother
      exact key_conflict h ha hfree' hconversation hsubject hscope hkey hother

/-- The same message under another key. -/
def Turn.copy : MessageInput := { Turn.message with idempotencyKey := "message-key-2" }

theorem appended_once_copy : ∃ s u, runtime.Reachable IsInitial s ∧
    s.answers = [⟨.customer, Turn.message, ⟨Turn.firstIds.messageId.text, 1⟩⟩] ∧
    ((Request.append .customer Turn.copy Turn.secondIds).exec 5).run s.tables =
      .ok (.message ⟨Turn.firstIds.messageId.text, 1⟩) u ∧ u.messages = s.tables.messages := by
  obtain ⟨s, hrun, hanswers⟩ : ∃ s, runtime.run .initial Turn.accepted = some s ∧
      s.answers = [⟨.customer, Turn.message, ⟨Turn.firstIds.messageId.text, 1⟩⟩] :=
    Machine.exists_run (by decide +kernel)
  have hreach : runtime.Reachable IsInitial s := ⟨_, _, rfl, hrun⟩
  have hsame : ∀ a ∈ Turn.copy :: s.inputs,
      a.canonical = Turn.message.canonical ∧ a.text = Turn.message.text := by
    intro a ha
    rw [State.inputs, hanswers] at ha
    rcases List.mem_cons.mp ha with rfl | ha
    · exact ⟨rfl, rfl⟩
    · cases List.mem_singleton.mp ha
      exact ⟨rfl, rfl⟩
  have hfree : CollisionFree (Turn.copy :: s.inputs) := fun a ha b hb =>
    ⟨fun _ => (hsame a ha).1.trans (hsame b hb).1.symm,
      fun _ => (hsame a ha).2.trans (hsame b hb).2.symm⟩
  have hmem : (⟨.customer, Turn.message, ⟨Turn.firstIds.messageId.text, 1⟩⟩ : Answer) ∈ s.answers :=
    hanswers ▸ List.mem_singleton_self _
  have honce := (appended_once hreach (hfree.mono fun a ha => List.mem_cons_of_mem _ ha)).2.2
    _ hmem Turn.copy Turn.secondIds 5 hfree rfl rfl
  obtain ⟨u, hu, hmessages⟩ := honce.1 rfl rfl (by
    intro b hb _ _ hkey
    rw [hanswers, List.mem_singleton] at hb
    subst hb
    exact ⟨rfl, rfl⟩)
  exact ⟨s, u, hreach, hanswers, hu, hmessages⟩

/-- The reply to a request, if it is answered. -/
def Request.reply? (request : Request) (now : ℤ) (t : Tables) : Option Reply :=
  match (request.exec now).run t with
  | .ok reply _ => some reply
  | .error _ _ => none

/-- Another message under the same key, with the conversation in capital letters. -/
def Turn.respelled : MessageInput :=
  { Turn.message with
    conversationId := "0198C0DE-0000-7000-8000-000000000001"
    clientMessageId := "message-2"
    text := "And my order T_1002 too." }

/-- Doubled texts of two bytes for each character. -/
def Turn.wide : ℕ → String
  | 0 => "é"
  | n + 1 => wide n ++ wide n

theorem Turn.byteLength_wide (n : ℕ) : byteLength (wide n) = 2 ^ (n + 1) := by
  induction n with
  | zero => rfl
  | succ n ih =>
    have hdouble : byteLength (wide (n + 1)) = byteLength (wide n) + byteLength (wide n) :=
      String.utf8ByteSize_append
    rw [hdouble, ih]
    omega

def Turn.oversized : MessageInput := { Turn.message with text := Turn.wide 15 }

theorem Turn.oversized_large : byteLength oversized.text > 32 * 1024 := by
  have hbytes : byteLength oversized.text = 65536 := byteLength_wide 15
  rw [hbytes]
  decide

/-- A key is taken for another one when the conversation is spelled in other letters, and a text
that is too large is refused for that. -/
theorem key_reuse_unnoticed :
    (∃ s, runtime.Reachable IsInitial s ∧
      s.answers = [⟨.customer, Turn.message, ⟨Turn.firstIds.messageId.text, 1⟩⟩] ∧
      uuid Turn.respelled.conversationId = uuid Turn.message.conversationId ∧
      (Request.append .customer Turn.respelled Turn.secondIds).reply? 5 s.tables =
        some (.message ⟨Turn.secondIds.messageId.text, 2⟩)) ∧
    (∃ s, runtime.Reachable IsInitial s ∧
      s.answers = [⟨.customer, Turn.message, ⟨Turn.firstIds.messageId.text, 1⟩⟩] ∧
      ((Request.append .customer Turn.oversized Turn.secondIds).exec 5).run s.tables =
        .error .messageTooLarge s.tables) ∧
    ¬ ∀ s, runtime.Reachable IsInitial s → ∀ a ∈ s.answers, ∀ input ids now,
      uuid input.conversationId = uuid a.input.conversationId →
      input.context.subjectCustomerId = a.input.context.subjectCustomerId →
      input.idempotencyKey = a.input.idempotencyKey →
      (input.clientMessageId ≠ a.input.clientMessageId ∨ input.text ≠ a.input.text) →
      ((Request.append a.kind input ids).exec now).run s.tables =
        .error .idempotencyConflict s.tables := by
  obtain ⟨s, hrun, hanswers, hreply⟩ : ∃ s, runtime.run .initial Turn.accepted = some s ∧
      (s.answers = [⟨.customer, Turn.message, ⟨Turn.firstIds.messageId.text, 1⟩⟩] ∧
        (Request.append .customer Turn.respelled Turn.secondIds).reply? 5 s.tables =
          some (.message ⟨Turn.secondIds.messageId.text, 2⟩)) :=
    Machine.exists_run (by decide +kernel)
  have hreach : runtime.Reachable IsInitial s := ⟨_, _, rfl, hrun⟩
  have hspelled : uuid Turn.respelled.conversationId = uuid Turn.message.conversationId := by
    decide +kernel
  refine ⟨⟨s, hreach, hanswers, hspelled, hreply⟩,
    ⟨s, hreach, hanswers, exec_tooLarge .customer Turn.oversized_large⟩, ?_⟩
  intro hall
  have hmem : (⟨.customer, Turn.message, ⟨Turn.firstIds.messageId.text, 1⟩⟩ : Answer) ∈ s.answers :=
    hanswers ▸ List.mem_singleton_self _
  have hrefused := hall s hreach _ hmem Turn.respelled Turn.secondIds 5 hspelled rfl rfl
    (Or.inl (by decide))
  unfold Request.reply? at hreply
  rw [hrefused] at hreply
  cases hreply

end CSO.Conversation
