import CSO.Conversation.Repository

/-! What the operations of the Conversation Runtime make of its tables. -/
namespace CSO.Conversation
open Transition (Table transaction throwIf required)
open Work

variable {t u : Tables}

/-! Statements. -/

@[simp] theorem selectConversation_ok {conversationId : String} {r : Option ConversationRow} :
    (selectConversation conversationId).run t = .ok r u ↔
      t.conversations.find? (uuid conversationId) = r ∧ t = u := Transition.read_ok

@[simp] theorem selectIdempotency_ok {key : IdempotencyKey} {r : Option IdempotencyRow} :
    (selectIdempotency key).run t = .ok r u ↔ t.idempotency.find? key = r ∧ t = u :=
  Transition.read_ok

/-- The message that the conversation has under a client message id. -/
def Tables.clientMessage (t : Tables) (conversationId clientMessageId : String) :
    Option MessageRow :=
  t.messages.rows.find? fun row => row.client = (uuid conversationId, clientMessageId)

@[simp] theorem selectClientMessage_ok {conversationId clientMessageId : String}
    {r : Option MessageRow} :
    (selectClientMessage conversationId clientMessageId).run t = .ok r u ↔
      t.clientMessage conversationId clientMessageId = r ∧ t = u := Transition.read_ok

@[simp] theorem updateConversation_ok {conversationId : String}
    {change : ConversationRow → ConversationRow}
    {hid : ∀ row, (change row).conversationId = row.conversationId} {i : Unit} :
    (updateConversation conversationId change hid).run t = .ok i u ↔
      t.changeConversation (uuid conversationId) change hid = u := by
  simp [updateConversation, EStateM.run]

theorem insertConversation_ok {row : ConversationRow} {i : Unit}
    (h : (insertConversation row).run t = .ok i u) : ∃ hfree, u = t.addConversation row hfree := by
  simp only [insertConversation, EStateM.run] at h
  split_ifs at h with hfree
  cases h
  exact ⟨hfree, rfl⟩

theorem insertPayload_ok {row : PayloadRow} {i : Unit} (h : (insertPayload row).run t = .ok i u) :
    ∃ hfree, u = t.addPayload row hfree := by
  simp only [insertPayload, EStateM.run] at h
  split_ifs at h with hfree
  cases h
  exact ⟨hfree, rfl⟩

theorem insertMessage_ok {row : MessageRow} {i : Unit} (h : (insertMessage row).run t = .ok i u) :
    ∃ hadmits, u = t.addMessage row hadmits := by
  simp only [insertMessage, EStateM.run] at h
  split_ifs at h with hadmits
  cases h
  exact ⟨hadmits, rfl⟩

theorem insertOutbox_ok {row : OutboxRow} {i : Unit} (h : (insertOutbox row).run t = .ok i u) :
    ∃ hfree hone, u = t.addOutbox row hfree hone := by
  simp only [insertOutbox, EStateM.run] at h
  split_ifs at h with hfree
  cases h
  exact ⟨hfree.1, hfree.2, rfl⟩

@[simp] theorem updateRefundWorkflow_ok {key : MessageKey} {workflowId : String} {i : Unit} :
    (updateRefundWorkflow key workflowId).run t = .ok i u ↔ t.linkMessage key workflowId = u := by
  simp [updateRefundWorkflow, EStateM.run]

/-- The tables with a further record of a request. -/
def Tables.record (t : Tables) (row : IdempotencyRow) (h : t.idempotency.find? row.key = none) :
    Tables := { t with idempotency := t.idempotency.insert row h }

@[simp] theorem insertIdempotency_ok {row : IdempotencyRow} {i : Unit} :
    (insertIdempotency row).run t = .ok i u ↔ ∃ hfree, t.record row hfree = u := by
  simp only [insertIdempotency, EStateM.run]
  by_cases hfree : t.idempotency.find? row.key = none <;> simp [hfree, Tables.record]

theorem reserveIdempotency_ok {row : IdempotencyRow} {b : Bool}
    (h : (reserveIdempotency row).run t = .ok b u) :
    (b = true ∧ ∃ hfree, t.record row hfree = u) ∨
      (b = false ∧ u = t ∧ t.idempotency.find? row.key ≠ none) := by
  simp only [reserveIdempotency, EStateM.run] at h
  split_ifs at h with hfree
  · cases h
    exact Or.inl ⟨rfl, hfree, rfl⟩
  · cases h
    exact Or.inr ⟨rfl, rfl, hfree⟩

@[simp] theorem ensureMatchingRequest_ok {existing : IdempotencyRow} {hash : String} {i : Unit} :
    (ensureMatchingRequest existing hash).run t = .ok i u ↔
      existing.canonicalRequestHash = hash ∧ t = u := by
  simp [ensureMatchingRequest]

@[simp] theorem parseMessageResult_ok {stored : Result} {result : MessageResult} :
    (parseMessageResult stored).run t = .ok result u ↔ stored = .message result ∧ t = u := by
  cases stored <;> simp [parseMessageResult]

/-! Messages. -/

/-- The conversation that a request may append to. -/
def Tables.Open (t : Tables) (input : MessageInput) (conversation : ConversationRow) : Prop :=
  t.conversations.find? (uuid input.conversationId) = some conversation ∧
    conversation.status = .opened ∧
    conversation.subjectCustomerId = input.context.subjectCustomerId

/-- The conversation after it has given a number away. -/
def ConversationRow.advance (row : ConversationRow) (now : ℤ) : ConversationRow :=
  { row with
    nextSequenceNumber := row.nextSequenceNumber + 1
    recordVersion := row.recordVersion + 1
    updatedAt := now }

@[simp] theorem ConversationRow.advance_conversationId (row : ConversationRow) (now : ℤ) :
    (row.advance now).conversationId = row.conversationId := rfl

/-- The rows that a new message adds. -/
structure Stores (t u : Tables) (input : MessageInput) (options : AppendMessageOptions)
    (ids : Drawn) (now : ℤ) (conversation : ConversationRow) : Prop where
  conversations : u.conversations.rows = t.conversations.rows.map fun row =>
    if row.conversationId = uuid input.conversationId then row.advance now else row
  payloads : u.payloads.rows = t.payloads.rows ++ [input.payload ids now]
  messages : u.messages.rows =
    t.messages.rows ++ [input.row options ids conversation.nextSequenceNumber now]
  idempotency : u.idempotency.rows = t.idempotency.rows ++
    [input.record options ⟨ids.messageId.text, conversation.nextSequenceNumber⟩ now]
  outbox : u.outbox.rows =
    t.outbox.rows ++ [input.event options ids conversation.nextSequenceNumber now]

/-- How a message is appended: as a replay of its request, as a message that is known, or anew. -/
inductive Appends (t : Tables) (input : MessageInput) (options : AppendMessageOptions)
    (ids : Drawn) (now : ℤ) : MessageResult → Tables → Prop
  | replayed {existing : IdempotencyRow} {result : MessageResult}
      (h : t.idempotency.find? (input.key options) = some existing)
      (hhash : existing.canonicalRequestHash = input.hash)
      (hresult : existing.result = .message result) : Appends t input options ids now result t
  | known {existing : MessageRow}
      (h : t.idempotency.find? (input.record options
        ⟨existing.messageId, existing.key.sequenceNumber⟩ now).key = none)
      (hclient : t.clientMessage input.conversationId options.storedClientMessageId = some existing)
      (hhash : existing.contentSha256 = JS.Sha256.hex input.text) :
      Appends t input options ids now ⟨existing.messageId, existing.key.sequenceNumber⟩
        (t.record (input.record options ⟨existing.messageId, existing.key.sequenceNumber⟩ now) h)
  | stored {u : Tables} {conversation : ConversationRow} (hopen : t.Open input conversation)
      (h : t.idempotency.find? (input.key options) = none)
      (hclient : t.clientMessage input.conversationId options.storedClientMessageId = none)
      (hstores : Stores t u input options ids now conversation) :
      Appends t input options ids now ⟨ids.messageId.text, conversation.nextSequenceNumber⟩ u

variable {input : MessageInput} {options : AppendMessageOptions} {ids : Drawn} {now : ℤ}
  {result : MessageResult}

theorem appendMessage_ok (h : (appendMessage input options ids now).run t = .ok result u) :
    (∃ conversation, t.Open input conversation) ∧ Appends t input options ids now result u := by
  simp only [appendMessage, Transition.transaction_ok, Transition.bind_ok, selectConversation_ok,
    Transition.required_ok, Transition.throwIf_ok, selectIdempotency_ok, Option.filter_eq_some_iff,
    decide_eq_true_eq, not_not] at h
  obtain ⟨_, _, ⟨rfl, rfl⟩, conversation, _, ⟨⟨hfound, hstatus⟩, rfl⟩, _, _, ⟨hsubject, rfl⟩, found,
    _, ⟨hfind, rfl⟩, h⟩ := h
  have hopen : t.Open input conversation := ⟨hfound, hstatus, hsubject⟩
  refine ⟨⟨conversation, hopen⟩, ?_⟩
  cases found with
  | some existing =>
    simp only [Transition.bind_ok, ensureMatchingRequest_ok, parseMessageResult_ok] at h
    obtain ⟨_, _, ⟨hhash, rfl⟩, hresult, rfl⟩ := h
    exact .replayed hfind hhash hresult
  | none =>
    simp only [Transition.bind_ok, selectClientMessage_ok] at h
    obtain ⟨client, _, ⟨hclient, rfl⟩, h⟩ := h
    cases client with
    | some existing =>
      simp only [Transition.bind_ok, Transition.throwIf_ok, insertIdempotency_ok,
        Transition.pure_ok, not_not] at h
      obtain ⟨_, _, ⟨hhash, rfl⟩, _, _, ⟨hfree, rfl⟩, rfl, rfl⟩ := h
      exact .known hfree hclient hhash
    | none =>
      simp only [Transition.bind_ok, updateConversation_ok, insertIdempotency_ok,
        Transition.pure_ok] at h
      obtain ⟨_, a, rfl, _, b, hb, _, c, hc, _, d, hd, _, e, ⟨hfree, rfl⟩, rfl, rfl⟩ := h
      obtain ⟨hp, rfl⟩ := insertPayload_ok hb
      obtain ⟨hm, rfl⟩ := insertMessage_ok hc
      obtain ⟨ho, hone, rfl⟩ := insertOutbox_ok hd
      exact .stored hopen hfind hclient ⟨rfl, rfl, rfl, rfl, rfl⟩

/-! Conversations and workflow links. -/

@[simp] theorem parseConversationResult_ok {stored : Result} {conversationId : String} :
    (parseConversationResult stored).run t = .ok conversationId u ↔
      stored = .conversation conversationId ∧ t = u := by
  cases stored <;> simp [parseConversationResult]

@[simp] theorem parseRefundWorkflowLinkResult_ok {stored : Result} {workflowId : String} :
    (parseRefundWorkflowLinkResult stored).run t = .ok workflowId u ↔
      stored = .refundWorkflow workflowId ∧ t = u := by
  cases stored <;> simp [parseRefundWorkflowLinkResult]

/-- A conversation is the one its request has created before, or begins. -/
theorem createConversation_ok {input : CreateConversationInput} {id : Id} {answer : String}
    (h : (createConversation input id now).run t = .ok answer u) :
    u = t ∨ ∃ row hrecord hfree, row.key.operation = .create ∧
      u = (t.record row hrecord).addConversation (input.row id now) hfree := by
  simp only [createConversation, Transition.transaction_ok, Transition.bind_ok] at h
  obtain ⟨inserted, v, hreserve, h⟩ := h
  rcases reserveIdempotency_ok hreserve with ⟨rfl, hfree, rfl⟩ | ⟨rfl, rfl, -⟩
  · simp only [if_true, Transition.bind_ok, Transition.pure_ok] at h
    obtain ⟨_, w, hinsert, -, rfl⟩ := h
    obtain ⟨hnew, rfl⟩ := insertConversation_ok hinsert
    exact Or.inr ⟨_, hfree, hnew, rfl, rfl⟩
  · simp only [Bool.false_eq_true, if_false, Transition.bind_ok, selectIdempotency_ok,
      Transition.required_ok, ensureMatchingRequest_ok, parseConversationResult_ok] at h
    obtain ⟨_, _, ⟨-, rfl⟩, _, _, ⟨-, rfl⟩, _, _, ⟨-, rfl⟩, -, rfl⟩ := h
    exact Or.inl rfl

/-- The assistant message that a link is about. -/
def Tables.assistantMessage (t : Tables) (conversationId messageId : String) : Option MessageRow :=
  t.messages.rows.find? fun row =>
    row.key.conversationId = uuid conversationId ∧ row.messageId = uuid messageId ∧
      row.senderKind = .assistant ∧ row.status = .committed

@[simp] theorem selectAssistantMessage_ok {conversationId messageId : String}
    {r : Option MessageRow} :
    (selectAssistantMessage conversationId messageId).run t = .ok r u ↔
      t.assistantMessage conversationId messageId = r ∧ t = u := Transition.read_ok

/-- A workflow is linked to a message without one, or the message has it already. -/
inductive Links (t : Tables) (input : LinkRefundWorkflowInput) :
    LinkStatus × String → Tables → Prop
  | replayed (workflowId : String) : Links t input (.duplicate, workflowId) t
  | kept {message : MessageRow} {row : IdempotencyRow}
      (hm : t.assistantMessage input.conversationId input.messageId = some message)
      (hlinked : message.refundWorkflowId = some input.workflowId)
      (hrow : row.key.operation = .linkRefundWorkflow) (h : t.idempotency.find? row.key = none) :
      Links t input (.duplicate, input.workflowId) (t.record row h)
  | linked {message : MessageRow} {row : IdempotencyRow}
      (hm : t.assistantMessage input.conversationId input.messageId = some message)
      (hfree : message.refundWorkflowId = none) (hrow : row.key.operation = .linkRefundWorkflow)
      (h : (t.linkMessage message.key input.workflowId).idempotency.find? row.key = none) :
      Links t input (.linked, input.workflowId)
        ((t.linkMessage message.key input.workflowId).record row h)

theorem linkRefundWorkflow_ok {input : LinkRefundWorkflowInput} {answer : LinkStatus × String}
    (h : (linkRefundWorkflow input now).run t = .ok answer u) : Links t input answer u := by
  simp only [linkRefundWorkflow, Transition.transaction_ok, Transition.bind_ok,
    selectIdempotency_ok] at h
  obtain ⟨found, _, ⟨-, rfl⟩, h⟩ := h
  cases found with
  | some existing =>
    simp only [Transition.bind_ok, ensureMatchingRequest_ok, parseRefundWorkflowLinkResult_ok,
      Transition.pure_ok] at h
    obtain ⟨_, _, ⟨-, rfl⟩, workflowId, _, ⟨-, rfl⟩, rfl, rfl⟩ := h
    exact .replayed workflowId
  | none =>
    simp only [Transition.bind_ok, selectAssistantMessage_ok, Transition.required_ok,
      selectConversation_ok, Transition.throwIf_ok] at h
    obtain ⟨_, _, ⟨rfl, rfl⟩, message, _, ⟨hm, rfl⟩, _, _, ⟨-, rfl⟩, conversation, _, ⟨-, rfl⟩, _, _,
      ⟨-, rfl⟩, _, _, ⟨hmatch, rfl⟩, h⟩ := h
    cases hlinked : message.refundWorkflowId with
    | none =>
      simp only [hlinked, if_true, Transition.bind_ok, updateRefundWorkflow_ok,
        insertIdempotency_ok, Transition.pure_ok] at h
      obtain ⟨_, _, rfl, _, _, ⟨hfree, rfl⟩, rfl, rfl⟩ := h
      exact .linked hm hlinked rfl hfree
    | some workflowId =>
      simp only [hlinked, reduceCtorEq, if_false, Transition.bind_ok, insertIdempotency_ok,
        Transition.pure_ok] at h
      have hsame : workflowId = input.workflowId := by
        by_contra hne
        exact hmatch ⟨by simp [hlinked], by simp [hlinked, hne]⟩
      subst hsame
      obtain ⟨_, _, ⟨hrecord, rfl⟩, rfl, rfl⟩ := h
      exact .kept hm hlinked rfl hrecord

end CSO.Conversation
