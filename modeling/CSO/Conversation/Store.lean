import CSO.JS.Text
import CSO.Transition.Table
import CSO.Transition.Transaction
import Mathlib.Data.List.Sort

/-! The tables of the Conversation Runtime for its tenant and environment, with their constraints,
and the statements that its repository runs on them. -/
namespace CSO.Conversation
open Transition (Table)

inductive ConversationStatus
  | opened
  | closed
  deriving DecidableEq, Repr

inductive ControlMode
  | ai
  | queued
  | human
  deriving DecidableEq, Repr

inductive SenderKind
  | endCustomer
  | assistant
  | workforce
  deriving DecidableEq, Repr

inductive MessageStatus
  | committed
  | discarded
  deriving DecidableEq, Repr

/-- A text as a value of type `uuid`. -/
def uuid (text : String) : String := String.ofList (text.toList.map Char.toLower)

/-- What `createId` returns: a text that a `uuid` column keeps as it is. -/
structure Id where
  text : String
  canonical : uuid text = text
  deriving DecidableEq, Repr

/-- A row of `conversation.conversations`. -/
structure ConversationRow where
  conversationId : String
  subjectCustomerId : String
  status : ConversationStatus
  controlMode : ControlMode
  nextSequenceNumber : ℕ
  recordVersion : ℕ
  createdAt : ℤ
  updatedAt : ℤ
  deriving DecidableEq, Repr

/-- The primary key of `conversation.messages`. -/
structure MessageKey where
  conversationId : String
  sequenceNumber : ℕ
  deriving DecidableEq, Repr

/-- A row of `conversation.message_payloads`, with the text that its ciphertext protects. -/
structure PayloadRow where
  payloadId : String
  text : String
  createdAt : ℤ
  deriving DecidableEq, Repr

/-- A row of `conversation.messages`. -/
structure MessageRow where
  key : MessageKey
  messageId : String
  payloadId : String
  clientMessageId : String
  senderKind : SenderKind
  contentLength : ℕ
  contentSha256 : String
  status : MessageStatus
  createdAt : ℤ
  refundWorkflowId : Option String
  deriving DecidableEq, Repr

/-- The columns of the unique constraint on client message ids. -/
def MessageRow.client (row : MessageRow) : String × String :=
  (row.key.conversationId, row.clientMessageId)

inductive Operation
  | create
  | acceptMessage
  | appendAssistantMessage
  | linkRefundWorkflow
  deriving DecidableEq, Repr

/-- The primary key of `events.idempotency_keys`. -/
structure IdempotencyKey where
  operation : Operation
  resourceScope : String
  idempotencyKey : String
  deriving DecidableEq, Repr

structure MessageResult where
  messageId : String
  sequenceNumber : ℕ
  deriving DecidableEq, Repr

/-- What `result_json` keeps. -/
inductive Result
  | conversation (conversationId : String)
  | message (result : MessageResult)
  | refundWorkflow (workflowId : String)
  deriving DecidableEq, Repr

/-- A row of `events.idempotency_keys`. -/
structure IdempotencyRow where
  key : IdempotencyKey
  canonicalRequestHash : String
  result : Result
  createdAt : ℤ
  deriving DecidableEq, Repr

inductive EventType
  | messageReceived
  | assistantMessageCommitted
  deriving DecidableEq, Repr

/-- A row of `events.outbox`. -/
structure OutboxRow where
  eventId : String
  eventType : EventType
  aggregateId : String
  aggregateSequence : ℕ
  routingEpoch : ℕ
  traceId : String
  messageId : String
  occurredAt : ℤ
  deriving DecidableEq, Repr

/-- The columns of the unique constraint of `events.outbox`. -/
def OutboxRow.aggregate (row : OutboxRow) : EventType × String × ℕ :=
  (row.eventType, row.aggregateId, row.aggregateSequence)

structure Tables where
  conversations : Table ConversationRow String ConversationRow.conversationId
  payloads : Table PayloadRow String PayloadRow.payloadId
  messages : Table MessageRow MessageKey MessageRow.key
  idempotency : Table IdempotencyRow IdempotencyKey IdempotencyRow.key
  outbox : Table OutboxRow String OutboxRow.eventId
  oneId : (messages.rows.map MessageRow.messageId).Nodup
  oneClientId : (messages.rows.map MessageRow.client).Nodup
  oneEvent : (outbox.rows.map OutboxRow.aggregate).Nodup
  messageReferences : ∀ row ∈ messages.rows,
    (conversations.find? row.key.conversationId).isSome
  payloadReferences : ∀ row ∈ messages.rows, (payloads.find? row.payloadId).isSome

inductive Failure
  | conversationUnavailable
  | idempotencyConflict
  | messageTooLarge
  | constraint
  | error (message : String)
  deriving DecidableEq, Repr

namespace Tables

def empty : Tables where
  conversations := .empty
  payloads := .empty
  messages := .empty
  idempotency := .empty
  outbox := .empty
  oneId := List.nodup_nil
  oneClientId := List.nodup_nil
  oneEvent := List.nodup_nil
  messageReferences := by simp [Table.empty]
  payloadReferences := by simp [Table.empty]

variable (t : Tables)

def addConversation (row : ConversationRow)
    (h : t.conversations.find? row.conversationId = none) : Tables :=
  { t with
    conversations := t.conversations.insert row h
    messageReferences := by
      intro message hmessage
      rw [Table.find?_insert]
      split_ifs
      · rfl
      · exact t.messageReferences message hmessage }

def changeConversation (conversationId : String) (change : ConversationRow → ConversationRow)
    (hid : ∀ row, (change row).conversationId = row.conversationId) : Tables :=
  { t with
    conversations := t.conversations.modify conversationId change hid
    messageReferences := by
      intro message hmessage
      have h := t.messageReferences message hmessage
      rw [Table.find?_modify]
      split_ifs with hsame
      · rw [Option.isSome_map, ← hsame]
        exact h
      · exact h }

def addPayload (row : PayloadRow) (h : t.payloads.find? row.payloadId = none) : Tables :=
  { t with
    payloads := t.payloads.insert row h
    payloadReferences := by
      intro message hmessage
      rw [Table.find?_insert]
      split_ifs
      · rfl
      · exact t.payloadReferences message hmessage }

/-- What the constraints ask of a new message. -/
structure Admits (row : MessageRow) : Prop where
  key : t.messages.find? row.key = none
  id : ∀ r ∈ t.messages.rows, r.messageId ≠ row.messageId
  client : ∀ r ∈ t.messages.rows, r.client ≠ row.client
  reference : (t.conversations.find? row.key.conversationId).isSome = true
  payload : (t.payloads.find? row.payloadId).isSome = true
  length : row.contentLength ≤ 32768

instance (row : MessageRow) : Decidable (t.Admits row) :=
  decidable_of_iff (t.messages.find? row.key = none ∧
    (∀ r ∈ t.messages.rows, r.messageId ≠ row.messageId) ∧
    (∀ r ∈ t.messages.rows, r.client ≠ row.client) ∧
    (t.conversations.find? row.key.conversationId).isSome = true ∧
    (t.payloads.find? row.payloadId).isSome = true ∧ row.contentLength ≤ 32768) <| by
    constructor
    · rintro ⟨hkey, hid, hclient, hreference, hpayload, hlength⟩
      exact ⟨hkey, hid, hclient, hreference, hpayload, hlength⟩
    · intro h
      exact ⟨h.key, h.id, h.client, h.reference, h.payload, h.length⟩

def addMessage (row : MessageRow) (h : t.Admits row) : Tables :=
  { t with
    messages := t.messages.insert row h.key
    oneId := Table.nodup_concat t.oneId h.id
    oneClientId := Table.nodup_concat t.oneClientId h.client
    messageReferences := by
      intro message hmessage
      rcases (Table.mem_insert _).mp hmessage with hold | rfl
      · exact t.messageReferences message hold
      · exact h.reference
    payloadReferences := by
      intro message hmessage
      rcases (Table.mem_insert _).mp hmessage with hold | rfl
      · exact t.payloadReferences message hold
      · exact h.payload }

/-- The reference of a message to its refund workflow. -/
def linkMessage (key : MessageKey) (workflowId : String) : Tables :=
  { t with
    messages := t.messages.modify key
      (fun row => { row with refundWorkflowId := some workflowId }) fun _ => rfl
    oneId := by
      have hid : ∀ row : MessageRow,
          MessageRow.messageId { row with refundWorkflowId := some workflowId } = row.messageId :=
        fun _ => rfl
      rw [Table.modify, Table.map_update hid]
      exact t.oneId
    oneClientId := by
      have hid : ∀ row : MessageRow,
          MessageRow.client { row with refundWorkflowId := some workflowId } = row.client :=
        fun _ => rfl
      rw [Table.modify, Table.map_update hid]
      exact t.oneClientId
    messageReferences := by
      intro message hmessage
      obtain ⟨row, hrow, rfl⟩ := (Table.mem_modify _ _).mp hmessage
      have h := t.messageReferences row hrow
      split_ifs
      · exact h
      · exact h
    payloadReferences := by
      intro message hmessage
      obtain ⟨row, hrow, rfl⟩ := (Table.mem_modify _ _).mp hmessage
      have h := t.payloadReferences row hrow
      split_ifs
      · exact h
      · exact h }

def addOutbox (row : OutboxRow) (h : t.outbox.find? row.eventId = none)
    (ha : ∀ r ∈ t.outbox.rows, r.aggregate ≠ row.aggregate) : Tables :=
  { t with
    outbox := t.outbox.insert row h
    oneEvent := Table.nodup_concat t.oneEvent ha }

end Tables

abbrev Work := EStateM Failure Tables

/-! Statements. -/
namespace Work

def selectConversation (conversationId : String) : Work (Option ConversationRow) := do
  return (← get).conversations.find? (uuid conversationId)

def insertConversation (row : ConversationRow) : Work Unit := fun t =>
  if h : t.conversations.find? row.conversationId = none then .ok () (t.addConversation row h)
  else .error .constraint t

def updateConversation (conversationId : String) (change : ConversationRow → ConversationRow)
    (hid : ∀ row, (change row).conversationId = row.conversationId := by intro; rfl) : Work Unit :=
  fun t => .ok () (t.changeConversation (uuid conversationId) change hid)

def selectClientMessage (conversationId clientMessageId : String) : Work (Option MessageRow) := do
  return (← get).messages.rows.find? fun row => row.client = (uuid conversationId, clientMessageId)

def insertPayload (row : PayloadRow) : Work Unit := fun t =>
  if h : t.payloads.find? row.payloadId = none then .ok () (t.addPayload row h)
  else .error .constraint t

def insertMessage (row : MessageRow) : Work Unit := fun t =>
  if h : t.Admits row then .ok () (t.addMessage row h) else .error .constraint t

/-- The committed messages of a conversation in their order, each with its payload. -/
def selectMessages (conversationId : String) : Work (List (MessageRow × PayloadRow)) := do
  let t ← get
  let rows := t.messages.rows.filter fun row =>
    row.key.conversationId = uuid conversationId ∧ row.status = .committed ∧
      row.senderKind ≠ .workforce
  let joined := rows.filterMap fun row => (t.payloads.find? row.payloadId).map (row, ·)
  return joined.insertionSort fun a b => a.1.key.sequenceNumber ≤ b.1.key.sequenceNumber

def selectAssistantMessage (conversationId messageId : String) : Work (Option MessageRow) := do
  return (← get).messages.rows.find? fun row =>
    row.key.conversationId = uuid conversationId ∧ row.messageId = uuid messageId ∧
      row.senderKind = .assistant ∧ row.status = .committed

def updateRefundWorkflow (key : MessageKey) (workflowId : String) : Work Unit := fun t =>
  .ok () (t.linkMessage key workflowId)

def insertOutbox (row : OutboxRow) : Work Unit := fun t =>
  if h : t.outbox.find? row.eventId = none ∧ ∀ r ∈ t.outbox.rows, r.aggregate ≠ row.aggregate then
    .ok () (t.addOutbox row h.1 h.2)
  else .error .constraint t

def selectIdempotency (key : IdempotencyKey) : Work (Option IdempotencyRow) := do
  return (← get).idempotency.find? key

def insertIdempotency (row : IdempotencyRow) : Work Unit := fun t =>
  if h : t.idempotency.find? row.key = none then
    .ok () { t with idempotency := t.idempotency.insert row h }
  else .error .constraint t

/-- `ON CONFLICT DO NOTHING RETURNING idempotency_key`. -/
def reserveIdempotency (row : IdempotencyRow) : Work Bool := fun t =>
  if h : t.idempotency.find? row.key = none then
    .ok true { t with idempotency := t.idempotency.insert row h }
  else .ok false t

end Work
end CSO.Conversation
