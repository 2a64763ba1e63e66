import CSO.Conversation.Store

/-! The service of the Conversation Runtime over its repository. Every operation is one transaction
and reads the clock once; the identifiers it may need are drawn before. -/
namespace CSO.Conversation
open Transition (transaction throwIf required)
open Work

/-- What an assertion says about the request. -/
structure AccessContext where
  subjectCustomerId : String
  routingEpoch : ℕ
  traceId : String
  deriving DecidableEq, Repr

/-- The identifiers that `createId` returns. -/
structure Drawn where
  messageId : Id
  payloadId : Id
  eventId : Id
  deriving DecidableEq, Repr

structure CreateConversationInput where
  context : AccessContext
  idempotencyKey : String
  deriving DecidableEq, Repr

structure MessageInput where
  context : AccessContext
  conversationId : String
  idempotencyKey : String
  clientMessageId : String
  text : String
  deriving DecidableEq, Repr

structure LinkRefundWorkflowInput where
  context : AccessContext
  conversationId : String
  messageId : String
  workflowId : String
  idempotencyKey : String
  deriving DecidableEq, Repr

/-- The fields of a canonical value stand in the order of their names. -/
def hashCanonicalRequest (fields : List (String × String)) : String :=
  JS.Sha256.hex (JS.Json.obj (fields.map fun field => (field.1, .str field.2))).stringify

def CreateConversationInput.hash (input : CreateConversationInput) : String :=
  hashCanonicalRequest [("channel", "web"), ("subjectCustomerId", input.context.subjectCustomerId)]

/-- What identifies the request of a message under its key. -/
def messageHash (clientMessageId text : String) : String :=
  hashCanonicalRequest [("clientMessageId", clientMessageId), ("text", text)]

def LinkRefundWorkflowInput.hash (input : LinkRefundWorkflowInput) : String :=
  hashCanonicalRequest [("messageId", input.messageId), ("workflowId", input.workflowId)]

def ensureMatchingRequest (existing : IdempotencyRow) (canonicalRequestHash : String) : Work Unit :=
  throwIf (existing.canonicalRequestHash ≠ canonicalRequestHash) .idempotencyConflict

def parseConversationResult : Result → Work String
  | .conversation conversationId => pure conversationId
  | _ => throw (.error "Stored conversation idempotency result is invalid")

def parseMessageResult : Result → Work MessageResult
  | .message result => pure result
  | _ => throw (.error "Stored message idempotency result is invalid")

def parseRefundWorkflowLinkResult : Result → Work String
  | .refundWorkflow workflowId => pure workflowId
  | _ => throw (.error "Stored refund workflow link result is invalid")

/-- The row of a conversation that begins. -/
def CreateConversationInput.row (input : CreateConversationInput) (conversationId : Id)
    (now : ℤ) : ConversationRow where
  conversationId := conversationId.text
  subjectCustomerId := input.context.subjectCustomerId
  status := .opened
  controlMode := .ai
  nextSequenceNumber := 1
  recordVersion := 1
  createdAt := now
  updatedAt := now

def createConversation (input : CreateConversationInput) (conversationId : Id) (now : ℤ) :
    Work String :=
  transaction do
    let key := ⟨.create, input.context.subjectCustomerId, input.idempotencyKey⟩
    if ← reserveIdempotency ⟨key, input.hash, .conversation conversationId.text, now⟩ then
      insertConversation (input.row conversationId now)
      return conversationId.text
    else
      let existing ← required (← selectIdempotency key)
        (.error "Idempotency record disappeared during transaction")
      ensureMatchingRequest existing input.hash
      parseConversationResult existing.result

/-- What tells the two kinds of appended messages apart. -/
structure AppendMessageOptions where
  operation : Operation
  eventType : EventType
  senderKind : SenderKind
  storedClientMessageId : String

def MessageInput.key (input : MessageInput) (options : AppendMessageOptions) : IdempotencyKey :=
  ⟨options.operation, input.conversationId, input.idempotencyKey⟩

def MessageInput.hash (input : MessageInput) : String := messageHash input.clientMessageId input.text

/-- `Buffer.byteLength(text, 'utf8')`. -/
def byteLength (text : String) : ℕ := text.utf8ByteSize

def MessageInput.row (input : MessageInput) (options : AppendMessageOptions) (ids : Drawn)
    (sequenceNumber : ℕ) (now : ℤ) : MessageRow where
  key := ⟨uuid input.conversationId, sequenceNumber⟩
  messageId := ids.messageId.text
  payloadId := ids.payloadId.text
  clientMessageId := options.storedClientMessageId
  senderKind := options.senderKind
  contentLength := byteLength input.text
  contentSha256 := JS.Sha256.hex input.text
  status := .committed
  createdAt := now
  refundWorkflowId := none

def MessageInput.payload (input : MessageInput) (ids : Drawn) (now : ℤ) : PayloadRow where
  payloadId := ids.payloadId.text
  text := input.text
  createdAt := now

def MessageInput.event (input : MessageInput) (options : AppendMessageOptions) (ids : Drawn)
    (sequenceNumber : ℕ) (now : ℤ) : OutboxRow where
  eventId := ids.eventId.text
  eventType := options.eventType
  aggregateId := uuid input.conversationId
  aggregateSequence := sequenceNumber
  routingEpoch := input.context.routingEpoch
  traceId := input.context.traceId
  messageId := ids.messageId.text
  occurredAt := now

/-- The row under a new key. -/
def MessageInput.record (input : MessageInput) (options : AppendMessageOptions)
    (result : MessageResult) (now : ℤ) : IdempotencyRow :=
  ⟨input.key options, input.hash, .message result, now⟩

def appendMessage (input : MessageInput) (options : AppendMessageOptions) (ids : Drawn) (now : ℤ) :
    Work MessageResult :=
  transaction do
    let conversation ← required
      ((← selectConversation input.conversationId).filter fun row => row.status = .opened)
      .conversationUnavailable
    throwIf (conversation.subjectCustomerId ≠ input.context.subjectCustomerId)
      .conversationUnavailable
    match ← selectIdempotency (input.key options) with
    | some existing =>
      ensureMatchingRequest existing input.hash
      parseMessageResult existing.result
    | none =>
      match ← selectClientMessage input.conversationId options.storedClientMessageId with
      | some existing =>
        throwIf (existing.contentSha256 ≠ JS.Sha256.hex input.text) .idempotencyConflict
        let result := ⟨existing.messageId, existing.key.sequenceNumber⟩
        insertIdempotency (input.record options result now)
        return result
      | none =>
        let sequenceNumber := conversation.nextSequenceNumber
        updateConversation input.conversationId fun row =>
          { row with
            nextSequenceNumber := row.nextSequenceNumber + 1
            recordVersion := row.recordVersion + 1
            updatedAt := now }
        insertPayload (input.payload ids now)
        insertMessage (input.row options ids sequenceNumber now)
        insertOutbox (input.event options ids sequenceNumber now)
        let result := ⟨ids.messageId.text, sequenceNumber⟩
        insertIdempotency (input.record options result now)
        return result

/-- What the service refuses before the transaction. -/
def appendText (input : MessageInput) (options : AppendMessageOptions) (ids : Drawn) (now : ℤ) :
    Work MessageResult :=
  if byteLength input.text > 32 * 1024 then throw .messageTooLarge
  else appendMessage input options ids now

def MessageInput.customer (input : MessageInput) : AppendMessageOptions where
  operation := .acceptMessage
  eventType := .messageReceived
  senderKind := .endCustomer
  storedClientMessageId := input.clientMessageId

def MessageInput.assistant (input : MessageInput) : AppendMessageOptions where
  operation := .appendAssistantMessage
  eventType := .assistantMessageCommitted
  senderKind := .assistant
  storedClientMessageId := "assistant:" ++ input.clientMessageId

def acceptMessage (input : MessageInput) (ids : Drawn) (now : ℤ) : Work MessageResult :=
  appendText input input.customer ids now

def appendAssistantMessage (input : MessageInput) (ids : Drawn) (now : ℤ) : Work MessageResult :=
  appendText input input.assistant ids now

structure TranscriptMessage where
  messageId : String
  sequenceNumber : ℕ
  senderKind : SenderKind
  text : String
  createdAt : ℤ
  refundWorkflowId : Option String
  deriving DecidableEq, Repr

structure Transcript where
  conversationId : String
  status : ConversationStatus
  controlMode : ControlMode
  messages : List TranscriptMessage
  deriving DecidableEq, Repr

def MessageRow.transcript (row : MessageRow) (payload : PayloadRow) : TranscriptMessage where
  messageId := row.messageId
  sequenceNumber := row.key.sequenceNumber
  senderKind := row.senderKind
  text := payload.text
  createdAt := row.createdAt
  refundWorkflowId := row.refundWorkflowId

def readConversation (context : AccessContext) (conversationId : String) : Work Transcript :=
  transaction do
    let stored ← required ((← selectConversation conversationId).filter fun row =>
      row.subjectCustomerId = context.subjectCustomerId) .conversationUnavailable
    let messages ← selectMessages conversationId
    return {
      conversationId
      status := stored.status
      controlMode := stored.controlMode
      messages := messages.map fun message => message.1.transcript message.2 }

inductive LinkStatus
  | linked
  | duplicate
  deriving DecidableEq, Repr

def linkRefundWorkflow (input : LinkRefundWorkflowInput) (now : ℤ) : Work (LinkStatus × String) :=
  transaction do
    let key := ⟨.linkRefundWorkflow, input.conversationId, input.idempotencyKey⟩
    match ← selectIdempotency key with
    | some existing =>
      ensureMatchingRequest existing input.hash
      return (.duplicate, ← parseRefundWorkflowLinkResult existing.result)
    | none =>
      let message ← required (← selectAssistantMessage input.conversationId input.messageId)
        .conversationUnavailable
      let conversation ← required (← selectConversation input.conversationId)
        .conversationUnavailable
      throwIf (conversation.subjectCustomerId ≠ input.context.subjectCustomerId)
        .conversationUnavailable
      throwIf (message.refundWorkflowId ≠ none ∧ message.refundWorkflowId ≠ some input.workflowId)
        .idempotencyConflict
      if message.refundWorkflowId = none then updateRefundWorkflow message.key input.workflowId
      insertIdempotency ⟨key, input.hash, .refundWorkflow input.workflowId, now⟩
      return (if message.refundWorkflowId = none then .linked else .duplicate, input.workflowId)

end CSO.Conversation
