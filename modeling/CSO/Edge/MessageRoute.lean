import CSO.Conversation.Senders
import CSO.Edge.ConversationContext
import CSO.JS.Written
import CSO.RefundPolicy.Catalog
import CSO.Workers.Activities

/-! The route of a customer's message: what the edge does between its calls of the other services. -/
namespace CSO.Edge
open Conversation (AccessContext Failure LinkRefundWorkflowInput MessageInput MessageResult Reply
  Transcript)
open JS (JsonTree Value literal)
open Workers (RefundIntent RefundProposal WorkflowJourneyAccess)

/-! What the edge reads of an answer of the agent runtime. -/

structure AgentRuntimeResponse where
  statusCode : ℕ
  body : Value

/-- A text that is trimmed before its length is checked. -/
def readTrimmed (max : ℕ) (value : Value) : Option String :=
  (value.string?.map JS.trim).filter fun text => 1 ≤ JS.length text ∧ JS.length text ≤ max

/-- The message of `customerAnswerAgentResponseSchema`. -/
def customerAnswer (body : Value) : Option String := do
  let fields ← body.fields?
  JsonTree.required fields "status" (JS.Form.readMember [("awaiting_order_reference", ()),
    ("awaiting_refund_details", ()), ("refund_proposal_ready", ())])
  let answer ← JsonTree.required fields "customer_answer" JsonTree.fields?
  JsonTree.required answer "message" (readTrimmed 2000)

inductive AgentRuntimeFailure
  | intentExtractionUnavailable
  | orderLookupUnavailable
  deriving DecidableEq

/-- `agentRuntimeFailureResponseSchema`. -/
def agentRuntimeFailure (body : Value) : Option AgentRuntimeFailure := do
  let fields ← body.fields?
  let status ← JsonTree.required fields "status" JsonTree.string?
  if status = "intent_extraction_unavailable" then
    JsonTree.required fields "error_code" (literal "intent_extraction_unavailable")
    return .intentExtractionUnavailable
  else if status = "order_lookup_unavailable" then
    let _ ← JsonTree.required fields "error_code" (readTrimmed 160)
    return .orderLookupUnavailable
  else none

def readRefundIntent (value : Value) : Option RefundIntent := do
  let fields ← JS.Form.readStrict ["orderId", "reasonCode", "scope", "itemIds", "requestedAmount"]
    value
  let orderId ← JsonTree.required fields "orderId" RefundPolicy.nonEmptyString?
  let reasonCode ← JsonTree.required fields "reasonCode" RefundPolicy.nonEmptyString?
  let scope ← JsonTree.required fields "scope" (JS.Form.readMember
    [("FULL_ORDER", .fullOrder), ("SELECTED_ITEMS", .selectedItems)])
  let itemIds ← JsonTree.required fields "itemIds" (JsonTree.list? JsonTree.string?)
  let amount ← JsonTree.required fields "requestedAmount"
    (JS.Form.readStrict ["amountMinor", "currency"])
  let amountMinor ← JsonTree.required amount "amountMinor" RefundPolicy.positiveInteger?
  let currency ← JsonTree.required amount "currency" RefundPolicy.nonEmptyString?
  return ⟨orderId, reasonCode, scope, itemIds, some ⟨amountMinor, currency⟩⟩

/-- `readyAgentResponseSchema`. -/
def readyProposal (body : Value) : Option RefundProposal := do
  let fields ← body.fields?
  JsonTree.required fields "status" (literal "refund_proposal_ready")
  let proposal ← JsonTree.required fields "refund_proposal" JsonTree.fields?
  let proposalId ← JsonTree.required proposal "proposalId" RefundPolicy.nonEmptyString?
  JsonTree.required proposal "journeyType" (literal "REFUND")
  let _ ← JsonTree.required proposal "missingFields" fun value => value.items?.filter (·.isEmpty)
  let intent ← JsonTree.required proposal "intent" readRefundIntent
  return ⟨proposalId, intent⟩

/-! Requests and replies. -/

/-- What the route has checked of a request, with its correlation ids. -/
structure MessageRequest where
  identity : CustomerIdentity
  conversationId : String
  idempotencyKey : String
  clientMessageId : String
  text : String
  orderReference : Option String
  requestId : String
  traceId : String
  deriving DecidableEq

structure AcceptedReply where
  customerMessageId : String
  assistantMessageId : String
  text : String
  refundWorkflow : Option String
  deriving DecidableEq

inductive MessageReply
  | accepted (reply : AcceptedReply)
  | error (statusCode : ℕ) (code : String)
  deriving DecidableEq

/-- `sendConversationRuntimeFailure`. -/
def conversationRuntimeFailure (statusCode : ℕ) : MessageReply :=
  if statusCode = 404 then .error 404 "conversation_not_found"
  else if statusCode = 409 then .error 409 "idempotency_conflict"
  else .error 502 "conversation_runtime_unavailable"

def agentUnavailable : MessageReply := .error 502 "agent_runtime_unavailable"

def workflowUnavailable : MessageReply := .error 502 "workflow_unavailable"

/-- `sendStableError` of the Conversation Runtime. -/
def statusCode : Failure → ℕ
  | .conversationUnavailable => 404
  | .idempotencyConflict => 409
  | .messageTooLarge => 400
  | .constraint => 500
  | .error _ => 500

structure RefundWorkflowStartInput where
  workflowId : String
  orderReference : Option String
  proposal : RefundProposal
  policyVersion : String
  access : WorkflowJourneyAccess
  deriving DecidableEq

/-- What the edge is configured with. -/
structure MessageRoute where
  routingEpoch : ℕ
  refundPolicyVersion : String

namespace MessageRoute
variable (route : MessageRoute) (request : MessageRequest)

/-- What the assertions of the edge say about the request. -/
def context : AccessContext where
  subjectCustomerId := request.identity.customerId
  routingEpoch := route.routingEpoch
  traceId := request.traceId

def customerMessage : MessageInput where
  context := route.context request
  conversationId := request.conversationId
  idempotencyKey := customerMessageIdempotencyKey request.identity request.conversationId
    request.idempotencyKey
  clientMessageId := request.clientMessageId
  text := request.text

def assistantMessage (answer : String) : MessageInput where
  context := route.context request
  conversationId := request.conversationId
  idempotencyKey := assistantMessageIdempotencyKey request.identity request.conversationId
    request.idempotencyKey
  clientMessageId := assistantClientMessageId request.conversationId request.clientMessageId
  text := answer

def refundWorkflowReference (messageId workflowId : String) : LinkRefundWorkflowInput where
  context := route.context request
  conversationId := request.conversationId
  messageId
  workflowId
  idempotencyKey := refundWorkflowReferenceKey request.identity request.conversationId messageId
    workflowId

def buildWorkflowStartInput (proposal : RefundProposal) (orderReference : Option String) :
    RefundWorkflowStartInput where
  workflowId := "refund-" ++ proposal.proposalId
  orderReference
  proposal
  policyVersion := route.refundPolicyVersion
  access :=
    { tenantId := request.identity.tenantId
      environmentId := request.identity.environmentId
      subjectCustomerId := request.identity.customerId
      requestId := request.requestId
      traceId := request.traceId }

end MessageRoute

/-! The steps of the route. A call without an answer is one whose failure the route catches. -/

/-- How far the route is with a request. -/
inductive MessagePhase
  | received
  | persisted (customerMessage : MessageResult)
  | contextual (customerMessage : MessageResult) (orderReference : Option String)
  | answered (customerMessage : MessageResult) (orderReference : Option String) (answer : String)
      (proposal : Option RefundProposal)
  | appended (customerMessage assistantMessage : MessageResult) (orderReference : Option String)
      (answer : String) (proposal : RefundProposal)
  | started (customerMessage assistantMessage : MessageResult) (answer workflowId : String)
  | replied (reply : MessageReply)
  deriving DecidableEq

namespace MessagePhase

def afterAccept : Option (Except Failure Reply) → MessagePhase
  | some (.ok (.message result)) => .persisted result
  | some (.error failure) => .replied (conversationRuntimeFailure (statusCode failure))
  | _ => .replied (conversationRuntimeFailure 500)

def senderKind : Conversation.SenderKind → String
  | .endCustomer => "END_CUSTOMER"
  | .assistant => "ASSISTANT"
  | .workforce => "WORKFORCE"

def transcriptMessages (transcript : Transcript) : List ConversationTranscriptMessage :=
  transcript.messages.map fun message =>
    ⟨message.messageId, message.sequenceNumber, senderKind message.senderKind, message.text⟩

def afterRead (request : MessageRequest) (customerMessage : MessageResult) :
    Option (Except Failure Reply) → MessagePhase
  | some (.ok (.transcript transcript)) =>
    match buildCustomerConversationContext (transcriptMessages transcript)
        ⟨customerMessage.messageId, request.text⟩ with
    | .ok context => .contextual customerMessage (resolveOrderReferenceFromCustomerMessages
        (context.map CustomerConversationMessage.text) request.orderReference)
    | .error _ => .replied (conversationRuntimeFailure 500)
  | some (.error failure) => .replied (conversationRuntimeFailure (statusCode failure))
  | _ => .replied (conversationRuntimeFailure 500)

/-- A failure that the agent runtime reports comes before its answer. -/
def afterIntake (customerMessage : MessageResult) (orderReference : Option String) :
    Option AgentRuntimeResponse → MessagePhase
  | none => .replied agentUnavailable
  | some response =>
    if response.statusCode < 200 ∨ 300 ≤ response.statusCode then .replied agentUnavailable
    else match agentRuntimeFailure response.body with
    | some .intentExtractionUnavailable => .replied (.error 503 "refund_intent_unavailable")
    | some .orderLookupUnavailable => .replied (.error 503 "order_lookup_unavailable")
    | none =>
      match customerAnswer response.body with
      | none => .replied agentUnavailable
      | some answer =>
        .answered customerMessage orderReference answer (readyProposal response.body)

def afterAppend (customerMessage : MessageResult) (orderReference : Option String) (answer : String)
    (proposal : Option RefundProposal) : Option (Except Failure Reply) → MessagePhase
  | some (.ok (.message assistantMessage)) =>
    match proposal with
    | some proposal => .appended customerMessage assistantMessage orderReference answer proposal
    | none => .replied (.accepted
        ⟨customerMessage.messageId, assistantMessage.messageId, answer, none⟩)
  | some (.error failure) => .replied (conversationRuntimeFailure (statusCode failure))
  | _ => .replied (conversationRuntimeFailure 500)

def afterLink (customerMessage assistantMessage : MessageResult) (answer workflowId : String) :
    Option (Except Failure Reply) → MessagePhase
  | some (.ok (.linked _ _)) => .replied (.accepted
      ⟨customerMessage.messageId, assistantMessage.messageId, answer, some workflowId⟩)
  | some (.error failure) => .replied (conversationRuntimeFailure (statusCode failure))
  | _ => .replied workflowUnavailable

end MessagePhase
end CSO.Edge
