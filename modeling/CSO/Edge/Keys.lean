import CSO.JS.Digest

/-! The identities that the edge derives from those of a customer. -/
namespace CSO.Edge

def createScopedIdempotencyKey (scope : String) (values : List String) : String :=
  "cso-" ++ JS.Sha256.hex ("\x00".intercalate (scope :: values))

structure CustomerIdentity where
  tenantId : String
  environmentId : String
  customerId : String
  deriving DecidableEq, Repr

/-- A key of a customer for one scope, within the conversation. -/
def CustomerIdentity.scoped (identity : CustomerIdentity) (scope : String) (values : List String) :
    String :=
  createScopedIdempotencyKey scope
    (identity.tenantId :: identity.environmentId :: identity.customerId :: values)

def customerMessageIdempotencyKey (identity : CustomerIdentity)
    (conversationId idempotencyKey : String) : String :=
  identity.scoped "conversation-customer-message-v1" [conversationId, idempotencyKey]

def assistantClientMessageId (conversationId clientMessageId : String) : String :=
  createScopedIdempotencyKey "conversation-assistant-client-message-v1"
    [conversationId, clientMessageId]

def assistantMessageIdempotencyKey (identity : CustomerIdentity)
    (conversationId idempotencyKey : String) : String :=
  identity.scoped "conversation-assistant-message-v1" [conversationId, idempotencyKey]

def refundWorkflowReferenceKey (identity : CustomerIdentity)
    (conversationId messageId workflowId : String) : String :=
  identity.scoped "conversation-refund-workflow-reference-v1"
    [conversationId, messageId, workflowId]

/-- What the schemas of keys and client message ids accept. -/
def isIdempotencyKey (text : String) : Bool := JS.isIdentifier 200 text

def isClientMessageId (text : String) : Bool := JS.isIdentifier 160 text

/-- A customer may use what the runtime makes of a derived identity. -/
theorem isClientMessageId_assistant (scope : String) (values : List String) :
    isClientMessageId ("assistant:" ++ createScopedIdempotencyKey scope values) = true := by
  unfold createScopedIdempotencyKey
  rw [← String.append_assoc]
  exact JS.isIdentifier_append_hex (by decide +kernel) (by decide +kernel)

end CSO.Edge
