import CSO.Assertions.Verifiers
import CSO.Transition.Machine

/-! The services together: which assertion opens which door. -/
namespace CSO.Assertions
open AgentRuntime (RefundPolicyBinding)
open HumanOperations (HumanAccess)
open JS (Document Uuid)

/-- The services that take the context of a customer. -/
inductive Target
  | integrationGateway
  | agentRuntime
  | knowledgeRag
  | conversationRuntime
  deriving DecidableEq, Repr

/-- `loadConfig` of the edge, as far as it is about assertions, and the catalog's binding of the
configured version. -/
structure EdgeConfig where
  tenantId : String
  environmentId : String
  localAuthSecret : String
  localAuthIssuer : String
  localAuthAudience : String
  contextAssertionSecret : String
  contextAssertionIssuer : String
  contextAssertionAudience : Target → String
  edgeServiceAssertionSecret : String
  edgeServiceAssertionIssuer : String
  edgeServiceAssertionAudience : String
  route : Route
  refundPolicy : RefundPolicyBinding
  localAuthLength : Secret localAuthSecret
  contextLength : Secret contextAssertionSecret
  serviceLength : Secret edgeServiceAssertionSecret
  routeValid : route.Valid
  policyValid : PolicyValid refundPolicy
  /-- Local authentication and context signing require separate keys. -/
  contextKey : localAuthSecret ≠ contextAssertionSecret
  /-- Edge service assertions require a key of their own. -/
  serviceKey : edgeServiceAssertionSecret ≠ localAuthSecret ∧
    edgeServiceAssertionSecret ≠ contextAssertionSecret

namespace EdgeConfig
variable (config : EdgeConfig)

/-- Only the agent runtime hears of the refund policy. -/
def policyFor : Target → Option RefundPolicyBinding
  | .agentRuntime => some config.refundPolicy
  | _ => none

theorem policyFor_valid (target : Target) : ∀ policy ∈ config.policyFor target, PolicyValid policy := by
  intro policy hpolicy
  cases target with
  | agentRuntime =>
    obtain rfl := Option.mem_some_iff.mp hpolicy
    exact config.policyValid
  | integrationGateway => cases hpolicy
  | knowledgeRag => cases hpolicy
  | conversationRuntime => cases hpolicy

theorem defaultLifetime : Lifetime 300 60 := by constructor <;> norm_num

def contextSigner (target : Target) : ContextSigner where
  secret := config.contextAssertionSecret
  issuer := config.contextAssertionIssuer
  audience := config.contextAssertionAudience target
  route := config.route
  refundPolicy := config.policyFor target
  lifetimeSeconds := 60
  secretLength := config.contextLength
  lifetime := defaultLifetime
  routeValid := config.routeValid
  policyValid := config.policyFor_valid target

def serviceSigner : ServiceSigner where
  secret := config.edgeServiceAssertionSecret
  issuer := config.edgeServiceAssertionIssuer
  audience := config.edgeServiceAssertionAudience
  routingEpoch := config.route.routingEpoch
  lifetimeSeconds := 60
  secretLength := config.serviceLength
  lifetime := defaultLifetime
  epochValid := config.routeValid.2.2

def evidenceSigner : EvidenceSigner where
  secret := config.contextAssertionSecret
  issuer := config.contextAssertionIssuer
  secretLength := config.contextLength

theorem customerLifetime : Lifetime maxLocalCustomerTokenLifetimeSeconds
    maxLocalCustomerTokenLifetimeSeconds := by constructor <;> norm_num [maxLocalCustomerTokenLifetimeSeconds]

def customerSigner : CustomerSigner where
  secret := config.localAuthSecret
  issuer := config.localAuthIssuer
  audience := config.localAuthAudience
  lifetimeSeconds := maxLocalCustomerTokenLifetimeSeconds
  secretLength := config.localAuthLength
  lifetime := customerLifetime

def customerVerifier : CustomerVerifier where
  secret := config.localAuthSecret
  expectedIssuer := config.localAuthIssuer
  expectedAudience := config.localAuthAudience
  expected := ⟨config.tenantId, config.environmentId⟩

end EdgeConfig

/-- The secret and the issuer that a service verifies by. -/
structure Trusted where
  secret : String
  issuer : String
  deriving DecidableEq, Repr

structure GatewayConfig where
  scope : Scope
  contextAssertion : Trusted
  workflowAccess : Trusted

structure ConversationConfig where
  scope : Scope
  contextAssertion : Trusted
  contextAssertionAudience : String
  edgeServiceAssertion : Trusted
  edgeServiceAssertionAudience : String
  /-- Customer and edge service assertions require separate keys. -/
  serviceKey : contextAssertion.secret ≠ edgeServiceAssertion.secret

structure HumanOperationsConfig where
  scope : Scope
  humanAccess : Trusted
  workflow : Trusted
  contextAssertion : Trusted

/-- `loadConfig` of the workflow workers. -/
structure WorkersConfig where
  workflowAccess : Trusted
  humanOperationsWorkflow : Trusted
  workflowAccessLength : Secret workflowAccess.secret
  humanOperationsLength : Secret humanOperationsWorkflow.secret

namespace WorkersConfig
variable (config : WorkersConfig)

def gatewaySigner : WorkflowSigner where
  secret := config.workflowAccess.secret
  issuer := config.workflowAccess.issuer
  audience := "integration-gateway"
  lifetimeSeconds := 60
  secretLength := config.workflowAccessLength
  lifetime := EdgeConfig.defaultLifetime

def humanOperationsSigner : WorkflowSigner where
  secret := config.humanOperationsWorkflow.secret
  issuer := config.humanOperationsWorkflow.issuer
  audience := "human-operations"
  lifetimeSeconds := 60
  secretLength := config.humanOperationsLength
  lifetime := EdgeConfig.defaultLifetime

end WorkersConfig

structure Deployment where
  edge : EdgeConfig
  gateway : GatewayConfig
  conversation : ConversationConfig
  agentRuntime : PythonVerifier
  /-- The catalog of refund policies that the agent runtime reads, and its digest. -/
  catalog : Document
  catalogSha256 : String
  knowledgeRag : PythonVerifier
  humanOperations : HumanOperationsConfig
  workers : WorkersConfig
  humanSigner : HumanSigner

/-- What a service signs. -/
inductive Issue
  | context (target : Target) (input : ContextAssertionInput) (contextId : Uuid) (now : ℤ)
  | service (input : ServiceAssertionInput) (now : ℤ)
  | evidence (input : EvidenceRequestContext) (purpose : EvidencePurpose) (now : ℤ)
  | refund (input : WorkflowAccessAssertionInput) (now : ℤ)
  | humanCase (input : WorkflowAccessAssertionInput) (now : ℤ)
  | customer (identity : AuthenticatedCustomer) (now : ℤ)
  | human (identity : LocalHumanIdentity) (issued expires : ℤ)

/-- Where an assertion is verified. -/
inductive Door
  | context (target : Target)
  | service
  | evidence (purpose : EvidencePurpose)
  | refund (purpose : WorkflowPurpose)
  | humanCase (purpose : WorkflowPurpose)
  | customer
  | human
  deriving DecidableEq, Repr

/-- What a verifier grants. -/
inductive Grant
  | context (access : AccessContext)
  | verified (access : VerifiedContext)
  | service (access : ServiceAccessContext)
  | evidence (access : CustomerEvidenceAccess)
  | humanCase (access : WorkflowCaseAccess)
  | customer (identity : AuthenticatedCustomer)
  | human (access : HumanAccess)

/-- The door that an assertion is for. -/
def Issue.door : Issue → Door
  | .context target _ _ _ => .context target
  | .service _ _ => .service
  | .evidence _ purpose _ => .evidence purpose
  | .refund input _ => .refund input.purpose
  | .humanCase input _ => .humanCase input.purpose
  | .customer _ _ => .customer
  | .human _ _ _ => .human

namespace Deployment
variable (deployment : Deployment) (jwt : Jwt)

/-- The token of an assertion, unless its signer refuses the input. -/
def sign : Issue → Option jwt.Token
  | .context target input contextId now =>
    (deployment.edge.contextSigner target).sign jwt input contextId now
  | .service input now => deployment.edge.serviceSigner.sign jwt input now
  | .evidence input purpose now => deployment.edge.evidenceSigner.sign jwt input purpose now
  | .refund input now => deployment.workers.gatewaySigner.sign jwt input now
  | .humanCase input now => deployment.workers.humanOperationsSigner.sign jwt input now
  | .customer identity now => deployment.edge.customerSigner.sign jwt identity now
  | .human identity issued expires => some (deployment.humanSigner.sign jwt identity issued expires)

def gatewayVerifier : ContextVerifier where
  secret := deployment.gateway.contextAssertion.secret
  expectedIssuer := deployment.gateway.contextAssertion.issuer
  expectedAudience := "integration-gateway"
  expected := deployment.gateway.scope

def conversationVerifier : ContextVerifier where
  secret := deployment.conversation.contextAssertion.secret
  expectedIssuer := deployment.conversation.contextAssertion.issuer
  expectedAudience := deployment.conversation.contextAssertionAudience
  expected := deployment.conversation.scope

def serviceVerifier : ServiceVerifier where
  secret := deployment.conversation.edgeServiceAssertion.secret
  expectedIssuer := deployment.conversation.edgeServiceAssertion.issuer
  expectedAudience := deployment.conversation.edgeServiceAssertionAudience
  expected := deployment.conversation.scope

def workflowVerifier : WorkflowVerifier where
  secret := deployment.gateway.workflowAccess.secret
  expectedIssuer := deployment.gateway.workflowAccess.issuer
  expectedAudience := "integration-gateway"
  expected := deployment.gateway.scope

def caseVerifier : WorkflowVerifier where
  secret := deployment.humanOperations.workflow.secret
  expectedIssuer := deployment.humanOperations.workflow.issuer
  expectedAudience := "human-operations"
  expected := deployment.humanOperations.scope

def evidenceVerifier : EvidenceVerifier where
  secret := deployment.humanOperations.contextAssertion.secret
  issuer := deployment.humanOperations.contextAssertion.issuer
  expected := deployment.humanOperations.scope

def humanVerifier : HumanVerifier where
  secret := deployment.humanOperations.humanAccess.secret
  issuer := deployment.humanOperations.humanAccess.issuer
  audience := "human-operations"
  expected := deployment.humanOperations.scope

/-- What a token opens at a door, by the clock of the service there. -/
def grant (door : Door) (assertion : Option jwt.Token) (now : ℤ) : Option Grant :=
  match door with
  | .context .integrationGateway =>
    (deployment.gatewayVerifier.verify jwt assertion now).map .context
  | .context .conversationRuntime =>
    (deployment.conversationVerifier.verify jwt assertion now).map .context
  | .context .agentRuntime =>
    (deployment.agentRuntime.verifyAgentRuntime jwt deployment.catalog deployment.catalogSha256
      assertion now).map .verified
  | .context .knowledgeRag =>
    (deployment.knowledgeRag.verifyKnowledgeRag jwt assertion now).map .verified
  | .service => (deployment.serviceVerifier.verify jwt assertion now).map .service
  | .evidence purpose => (deployment.evidenceVerifier.verify jwt purpose assertion now).map .evidence
  | .refund purpose => (deployment.workflowVerifier.verify jwt purpose assertion now).map .context
  | .humanCase purpose =>
    (deployment.caseVerifier.verifyCase jwt purpose assertion now).map .humanCase
  | .customer => (deployment.edge.customerVerifier.verify jwt assertion now).map .customer
  | .human => (deployment.humanVerifier.verify jwt assertion now).map .human

/-- What an assertion stands for. -/
def meaning : Issue → Option Grant
  | .context target input contextId now =>
    let claims := (deployment.edge.contextSigner target).claims input contextId now
    match target with
    | .integrationGateway => some (.context claims.access)
    | .conversationRuntime => some (.context claims.access)
    | .agentRuntime => (PythonVerifier.verifiedPolicy deployment.catalog deployment.catalogSha256
        claims.refundPolicy).map fun policy => .verified (claims.verified policy)
    | .knowledgeRag => some (.verified (claims.verified none))
  | .service input now => some (.service (deployment.edge.serviceSigner.claims input now).access)
  | .evidence input purpose now =>
    some (.evidence (deployment.edge.evidenceSigner.claims input purpose now).evidenceAccess)
  | .refund input now => some (.context (deployment.workers.gatewaySigner.claims input now).access)
  | .humanCase input now =>
    some (.humanCase ((deployment.workers.humanOperationsSigner.claims input now).caseAccess
      input.purpose))
  | .customer identity now =>
    some (.customer (deployment.edge.customerSigner.claims identity now).customer)
  | .human identity issued expires =>
    some (.human (deployment.humanSigner.claims identity issued expires).access)

end Deployment
end CSO.Assertions
