import CSO.Assertions.ContextModels
import CSO.Workers.Activities

/-! Signed tokens, and the services that sign them. -/
namespace CSO.Assertions
open AgentRuntime (PyValue RefundPolicyBinding loads)
open HumanOperations (StaffRole)
open JS (Document Value JsonTree Uuid integer isIdentifier)
open Workers (WorkflowJourneyAccess)

/-- What a library is told to check of a token besides its signature. -/
structure Checks where
  typ : String
  issuer : String
  audience : String

/-- In a type `application/` may be left out, and case does not count. -/
def mediaType (typ : String) : List Char :=
  let lower := typ.toList.map Char.toLower
  if lower.contains '/' then lower else "application/".toList ++ lower

/-- The issuer and the audience are the expected ones. -/
structure Addressed {N : Type} (issuer audience : String) (value : JsonTree N) : Prop where
  iss : (value.fields?.bind (List.lookup "iss")).bind JsonTree.string? = some issuer
  aud : ∀ aud, (value.fields?.bind (List.lookup "aud")).bind JsonTree.string? = some aud →
    aud = audience

/-- Tokens with an HMAC over a header and a payload, as `jose` signs and verifies them, and as `jwt`
of Python verifies them. -/
structure Jwt where
  Token : Type
  /-- In code units. -/
  length : Token → ℕ
  /-- In characters. -/
  len : Token → ℕ
  /-- `SignJWT`, with `HS256` and a type. -/
  sign (secret typ : String) (payload : Document) : Token
  /-- `jwtVerify`, with `HS256` as the only algorithm. -/
  jwtVerify (secret : String) (checks : Checks) (currentDate : ℤ) (token : Token) : Option Value
  /-- The algorithm and the type that `get_unverified_header` finds. -/
  getUnverifiedHeader : Token → Option (String × String)
  /-- `jwt.decode`, without its checks of times. -/
  decode (secret issuer audience : String) (token : Token) : Option PyValue
  /-- A payload is found as it was signed, with the type, the issuer and the audience. -/
  jwtVerify_sign {secret secret' typ : String} {payload : Document} {checks : Checks} {now : ℤ}
    {value : Value} (h : jwtVerify secret' checks now (sign secret typ payload) = some value) :
    value = JS.parse payload ∧ mediaType typ = mediaType checks.typ ∧
      Addressed checks.issuer checks.audience (JS.parse payload) ∧
      ∀ exp : ℤ, exp.natAbs ≤ 9007199254740991 →
        (JS.parse payload).fields?.bind (List.lookup "exp") = some (JS.parse (integer exp)) →
        now / 1000 < exp
  jwtVerify_own {secret : String} {payload : Document} {checks : Checks} {now exp : ℤ}
    {fields : List (String × Value)} (hfields : JS.parse payload = .obj fields)
    (hiss : List.lookup "iss" fields = some (.str checks.issuer))
    (haud : List.lookup "aud" fields = some (.str checks.audience))
    (hexp : List.lookup "exp" fields = some (JS.parse (integer exp)))
    (hsafe : exp.natAbs ≤ 9007199254740991) (hnow : now / 1000 < exp)
    (hnbf : List.lookup "nbf" fields = none) :
    jwtVerify secret checks now (sign secret checks.typ payload) = some (JS.parse payload)
  getUnverifiedHeader_sign (secret typ : String) (payload : Document) :
    getUnverifiedHeader (sign secret typ payload) = some ("HS256", typ)
  decode_sign {secret secret' typ issuer audience : String} {payload : Document} {value : PyValue}
    (h : decode secret' issuer audience (sign secret typ payload) = some value) :
    value = loads payload ∧ Addressed issuer audience (loads payload)
  decode_own {secret typ issuer audience : String} {payload : Document} {iat exp : ℤ}
    {fields : List (String × PyValue)} (hfields : loads payload = .obj fields)
    (hiss : List.lookup "iss" fields = some (.str issuer))
    (haud : List.lookup "aud" fields = some (.str audience))
    (hiat : List.lookup "iat" fields = some (loads (integer iat)))
    (hexp : List.lookup "exp" fields = some (loads (integer exp)))
    (hother : ∀ key ∈ ["nbf", "sub", "jti"], List.lookup key fields = none) :
    decode secret issuer audience (sign secret typ payload) = some (loads payload)

structure AuthenticatedCustomer where
  principalId : String
  tenantId : String
  environmentId : String
  customerId : String
  deriving DecidableEq, Repr

/-- `authenticatedCustomerSchema`: every identifier is opaque. -/
def AuthenticatedCustomer.Opaque (identity : AuthenticatedCustomer) : Prop :=
  isIdentifier 160 identity.principalId = true ∧ isIdentifier 160 identity.tenantId = true ∧
    isIdentifier 160 identity.environmentId = true ∧ isIdentifier 160 identity.customerId = true

instance (identity : AuthenticatedCustomer) : Decidable identity.Opaque :=
  inferInstanceAs (Decidable (_ ∧ _ ∧ _ ∧ _))

/-! The context of a customer. -/

structure ContextAssertionInput where
  identity : AuthenticatedCustomer
  requestId : String
  traceId : String
  channelId : String
  deriving DecidableEq, Repr

/-- `contextAssertionInputSchema`. -/
def ContextAssertionInput.Valid (input : ContextAssertionInput) : Prop :=
  input.identity.Opaque ∧ isIdentifier 160 input.requestId = true ∧
    isIdentifier 160 input.traceId = true ∧ isIdentifier 160 input.channelId = true ∧
    input.identity.principalId = input.identity.customerId

instance (input : ContextAssertionInput) : Decidable input.Valid :=
  inferInstanceAs (Decidable (_ ∧ _ ∧ _ ∧ _ ∧ _))

/-- What `createHmacContextAssertionSigner` asks of a route. -/
def Route.Valid (route : Route) : Prop :=
  isIdentifier 160 route.homeRegion = true ∧ isIdentifier 160 route.homeCell = true ∧
    1 ≤ route.routingEpoch ∧ route.routingEpoch ≤ 9007199254740991

/-- What it asks of a policy. -/
def PolicyValid (policy : RefundPolicyBinding) : Prop :=
  (1 ≤ JS.length policy.policyVersion ∧ JS.length policy.policyVersion ≤ 160) ∧
    isDigest policy.catalogSha256 = true

/-- The least length of a secret, in bytes. -/
def Secret (secret : String) : Prop := 32 ≤ secret.utf8ByteSize

/-- A lifetime in seconds that a signer takes. -/
def Lifetime (maximum seconds : ℤ) : Prop := 1 ≤ seconds ∧ seconds ≤ maximum

structure ContextSigner where
  secret : String
  issuer : String
  audience : String
  route : Route
  refundPolicy : Option RefundPolicyBinding
  lifetimeSeconds : ℤ
  secretLength : Secret secret
  lifetime : Lifetime 300 lifetimeSeconds
  routeValid : route.Valid
  policyValid : ∀ policy ∈ refundPolicy, PolicyValid policy

namespace ContextSigner
variable (signer : ContextSigner)

def claims (input : ContextAssertionInput) (contextId : Uuid) (now : ℤ) : ContextClaims where
  iss := signer.issuer
  aud := signer.audience
  iat := now / 1000
  exp := now / 1000 + signer.lifetimeSeconds
  contextId := contextId.text
  tenantId := input.identity.tenantId
  environmentId := input.identity.environmentId
  principalId := input.identity.principalId
  customerId := input.identity.customerId
  route := signer.route
  requestId := input.requestId
  traceId := input.traceId
  channelId := input.channelId
  refundPolicy := signer.refundPolicy

/-- The assertion, unless the schema refuses the input. -/
def sign (jwt : Jwt) (input : ContextAssertionInput) (contextId : Uuid) (now : ℤ) :
    Option jwt.Token :=
  if input.Valid then
    some (jwt.sign signer.secret "cso-context+jwt" (signer.claims input contextId now).payload)
  else none

end ContextSigner

/-! An assertion of the edge as a service. -/

structure ServiceAssertionInput where
  identity : AuthenticatedCustomer
  requestId : String
  traceId : String
  deriving DecidableEq, Repr

/-- The input as `contextAssertionInputSchema` checks it. -/
def ServiceAssertionInput.internal (input : ServiceAssertionInput) : ContextAssertionInput :=
  ⟨input.identity, input.requestId, input.traceId, "internal"⟩

structure ServiceSigner where
  secret : String
  issuer : String
  audience : String
  routingEpoch : ℤ
  lifetimeSeconds : ℤ
  secretLength : Secret secret
  lifetime : Lifetime 300 lifetimeSeconds
  epochValid : 1 ≤ routingEpoch ∧ routingEpoch ≤ 9007199254740991

namespace ServiceSigner
variable (signer : ServiceSigner)

def claims (input : ServiceAssertionInput) (now : ℤ) : ServiceClaims where
  iss := signer.issuer
  aud := signer.audience
  iat := now / 1000
  exp := now / 1000 + signer.lifetimeSeconds
  tenantId := input.identity.tenantId
  environmentId := input.identity.environmentId
  subjectCustomerId := input.identity.customerId
  requestId := input.requestId
  traceId := input.traceId
  routingEpoch := signer.routingEpoch

def sign (jwt : Jwt) (input : ServiceAssertionInput) (now : ℤ) : Option jwt.Token :=
  if input.internal.Valid then
    some (jwt.sign signer.secret "cso-service+jwt" (signer.claims input now).payload)
  else none

end ServiceSigner

/-! The access of a workflow. -/

inductive WorkflowPurpose
  | refundFactRefresh
  | refundExecute
  | refundReconcile
  | humanCaseOpen
  | humanCaseClose
  | refundEvidenceOpen
  | refundEvidenceRead
  | humanCaseTransition
  deriving DecidableEq, Repr

def WorkflowPurpose.text : WorkflowPurpose → String
  | .refundFactRefresh => "refund_fact_refresh"
  | .refundExecute => "refund_execute"
  | .refundReconcile => "refund_reconcile"
  | .humanCaseOpen => "human_case_open"
  | .humanCaseClose => "human_case_close"
  | .refundEvidenceOpen => "refund_evidence_open"
  | .refundEvidenceRead => "refund_evidence_read"
  | .humanCaseTransition => "human_case_transition"

structure WorkflowAccessAssertionInput where
  workflowId : String
  access : WorkflowJourneyAccess
  purpose : WorkflowPurpose
  deriving DecidableEq, Repr

/-- `workflowJourneyAccessSchema`, and the id of the workflow. -/
def WorkflowAccessAssertionInput.Valid (input : WorkflowAccessAssertionInput) : Prop :=
  isIdentifier 160 input.access.tenantId = true ∧
    isIdentifier 160 input.access.environmentId = true ∧
    isIdentifier 160 input.access.subjectCustomerId = true ∧
    isIdentifier 160 input.access.requestId = true ∧ isIdentifier 160 input.access.traceId = true ∧
    isIdentifier 160 input.workflowId = true

instance (input : WorkflowAccessAssertionInput) : Decidable input.Valid :=
  inferInstanceAs (Decidable (_ ∧ _ ∧ _ ∧ _ ∧ _ ∧ _))

structure WorkflowSigner where
  secret : String
  issuer : String
  audience : String
  lifetimeSeconds : ℤ
  secretLength : Secret secret
  lifetime : Lifetime 300 lifetimeSeconds

namespace WorkflowSigner
variable (signer : WorkflowSigner)

def claims (input : WorkflowAccessAssertionInput) (now : ℤ) : AccessClaims where
  iss := signer.issuer
  aud := signer.audience
  iat := now / 1000
  exp := now / 1000 + signer.lifetimeSeconds
  workflowId := input.workflowId
  tenantId := input.access.tenantId
  environmentId := input.access.environmentId
  customerId := input.access.subjectCustomerId
  purpose := input.purpose.text
  requestId := input.access.requestId
  traceId := input.access.traceId

def sign (jwt : Jwt) (input : WorkflowAccessAssertionInput) (now : ℤ) : Option jwt.Token :=
  if input.Valid then
    some (jwt.sign signer.secret "cso-workflow+jwt" (signer.claims input now).payload)
  else none

end WorkflowSigner

/-! The access of a customer to the photos of a workflow. -/

inductive EvidencePurpose
  | read
  | upload
  | content
  deriving DecidableEq, Repr

def EvidencePurpose.text : EvidencePurpose → String
  | .read => "refund_evidence_read"
  | .upload => "refund_evidence_upload"
  | .content => "refund_evidence_content"

structure EvidenceRequestContext where
  workflowId : String
  identity : AuthenticatedCustomer
  requestId : String
  traceId : String
  deriving DecidableEq, Repr

/-- The checks that `createEvidenceAssertionSigner` makes of its input. -/
def EvidenceRequestContext.Valid (input : EvidenceRequestContext) : Prop :=
  input.identity.Opaque ∧ input.identity.principalId = input.identity.customerId ∧
    isIdentifier 200 input.workflowId = true ∧ isIdentifier 160 input.requestId = true ∧
    isIdentifier 160 input.traceId = true

instance (input : EvidenceRequestContext) : Decidable input.Valid :=
  inferInstanceAs (Decidable (_ ∧ _ ∧ _ ∧ _ ∧ _))

structure EvidenceSigner where
  secret : String
  issuer : String
  secretLength : Secret secret

namespace EvidenceSigner
variable (signer : EvidenceSigner)

def claims (input : EvidenceRequestContext) (purpose : EvidencePurpose) (now : ℤ) :
    AccessClaims where
  iss := signer.issuer
  aud := "human-operations-evidence"
  iat := now / 1000
  exp := now / 1000 + 60
  workflowId := input.workflowId
  tenantId := input.identity.tenantId
  environmentId := input.identity.environmentId
  customerId := input.identity.customerId
  purpose := purpose.text
  requestId := input.requestId
  traceId := input.traceId

def sign (jwt : Jwt) (input : EvidenceRequestContext) (purpose : EvidencePurpose) (now : ℤ) :
    Option jwt.Token :=
  if input.Valid then
    some (jwt.sign signer.secret "cso-evidence+jwt" (signer.claims input purpose now).payload)
  else none

end EvidenceSigner

/-! The token of a customer in local development. -/

def maxLocalCustomerTokenLifetimeSeconds : ℤ := 7 * 24 * 60 * 60

structure CustomerSigner where
  secret : String
  issuer : String
  audience : String
  lifetimeSeconds : ℤ
  secretLength : Secret secret
  lifetime : Lifetime maxLocalCustomerTokenLifetimeSeconds lifetimeSeconds

namespace CustomerSigner
variable (signer : CustomerSigner)

def claims (identity : AuthenticatedCustomer) (now : ℤ) : CustomerClaims where
  iss := signer.issuer
  aud := signer.audience
  iat := now / 1000
  exp := now / 1000 + signer.lifetimeSeconds
  sub := identity.principalId
  tenantId := identity.tenantId
  environmentId := identity.environmentId
  customerId := identity.customerId

/-- `signLocalCustomerAccessToken`. -/
def sign (jwt : Jwt) (identity : AuthenticatedCustomer) (now : ℤ) : Option jwt.Token :=
  if identity.Opaque then
    some (jwt.sign signer.secret "cso-local-customer+jwt" (signer.claims identity now).payload)
  else none

end CustomerSigner

/-! The assertion of a staff member in local development. -/

structure LocalHumanIdentity where
  staffId : String
  tenantId : String
  environmentId : String
  role : StaffRole
  deriving DecidableEq, Repr

structure HumanSigner where
  secret : String
  issuer : String
  audience : String
  expiresInSeconds : ℤ
  /-- In code units. -/
  secretLength : 32 ≤ JS.length secret
  lifetime : 1 ≤ expiresInSeconds

namespace HumanSigner
variable (signer : HumanSigner)

/-- The two times are read from the clock one after the other. -/
def claims (identity : LocalHumanIdentity) (issued expires : ℤ) : HumanClaims where
  staffId := identity.staffId
  tenantId := identity.tenantId
  environmentId := identity.environmentId
  role := identity.role
  iss := signer.issuer
  aud := signer.audience
  iat := some (issued / 1000)
  exp := some (expires / 1000 + signer.expiresInSeconds)

/-- `signLocalHumanAccessAssertion`. -/
def sign (jwt : Jwt) (identity : LocalHumanIdentity) (issued expires : ℤ) : jwt.Token :=
  jwt.sign signer.secret "cso-human+jwt" (signer.claims identity issued expires).payload

end HumanSigner
end CSO.Assertions
