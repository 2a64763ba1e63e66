import CSO.Assertions.Signers

/-! The services that verify assertions. -/
namespace CSO.Assertions
open AgentRuntime (PyValue VerifiedRefundPolicy loads verifyRefundPolicy)
open HumanOperations (HumanAccess)
open JS (Document Yields Value)

variable (jwt : Jwt)

/-- The longest token that a verifier looks at. -/
def maxLength : ℕ := 8192

/-- The payload of a token that `jwtVerify` accepts. An empty token and a long one are refused. -/
def verifiedPayload (secret : String) (checks : Checks) (now : ℤ) (assertion : Option jwt.Token) :
    Option Value :=
  (assertion.filter fun token => 0 < jwt.length token ∧ jwt.length token ≤ maxLength).bind
    (jwt.jwtVerify secret checks now)

/-- The verifiers of assertions: the claims of a verified payload, as a schema reads them, are
checked, and the access is made of them. -/
def verifyClaims {Claims Access : Type} (secret : String) (checks : Checks)
    (read : Value → Option Claims) (accepts : Claims → Prop) [DecidablePred accepts]
    (access : Claims → Access) (assertion : Option jwt.Token) (now : ℤ) : Option Access := do
  let payload ← verifiedPayload jwt secret checks now assertion
  let claims ← read payload
  if accepts claims then return access claims else none

/-- An assertion is from the last minutes: issued no later than the clock's tolerance allows, not
expired, and for no longer than the verifier allows. -/
def Current (maximum nowSeconds : ℤ) (registered : Registered) : Prop :=
  ¬(nowSeconds + 30 < registered.iat ∨ registered.exp ≤ nowSeconds ∨
    registered.exp ≤ registered.iat ∨ maximum < registered.exp - registered.iat)

instance (maximum nowSeconds : ℤ) (registered : Registered) :
    Decidable (Current maximum nowSeconds registered) := inferInstanceAs (Decidable (¬_))

/-- The tenant and the environment of a service. -/
structure Scope where
  tenantId : String
  environmentId : String
  deriving DecidableEq, Repr

/-! The context of a customer. -/

/-- What the gateway and the conversation service get of a context. -/
structure AccessContext where
  contextId : String
  tenantId : String
  environmentId : String
  subjectCustomerId : String
  routingEpoch : ℤ
  requestId : String
  traceId : String
  deriving DecidableEq, Repr

def ContextClaims.access (claims : ContextClaims) : AccessContext where
  contextId := claims.contextId
  tenantId := claims.tenantId
  environmentId := claims.environmentId
  subjectCustomerId := claims.customerId
  routingEpoch := claims.route.routingEpoch
  requestId := claims.requestId
  traceId := claims.traceId

structure ContextVerifier where
  secret : String
  expectedIssuer : String
  expectedAudience : String
  expected : Scope

/-- `createHmacContextAssertionVerifier` of the gateway and of the conversation service. -/
def ContextVerifier.verify (verifier : ContextVerifier) (assertion : Option jwt.Token) (now : ℤ) :
    Option AccessContext :=
  verifyClaims jwt verifier.secret
    ⟨"cso-context+jwt", verifier.expectedIssuer, verifier.expectedAudience⟩ ContextClaims.read
    (fun claims => (⟨claims.tenantId, claims.environmentId⟩ : Scope) = verifier.expected ∧
      claims.principalId = claims.customerId ∧ Current 300 (now / 1000) claims.toRegistered)
    ContextClaims.access assertion now

/-! The context of a customer in Python. -/

/-- What a service in Python gets of a context. The knowledge service gets no policy. -/
structure VerifiedContext where
  contextId : String
  tenantId : String
  environmentId : String
  subjectCustomerId : String
  requestId : String
  traceId : String
  routingEpoch : ℤ
  refundPolicy : Option VerifiedRefundPolicy

def ContextClaims.verified (claims : ContextClaims) (policy : Option VerifiedRefundPolicy) :
    VerifiedContext where
  contextId := claims.contextId
  tenantId := claims.tenantId
  environmentId := claims.environmentId
  subjectCustomerId := claims.customerId
  requestId := claims.requestId
  traceId := claims.traceId
  routingEpoch := claims.route.routingEpoch
  refundPolicy := policy

structure PythonVerifier where
  secret : String
  expectedIssuer : String
  expectedAudience : String
  expected : Scope
  /-- The texts that pydantic takes for integers. -/
  intOfText : String → Option ℤ

namespace PythonVerifier
variable (verifier : PythonVerifier)

/-- The claims of a token that `jwt` accepts, as far as both services check them alike. The clock's
time is cut to seconds. -/
def claims (readClaims : PyValue → Option ContextClaims) (assertion : Option jwt.Token)
    (now : ℤ) : Option ContextClaims := do
  let token ← assertion.filter fun token => 0 < jwt.len token ∧ jwt.len token ≤ maxLength
  let header ← jwt.getUnverifiedHeader token
  if header.1 ≠ "HS256" ∨ header.2 ≠ "cso-context+jwt" then none
  else do
    let payload ← jwt.decode verifier.secret verifier.expectedIssuer verifier.expectedAudience token
    let claims ← readClaims payload
    if (⟨claims.tenantId, claims.environmentId⟩ : Scope) = verifier.expected ∧
        Current 300 (now.tdiv 1000) claims.toRegistered then
      return claims
    else none

/-- The policy that a catalog holds for a binding. -/
def verifiedPolicy (catalog : Document) (catalogSha256 : String) :
    Option AgentRuntime.RefundPolicyBinding → Option (Option VerifiedRefundPolicy)
  | none => some none
  | some binding => (verifyRefundPolicy binding catalog catalogSha256).toOption.map some

/-- `HmacAgentRuntimeContextVerifier.verify`, with the catalog that policies are verified by. -/
def verifyAgentRuntime (catalog : Document) (catalogSha256 : String) (assertion : Option jwt.Token)
    (now : ℤ) : Option VerifiedContext := do
  let claims ← verifier.claims jwt (agentRuntimeClaims verifier.intOfText) assertion now
  let policy ← verifiedPolicy catalog catalogSha256 claims.refundPolicy
  return claims.verified policy

/-- `HmacKnowledgeRagContextVerifier.verify`. -/
def verifyKnowledgeRag (assertion : Option jwt.Token) (now : ℤ) : Option VerifiedContext := do
  let claims ← verifier.claims jwt (knowledgeRagClaims verifier.intOfText) assertion now
  return claims.verified none

end PythonVerifier

/-! An assertion of the edge as a service. -/

structure ServiceAccessContext where
  tenantId : String
  environmentId : String
  subjectCustomerId : String
  routingEpoch : ℤ
  requestId : String
  traceId : String
  deriving DecidableEq, Repr

def ServiceClaims.access (claims : ServiceClaims) : ServiceAccessContext where
  tenantId := claims.tenantId
  environmentId := claims.environmentId
  subjectCustomerId := claims.subjectCustomerId
  routingEpoch := claims.routingEpoch
  requestId := claims.requestId
  traceId := claims.traceId

structure ServiceVerifier where
  secret : String
  expectedIssuer : String
  expectedAudience : String
  expected : Scope

/-- `createHmacServiceAssertionVerifier`. -/
def ServiceVerifier.verify (verifier : ServiceVerifier) (assertion : Option jwt.Token) (now : ℤ) :
    Option ServiceAccessContext :=
  verifyClaims jwt verifier.secret
    ⟨"cso-service+jwt", verifier.expectedIssuer, verifier.expectedAudience⟩ ServiceClaims.read
    (fun claims => (⟨claims.tenantId, claims.environmentId⟩ : Scope) = verifier.expected ∧
      Current 300 (now / 1000) claims.toRegistered)
    ServiceClaims.access assertion now

/-! The access of a workflow to the gateway. -/

structure WorkflowVerifier where
  secret : String
  expectedIssuer : String
  expectedAudience : String
  expected : Scope

/-- A workflow is an order's context of its own, in the first epoch. -/
def AccessClaims.access (claims : AccessClaims) : AccessContext where
  contextId := claims.workflowId
  tenantId := claims.tenantId
  environmentId := claims.environmentId
  subjectCustomerId := claims.customerId
  routingEpoch := 1
  requestId := claims.requestId
  traceId := claims.traceId

/-- The purposes that the gateway knows. -/
def gatewayPurposes : List String := ["refund_fact_refresh", "refund_execute", "refund_reconcile"]

/-- `createHmacWorkflowAccessAssertionVerifier` of the gateway, for one purpose. -/
def WorkflowVerifier.verify (verifier : WorkflowVerifier) (expectedPurpose : WorkflowPurpose)
    (assertion : Option jwt.Token) (now : ℤ) : Option AccessContext :=
  verifyClaims jwt verifier.secret
    ⟨"cso-workflow+jwt", verifier.expectedIssuer, verifier.expectedAudience⟩
    (AccessClaims.read 160 gatewayPurposes Registered.read)
    (fun claims => (⟨claims.tenantId, claims.environmentId⟩ : Scope) = verifier.expected ∧
      Current 300 (now / 1000) claims.toRegistered ∧ claims.purpose = expectedPurpose.text)
    AccessClaims.access assertion now

/-! The access of a workflow to Human Operations. -/

structure WorkflowCaseAccess where
  workflowId : String
  tenantId : String
  environmentId : String
  subjectCustomerId : String
  purpose : WorkflowPurpose
  deriving DecidableEq, Repr

def AccessClaims.caseAccess (purpose : WorkflowPurpose) (claims : AccessClaims) :
    WorkflowCaseAccess where
  workflowId := claims.workflowId
  tenantId := claims.tenantId
  environmentId := claims.environmentId
  subjectCustomerId := claims.customerId
  purpose := purpose

/-- The purposes that Human Operations knows. -/
def humanOperationsPurposes : List String := ["human_case_open", "human_case_close",
  "refund_evidence_open", "refund_evidence_read", "human_case_transition"]

/-- `createWorkflowCaseAccessVerifier`. It does not ask that the expiry is after the issue. -/
def WorkflowVerifier.verifyCase (verifier : WorkflowVerifier) (purpose : WorkflowPurpose)
    (assertion : Option jwt.Token) (now : ℤ) : Option WorkflowCaseAccess :=
  verifyClaims jwt verifier.secret
    ⟨"cso-workflow+jwt", verifier.expectedIssuer, verifier.expectedAudience⟩
    (AccessClaims.read 200 humanOperationsPurposes Registered.read)
    (fun claims => (⟨claims.tenantId, claims.environmentId⟩ : Scope) = verifier.expected ∧
      claims.purpose = purpose.text ∧
      ¬(now / 1000 + 30 < claims.iat ∨ claims.exp ≤ now / 1000 ∨ 60 < claims.exp - claims.iat))
    (AccessClaims.caseAccess purpose) assertion now

/-! The access of a customer to photos. -/

structure CustomerEvidenceAccess where
  tenantId : String
  environmentId : String
  subjectCustomerId : String
  workflowId : String
  deriving DecidableEq, Repr

def AccessClaims.evidenceAccess (claims : AccessClaims) : CustomerEvidenceAccess where
  tenantId := claims.tenantId
  environmentId := claims.environmentId
  subjectCustomerId := claims.customerId
  workflowId := claims.workflowId

structure EvidenceVerifier where
  secret : String
  issuer : String
  expected : Scope

def evidencePurposes : List String :=
  ["refund_evidence_read", "refund_evidence_upload", "refund_evidence_content"]

/-- `createEvidenceAccessVerifier`. -/
def EvidenceVerifier.verify (verifier : EvidenceVerifier) (purpose : EvidencePurpose)
    (assertion : Option jwt.Token) (now : ℤ) : Option CustomerEvidenceAccess :=
  verifyClaims jwt verifier.secret ⟨"cso-evidence+jwt", verifier.issuer, "human-operations-evidence"⟩
    (AccessClaims.read 200 evidencePurposes Registered.readNamed)
    (fun claims => claims.purpose = purpose.text ∧
      (⟨claims.tenantId, claims.environmentId⟩ : Scope) = verifier.expected ∧
      Current 60 (now / 1000) claims.toRegistered)
    AccessClaims.evidenceAccess assertion now

/-! The token of a customer. -/

def CustomerClaims.customer (claims : CustomerClaims) : AuthenticatedCustomer where
  principalId := claims.sub
  tenantId := claims.tenantId
  environmentId := claims.environmentId
  customerId := claims.customerId

structure CustomerVerifier where
  secret : String
  expectedIssuer : String
  expectedAudience : String
  expected : Scope

/-- `createLocalCustomerIdentityVerifier`. -/
def CustomerVerifier.verify (verifier : CustomerVerifier) (accessToken : Option jwt.Token)
    (now : ℤ) : Option AuthenticatedCustomer :=
  verifyClaims jwt verifier.secret
    ⟨"cso-local-customer+jwt", verifier.expectedIssuer, verifier.expectedAudience⟩
    CustomerClaims.read
    (fun claims => (⟨claims.tenantId, claims.environmentId⟩ : Scope) = verifier.expected ∧
      claims.sub = claims.customerId ∧
      Current maxLocalCustomerTokenLifetimeSeconds (now / 1000) claims.toRegistered)
    CustomerClaims.customer accessToken now

/-! The assertion of a staff member. -/

def HumanClaims.access (claims : HumanClaims) : HumanAccess where
  staffId := claims.staffId
  tenantId := claims.tenantId
  environmentId := claims.environmentId
  role := claims.role

structure HumanVerifier where
  secret : String
  issuer : String
  audience : String
  expected : Scope

/-- `createHumanAssertionVerifier`. The library alone checks a time, with its own clock, and no token
is too long. -/
def HumanVerifier.verify (verifier : HumanVerifier) (assertion : Option jwt.Token) (now : ℤ) :
    Option HumanAccess := do
  let token ← assertion.filter fun token => 0 < jwt.length token
  let payload ← jwt.jwtVerify verifier.secret
    ⟨"cso-human+jwt", verifier.issuer, verifier.audience⟩ now token
  let claims ← HumanClaims.read payload
  if (⟨claims.tenantId, claims.environmentId⟩ : Scope) = verifier.expected then
    return claims.access
  else none

/-! What a verifier makes of a token that a service has signed. -/
section Signed
variable {jwt} {Claims Access : Type} {secret secret' typ : String} {checks : Checks}
  {payload : Document} {now : ℤ} {read : Value → Option Claims} {accepts : Claims → Prop}
  [DecidablePred accepts] {access : Claims → Access} {claims : Claims} {p : Prop} {a : Access}

theorem verifyClaims_eq_some {assertion : Option jwt.Token} :
    verifyClaims jwt secret checks read accepts access assertion now = some a ↔
      ∃ token value claims, assertion = some token ∧
        (0 < jwt.length token ∧ jwt.length token ≤ maxLength) ∧
        jwt.jwtVerify secret checks now token = some value ∧ read value = some claims ∧
        accepts claims ∧ access claims = a := by
  simp only [verifyClaims, verifiedPayload, Option.bind_eq_bind, Option.bind_eq_some_iff,
    Option.filter_eq_some_iff, decide_eq_true_eq, Option.ite_none_right_eq_some, Option.pure_def,
    Option.some.injEq]
  constructor
  · intro ⟨value, ⟨token, ⟨htoken, hlength⟩, hverify⟩, claims, hread, haccepts, ha⟩
    exact ⟨token, value, claims, htoken, hlength, hverify, hread, haccepts, ha⟩
  · intro ⟨token, value, claims, htoken, hlength, hverify, hread, haccepts, ha⟩
    exact ⟨value, ⟨token, ⟨htoken, hlength⟩, hverify⟩, claims, hread, haccepts, ha⟩

/-- A token of a service is accepted for its own type, issuer and audience only, and for the claims
that were signed. -/
theorem verifyClaims_sign (hread : Yields (read (JS.parse payload)) p claims)
    (h : verifyClaims jwt secret' checks read accepts access
      (some (jwt.sign secret typ payload)) now = some a) :
    mediaType typ = mediaType checks.typ ∧
      Addressed checks.issuer checks.audience (JS.parse payload) ∧ p ∧ accepts claims ∧
      access claims = a := by
  obtain ⟨token, value, claims', htoken, -, hverify, hclaims, haccepts, ha⟩ :=
    verifyClaims_eq_some.mp h
  obtain rfl := Option.some.inj htoken
  obtain ⟨rfl, htyp, haddressed, -⟩ := jwt.jwtVerify_sign hverify
  obtain ⟨hp, rfl⟩ := (hread claims').mp hclaims
  exact ⟨htyp, haddressed, hp, haccepts, ha⟩

/-- The registered claims of a payload, which no other time limits. -/
structure Signs (payload : Document) (registered : Registered) (fields : List (String × Value)) :
    Prop where
  parse : JS.parse payload = .obj fields
  iss : List.lookup "iss" fields = some (.str registered.iss)
  aud : List.lookup "aud" fields = some (.str registered.aud)
  exp : List.lookup "exp" fields = some (JS.parse (JS.integer registered.exp))
  nbf : List.lookup "nbf" fields = none

theorem Addressed.eq {registered : Registered} {fields : List (String × Value)}
    (hsigns : Signs payload registered fields) {issuer audience : String}
    (h : Addressed issuer audience (JS.parse payload)) :
    registered.iss = issuer ∧ registered.aud = audience := by
  obtain ⟨hiss, haud⟩ := h
  rw [hsigns.parse] at hiss haud
  simp only [JS.JsonTree.fields?, Option.bind_some, hsigns.iss, hsigns.aud, JS.JsonTree.string?,
    Option.some.injEq] at hiss haud
  exact ⟨hiss, haud _ rfl⟩

/-- A token that is not expired is accepted by the verifier that it is for. -/
theorem verifyClaims_own {registered : Registered} {fields : List (String × Value)}
    (hsigns : Signs payload registered fields)
    (hread : Yields (read (JS.parse payload)) p claims) (hp : p) (haccepts : accepts claims)
    (hlength : 0 < jwt.length (jwt.sign secret checks.typ payload) ∧
      jwt.length (jwt.sign secret checks.typ payload) ≤ maxLength)
    (hsecret : secret' = secret) (hiss : registered.iss = checks.issuer)
    (haud : registered.aud = checks.audience)
    (hsafe : registered.exp.natAbs ≤ 9007199254740991) (hnow : now / 1000 < registered.exp) :
    verifyClaims jwt secret' checks read accepts access
      (some (jwt.sign secret checks.typ payload)) now = some (access claims) := by
  subst hsecret
  have hverify : jwt.jwtVerify secret' checks now (jwt.sign secret' checks.typ payload) =
      some (JS.parse payload) :=
    jwt.jwtVerify_own hsigns.parse (hiss ▸ hsigns.iss) (haud ▸ hsigns.aud) hsigns.exp hsafe hnow
      hsigns.nbf
  exact verifyClaims_eq_some.mpr ⟨_, _, claims, rfl, hlength, hverify, (hread claims).mpr ⟨hp, rfl⟩,
    haccepts, rfl⟩

theorem ContextClaims.signs (claims : ContextClaims) :
    ∃ fields, Signs claims.payload claims.toRegistered fields := by
  obtain ⟨registered, contextId, tenantId, environmentId, principalId, customerId, route, requestId,
    traceId, channelId, policy⟩ := claims
  cases policy with
  | none => exact ⟨_, rfl, rfl, rfl, rfl, rfl⟩
  | some policy => exact ⟨_, rfl, rfl, rfl, rfl, rfl⟩

theorem ServiceClaims.signs (claims : ServiceClaims) :
    ∃ fields, Signs claims.payload claims.toRegistered fields := ⟨_, rfl, rfl, rfl, rfl, rfl⟩

theorem AccessClaims.signs (claims : AccessClaims) :
    ∃ fields, Signs claims.payload claims.toRegistered fields := ⟨_, rfl, rfl, rfl, rfl, rfl⟩

theorem CustomerClaims.signs (claims : CustomerClaims) :
    ∃ fields, Signs claims.payload claims.toRegistered fields := ⟨_, rfl, rfl, rfl, rfl, rfl⟩

end Signed
end CSO.Assertions
