import CSO.Assertions.Opening
import CSO.Transition.History

/-! The deployment at work: what was signed, and what was opened. -/
namespace CSO.Assertions
open AgentRuntime (PyValue loads)
open JS (Document JsonTree Value integer)
open Transition (Always Machine)

/-- A service signed an assertion, or a token opened a door. -/
inductive Entry (jwt : Jwt)
  | signed (issue : Issue)
  | granted (door : Door) (token : jwt.Token) (now : ℤ) (grant : Grant)

/-- A service is asked to sign, or someone comes to a door, with a token or without. -/
inductive Event (jwt : Jwt)
  | sign (issue : Issue)
  | present (door : Door) (assertion : Option jwt.Token) (now : ℤ)

namespace Deployment
variable (deployment : Deployment) {jwt : Jwt}

/-- What the doors verify by. -/
def secrets : List String := [deployment.gateway.contextAssertion.secret,
  deployment.conversation.contextAssertion.secret, deployment.agentRuntime.secret,
  deployment.knowledgeRag.secret, deployment.conversation.edgeServiceAssertion.secret,
  deployment.humanOperations.contextAssertion.secret, deployment.gateway.workflowAccess.secret,
  deployment.humanOperations.workflow.secret, deployment.edge.localAuthSecret,
  deployment.humanOperations.humanAccess.secret]

/-- A token that was made without the secrets of the deployment. -/
structure Foreign (token : jwt.Token) : Prop where
  jwtVerify : ∀ secret ∈ deployment.secrets, ∀ checks now,
    jwt.jwtVerify secret checks now token = none
  decode : ∀ secret ∈ deployment.secrets, ∀ issuer audience,
    jwt.decode secret issuer audience token = none

/-- The token of an assertion that was signed. -/
def Signed (past : List (Entry jwt)) (token : jwt.Token) : Prop :=
  ∃ issue, .signed issue ∈ past ∧ deployment.sign jwt issue = some token

open Classical in
/-- The log of a deployment, newest entry first. Nobody without a secret forges a signature: a token
that comes to a door was signed by a service before, or is foreign. -/
noncomputable def network (jwt : Jwt) : Machine (List (Entry jwt)) (Event jwt) where
  step
    | past, .sign issue => if (deployment.sign jwt issue).isSome then some (.signed issue :: past)
        else none
    | past, .present door assertion now =>
      if ∀ token ∈ assertion, deployment.Signed past token ∨ deployment.Foreign token then
        match assertion, deployment.grant jwt door assertion now with
        | some token, some grant => some (.granted door token now grant :: past)
        | _, _ => some past
      else none

variable {deployment} {door door' : Door} {token : jwt.Token} {now : ℤ} {g : Grant}

/-- A foreign token opens nothing. -/
theorem grant_foreign (hforeign : deployment.Foreign token) :
    deployment.grant jwt door (some token) now = none := by
  rw [Option.eq_none_iff_forall_ne_some]
  intro g h
  have hverify {Claims Access : Type} {secret : String} {checks : Checks}
      {read : Value → Option Claims} {accepts : Claims → Prop} [DecidablePred accepts]
      {access : Claims → Access} {a : Access} (hsecret : secret ∈ deployment.secrets)
      (h : verifyClaims jwt secret checks read accepts access (some token) now = some a) : False := by
    obtain ⟨token', value, claims, htoken, -, hvalue, -⟩ := verifyClaims_eq_some.mp h
    obtain rfl := Option.some.inj htoken
    rw [hforeign.jwtVerify secret hsecret] at hvalue
    cases hvalue
  have hpython {verifier : PythonVerifier} {readClaims : PyValue → Option ContextClaims}
      {claims : ContextClaims} (hsecret : verifier.secret ∈ deployment.secrets)
      (h : verifier.claims jwt readClaims (some token) now = some claims) : False := by
    obtain ⟨token', payload, htoken, -, -, hdecode, -⟩ := PythonVerifier.claims_eq_some.mp h
    obtain rfl := Option.some.inj htoken
    rw [hforeign.decode _ hsecret] at hdecode
    cases hdecode
  cases door with
  | context target =>
    cases target with
    | integrationGateway =>
      obtain ⟨access, haccess, -⟩ := Option.map_eq_some_iff.mp h
      exact hverify (by simp [secrets, gatewayVerifier]) haccess
    | conversationRuntime =>
      obtain ⟨access, haccess, -⟩ := Option.map_eq_some_iff.mp h
      exact hverify (by simp [secrets, conversationVerifier]) haccess
    | agentRuntime =>
      obtain ⟨access, haccess, -⟩ := Option.map_eq_some_iff.mp h
      obtain ⟨claims, hclaims, -⟩ := Option.bind_eq_some_iff.mp haccess
      exact hpython (by simp [secrets]) hclaims
    | knowledgeRag =>
      obtain ⟨access, haccess, -⟩ := Option.map_eq_some_iff.mp h
      obtain ⟨claims, hclaims, -⟩ := Option.bind_eq_some_iff.mp haccess
      exact hpython (by simp [secrets]) hclaims
  | service =>
    obtain ⟨access, haccess, -⟩ := Option.map_eq_some_iff.mp h
    exact hverify (by simp [secrets, serviceVerifier]) haccess
  | evidence purpose =>
    obtain ⟨access, haccess, -⟩ := Option.map_eq_some_iff.mp h
    exact hverify (by simp [secrets, evidenceVerifier]) haccess
  | refund purpose =>
    obtain ⟨access, haccess, -⟩ := Option.map_eq_some_iff.mp h
    exact hverify (by simp [secrets, workflowVerifier]) haccess
  | humanCase purpose =>
    obtain ⟨access, haccess, -⟩ := Option.map_eq_some_iff.mp h
    exact hverify (by simp [secrets, caseVerifier]) haccess
  | customer =>
    obtain ⟨access, haccess, -⟩ := Option.map_eq_some_iff.mp h
    exact hverify (by simp [secrets, EdgeConfig.customerVerifier]) haccess
  | human =>
    obtain ⟨access, haccess, -⟩ := Option.map_eq_some_iff.mp h
    obtain ⟨token', value, claims, htoken, -, hvalue, -⟩ := HumanVerifier.verify_eq_some.mp haccess
    obtain rfl := Option.some.inj htoken
    have hsecret : deployment.humanVerifier.secret ∈ deployment.secrets := by
      simp [secrets, humanVerifier]
    rw [hforeign.jwtVerify _ hsecret] at hvalue
    cases hvalue

/-- A grant is of a token that was signed before. -/
def Justified (deployment : Deployment) (entry : Entry jwt) (past : List (Entry jwt)) : Prop :=
  ∀ door token now g, entry = .granted door token now g →
    deployment.grant jwt door (some token) now = some g ∧ deployment.Signed past token

/-- A step writes down what was signed, or a grant that an earlier signature justifies. -/
theorem network_step_cases {past log : List (Entry jwt)}
    {event : Event jwt} (h : (deployment.network jwt).step past event = some log) :
    log = past ∨ ∃ entry, log = entry :: past ∧ deployment.Justified entry past := by
  cases event with
  | sign issue =>
    obtain ⟨-, hlog⟩ := Option.ite_none_right_eq_some.mp h
    refine .inr ⟨.signed issue, (Option.some.inj hlog).symm, ?_⟩
    intro door token now grant hentry
    cases hentry
  | present door assertion now =>
    obtain ⟨hknown, hlog⟩ := Option.ite_none_right_eq_some.mp h
    cases assertion with
    | none => exact .inl (Option.some.inj hlog).symm
    | some token =>
      cases hgrant : deployment.grant jwt door (some token) now with
      | none =>
        rw [hgrant] at hlog
        exact .inl (Option.some.inj hlog).symm
      | some g =>
        rw [hgrant] at hlog
        refine .inr ⟨.granted door token now g, (Option.some.inj hlog).symm, ?_⟩
        intro door' token' now' g' hentry
        cases hentry
        rcases hknown token rfl with hsigned | hforeign
        · exact ⟨hgrant, hsigned⟩
        · rw [grant_foreign hforeign] at hgrant
          cases hgrant

theorem network_always {log : List (Entry jwt)}
    (h : (deployment.network jwt).Reachable (· = []) log) : Always deployment.Justified log := by
  apply h.invariant
  · intro log hlog
    subst hlog
    trivial
  · intro past event log hpast hstep
    rcases network_step_cases hstep with rfl | ⟨entry, rfl, hentry⟩
    · exact hpast
    · exact ⟨hentry, hpast⟩

theorem present_signed {past : List (Entry jwt)} (hsigned : deployment.Signed past token)
    (hgrant : deployment.grant jwt door (some token) now = some g) :
    (deployment.network jwt).step past (.present door (some token) now) =
      some (.granted door token now g :: past) := by
  have hknown : ∀ token' ∈ some token, deployment.Signed past token' ∨
      deployment.Foreign token' := by
    intro token' htoken
    obtain rfl := Option.mem_some_iff.mp htoken
    exact .inl hsigned
  simp only [network, if_pos hknown, hgrant]

theorem sign_step {past : List (Entry jwt)} {issue : Issue}
    (hsign : deployment.sign jwt issue = some token) :
    (deployment.network jwt).step past (.sign issue) = some (.signed issue :: past) := by
  simp [network, hsign]

end Deployment

/-! A deployment with tokens that can be computed. -/
namespace Sample

structure Token where
  secret : String
  typ : String
  payload : Document

def field {N : Type} (key : String) (value : JsonTree N) : Option (JsonTree N) :=
  value.fields?.bind (List.lookup key)

def Token.accepted (token : Token) (secret : String) (checks : Checks) (now : ℤ) : Bool :=
  token.secret = secret ∧ mediaType token.typ = mediaType checks.typ ∧
    (field "iss" (JS.parse token.payload)).bind JsonTree.string? = some checks.issuer ∧
    (field "aud" (JS.parse token.payload)).bind JsonTree.string? = some checks.audience ∧
    (∀ exp ∈ (field "exp" (JS.parse token.payload)).bind RefundPolicy.safeInteger?,
      now / 1000 < exp) ∧
    (field "nbf" (JS.parse token.payload)).isNone = true

def Token.decodes (token : Token) (secret issuer audience : String) : Bool :=
  token.secret = secret ∧
    (field "iss" (loads token.payload)).bind JsonTree.string? = some issuer ∧
    (field "aud" (loads token.payload)).bind JsonTree.string? = some audience

/-- A token shows its secret, and nobody makes one with a secret that they do not know. -/
def jwt : Jwt where
  Token := Token
  length _ := 600
  len _ := 600
  sign := Token.mk
  jwtVerify secret checks now token :=
    if token.accepted secret checks now then some (JS.parse token.payload) else none
  getUnverifiedHeader token := some ("HS256", token.typ)
  decode secret issuer audience token :=
    if token.decodes secret issuer audience then some (loads token.payload) else none
  jwtVerify_sign {secret secret' typ payload checks now value} h := by
    obtain ⟨haccepted, hvalue⟩ := Option.ite_none_right_eq_some.mp h
    obtain ⟨-, htyp, hiss, haud, hexp, -⟩ := of_decide_eq_true haccepted
    refine ⟨(Option.some.inj hvalue).symm, htyp, ⟨hiss, ?_⟩, ?_⟩
    · intro aud h
      exact Option.some.inj (h.symm.trans haud)
    · intro exp hsafe hfield
      apply hexp
      have hread : (field "exp" (JS.parse payload)).bind RefundPolicy.safeInteger? = some exp := by
        rw [field, hfield, Option.bind_some, safeInteger?_integer, if_pos hsafe]
      exact hread
  jwtVerify_own {secret payload checks now exp fields} hfields hiss haud hexp hsafe hnow hnbf := by
    have hfield (key : String) : field key (JS.parse payload) = List.lookup key fields := by
      rw [field, hfields]
      rfl
    refine if_pos (decide_eq_true ⟨rfl, rfl, ?_, ?_, ?_, ?_⟩)
    · rw [hfield, hiss]
      rfl
    · rw [hfield, haud]
      rfl
    · intro exp' hexp'
      rw [hfield, hexp, Option.bind_some, safeInteger?_integer, if_pos hsafe] at hexp'
      obtain rfl := Option.mem_some_iff.mp hexp'
      exact hnow
    · rw [hfield, hnbf]
      rfl
  getUnverifiedHeader_sign _ _ _ := rfl
  decode_sign {secret secret' typ issuer audience payload value} h := by
    obtain ⟨hdecodes, hvalue⟩ := Option.ite_none_right_eq_some.mp h
    obtain ⟨-, hiss, haud⟩ := of_decide_eq_true hdecodes
    refine ⟨(Option.some.inj hvalue).symm, hiss, ?_⟩
    intro aud h
    exact Option.some.inj (h.symm.trans haud)
  decode_own {secret typ issuer audience payload iat exp fields} hfields hiss haud _ _ _ := by
    have hfield (key : String) : field key (loads payload) = List.lookup key fields := by
      rw [field, hfields]
      rfl
    refine if_pos (decide_eq_true ⟨rfl, ?_, ?_⟩)
    · rw [hfield, hiss]
      rfl
    · rw [hfield, haud]
      rfl

def route : Route where
  homeRegion := "local"
  homeCell := "cell-1"
  routingEpoch := 1

def digest : String := "0123456789abcdef0123456789abcdef0123456789abcdef0123456789abcdef"

def binding : AgentRuntime.RefundPolicyBinding := ⟨"refund-policy-v1", digest⟩

def localAuthSecret : String := "local-auth-secret-of-thirty-two-bytes"
def contextSecret : String := "context-assertion-secret-of-32-bytes"
def edgeServiceSecret : String := "edge-service-assertion-secret-32-bytes"
def workflowSecret : String := "workflow-access-secret-of-32-bytes"
def humanWorkflowSecret : String := "human-operations-workflow-secret-32"
def humanSecret : String := "human-access-secret-of-at-least-32-bytes"

theorem secrets_long : Secret localAuthSecret ∧ Secret contextSecret ∧ Secret edgeServiceSecret ∧
    Secret workflowSecret ∧ Secret humanWorkflowSecret ∧ 32 ≤ JS.length humanSecret := by
  unfold Secret
  decide

theorem route_valid : route.Valid := by
  unfold Route.Valid
  decide

theorem binding_valid : PolicyValid binding := by
  unfold PolicyValid
  decide

theorem keys_apart : localAuthSecret ≠ contextSecret ∧ edgeServiceSecret ≠ localAuthSecret ∧
    edgeServiceSecret ≠ contextSecret := by decide

def audienceOf : Target → String
  | .integrationGateway => "integration-gateway"
  | .agentRuntime => "agent-runtime"
  | .knowledgeRag => "knowledge-rag"
  | .conversationRuntime => "conversation-runtime"

def edge : EdgeConfig where
  tenantId := "demo-retailer"
  environmentId := "local"
  localAuthSecret := localAuthSecret
  localAuthIssuer := "local-auth"
  localAuthAudience := "api-edge"
  contextAssertionSecret := contextSecret
  contextAssertionIssuer := "api-edge"
  contextAssertionAudience := audienceOf
  edgeServiceAssertionSecret := edgeServiceSecret
  edgeServiceAssertionIssuer := "api-edge"
  edgeServiceAssertionAudience := "conversation-runtime-service"
  route := route
  refundPolicy := binding
  localAuthLength := secrets_long.1
  contextLength := secrets_long.2.1
  serviceLength := secrets_long.2.2.1
  routeValid := route_valid
  policyValid := binding_valid
  contextKey := keys_apart.1
  serviceKey := keys_apart.2

def scope : Scope := ⟨"demo-retailer", "local"⟩

def contextTrusted : Trusted := ⟨contextSecret, "api-edge"⟩
def workflowTrusted : Trusted := ⟨workflowSecret, "workflow-workers"⟩
def humanWorkflowTrusted : Trusted := ⟨humanWorkflowSecret, "workflow-workers"⟩

theorem humanLifetime : (1 : ℤ) ≤ 900 := by norm_num

def python (audience : String) : PythonVerifier where
  secret := contextSecret
  expectedIssuer := "api-edge"
  expectedAudience := audience
  expected := scope
  intOfText _ := none

def deployment : Deployment where
  edge := edge
  gateway := ⟨scope, contextTrusted, workflowTrusted⟩
  conversation := ⟨scope, contextTrusted, "conversation-runtime", ⟨edgeServiceSecret, "api-edge"⟩,
    "conversation-runtime-service", keys_apart.2.2.symm⟩
  agentRuntime := python "agent-runtime"
  catalog := RefundPolicy.Sample.releases
  catalogSha256 := digest
  knowledgeRag := python "knowledge-rag"
  humanOperations := ⟨scope, ⟨humanSecret, "local-human-auth"⟩, humanWorkflowTrusted,
    contextTrusted⟩
  workers := ⟨workflowTrusted, humanWorkflowTrusted, secrets_long.2.2.2.1, secrets_long.2.2.2.2.1⟩
  humanSigner := ⟨humanSecret, "local-human-auth", "human-operations", 900,
    secrets_long.2.2.2.2.2, humanLifetime⟩

theorem addresses : deployment.Addresses where
  audience target := by cases target <;> rfl
  injective := by
    intro target target' h
    have hall : ∀ target target', audienceOf target = audienceOf target' → target = target' := by
      intro target target'
      cases target <;> cases target' <;> decide
    exact hall target target' h

theorem agrees : deployment.Agrees where
  toAddresses := addresses
  gatewayContext := rfl
  conversationContext := rfl
  evidence := rfl
  agentRuntime := ⟨rfl, rfl⟩
  knowledgeRag := ⟨rfl, rfl⟩
  service := rfl
  serviceAudience := rfl
  refund := rfl
  humanCase := rfl
  human := rfl
  humanAudience := rfl
  gatewayScope := rfl
  conversationScope := rfl
  agentRuntimeScope := rfl
  knowledgeRagScope := rfl
  humanOperationsScope := rfl
  contextName := by unfold IsName; decide
  contextAudience target := by cases target <;> (unfold IsName; decide)
  serviceNames := by unfold IsName; decide
  workerNames := by unfold IsName; decide
  customerNames := by unfold IsName; decide
  humanLifetime := by decide
  policy := by
    have hok : (AgentRuntime.verifyRefundPolicy binding RefundPolicy.Sample.releases
      digest).toOption.isSome = true := by decide
    cases h : AgentRuntime.verifyRefundPolicy binding RefundPolicy.Sample.releases digest with
    | error message =>
      rw [h] at hok
      cases hok
    | ok policy => exact ⟨policy, h⟩

def alice : AuthenticatedCustomer := ⟨"customer-1", "demo-retailer", "local", "customer-1"⟩

/-- Alice signs in. -/
def signIn : Issue := .customer alice 1700000000000

theorem proper : deployment.Proper signIn := by
  refine ⟨rfl, rfl, ?_, ?_⟩ <;> norm_num [JS.Date.maxTime]

theorem signed : ∃ token : jwt.Token, deployment.sign jwt signIn = some token ∧ Fits jwt token := by
  have hopaque : alice.Opaque := by
    unfold AuthenticatedCustomer.Opaque
    decide
  have hsign : deployment.sign jwt signIn = some (jwt.sign localAuthSecret "cso-local-customer+jwt"
      (edge.customerSigner.claims alice 1700000000000).payload) := by
    simp only [Deployment.sign, signIn, CustomerSigner.sign, if_pos hopaque]
    rfl
  refine ⟨_, hsign, ?_⟩
  unfold Fits
  simp [jwt, maxLength]

theorem good : deployment.Good signIn (Door.seconds 1700000010000 signIn.door) := by
  constructor <;> norm_num [Door.seconds, maxLocalCustomerTokenLifetimeSeconds, signIn, Issue.door]

/-- Alice comes ten seconds later. -/
theorem granted : ∃ log, (deployment.network jwt).Reachable (· = []) log ∧
    ∃ token g, .granted .customer token 1700000010000 g ∈ log := by
  obtain ⟨token, hsign, hfits⟩ := signed
  obtain ⟨g, -, hgrant⟩ := door_opens agrees proper hsign hfits good
  have hstart : (deployment.network jwt).Reachable (· = []) [] := Machine.reachable_init rfl
  have hsigned := hstart.step (Deployment.sign_step hsign)
  exact ⟨_, hsigned.step (Deployment.present_signed ⟨_, List.mem_cons_self, hsign⟩ hgrant), token, g,
    List.mem_cons_self⟩

end Sample

namespace Deployment
variable {deployment : Deployment} {jwt : Jwt} {door door' : Door} {token : jwt.Token} {now now' : ℤ}
  {g g' : Grant} {issue : Issue} {log : List (Entry jwt)}

/-- In every run, whoever opens a door has an assertion that a service signed before for this very
door, gets what that assertion stands for, and comes while it is good. -/
theorem granted_signed (haddresses : deployment.Addresses)
    (hreachable : (deployment.network jwt).Reachable (· = []) log) {later past : List (Entry jwt)}
    (hlog : log = later ++ .granted door token now g :: past) :
    ∃ issue, .signed issue ∈ past ∧ deployment.sign jwt issue = some token ∧ door = issue.door ∧
      deployment.meaning issue = some g ∧ deployment.Good issue (door.seconds now) := by
  have hjustified := Transition.always_iff.mp (network_always hreachable) _ _ _ hlog
  obtain ⟨hgrant, issue, hissue, hsign⟩ := hjustified door token now g rfl
  exact ⟨issue, hissue, hsign, grant_own haddresses hsign hgrant⟩

theorem granted_signed_alice :
    ∃ log : List (Entry Sample.jwt), (Sample.deployment.network Sample.jwt).Reachable (· = []) log ∧
      ∃ token g later past, log = later ++ .granted .customer token 1700000010000 g :: past ∧
        ∃ issue, .signed issue ∈ past ∧ Sample.deployment.sign Sample.jwt issue = some token ∧
          Door.customer = issue.door ∧ Sample.deployment.meaning issue = some g ∧
          Sample.deployment.Good issue (Door.seconds 1700000010000 .customer) := by
  obtain ⟨log, hreachable, token, g, hgranted⟩ := Sample.granted
  obtain ⟨later, past, hlog⟩ := List.append_of_mem hgranted
  exact ⟨log, hreachable, token, g, later, past, hlog,
    granted_signed Sample.addresses hreachable hlog⟩

/-- In a deployment whose services are configured for each other, a token opens exactly the door
that its assertion is for, with exactly what the assertion stands for, exactly while it is good. -/
theorem grant_iff (hagrees : deployment.Agrees) (hproper : deployment.Proper issue)
    (hsign : deployment.sign jwt issue = some token) (hfits : Fits jwt token) :
    deployment.grant jwt door (some token) now = some g ↔
      door = issue.door ∧ deployment.meaning issue = some g ∧
        deployment.Good issue (door.seconds now) := by
  constructor
  · exact grant_own hagrees.toAddresses hsign
  · intro ⟨hdoor, hmeaning, hgood⟩
    subst hdoor
    obtain ⟨g', hmeaning', hgrant⟩ := door_opens hagrees hproper hsign hfits hgood
    rw [hgrant, ← hmeaning', hmeaning]

theorem grant_iff_alice : ∃ token : Sample.jwt.Token, ∀ door now g,
    Sample.deployment.grant Sample.jwt door (some token) now = some g ↔
      door = .customer ∧ Sample.deployment.meaning Sample.signIn = some g ∧
        Sample.deployment.Good Sample.signIn (door.seconds now) := by
  obtain ⟨token, hsign, hfits⟩ := Sample.signed
  exact ⟨token, fun door now g => grant_iff Sample.agrees Sample.proper hsign hfits⟩

/-- Two doors never open to one token, and one door never for two things, whenever it comes. -/
theorem granted_once (haddresses : deployment.Addresses)
    (hreachable : (deployment.network jwt).Reachable (· = []) log)
    (hgranted : .granted door token now g ∈ log) (hgranted' : .granted door' token now' g' ∈ log) :
    door = door' ∧ g = g' := by
  obtain ⟨later, past, hlog⟩ := List.append_of_mem hgranted
  obtain ⟨later', past', hlog'⟩ := List.append_of_mem hgranted'
  have halways := Transition.always_iff.mp (network_always hreachable)
  obtain ⟨hgrant, issue, -, hsign⟩ := halways _ _ _ hlog door token now g rfl
  obtain ⟨hgrant', -⟩ := halways _ _ _ hlog' door' token now' g' rfl
  -- The assertion behind the one grant is behind the other.
  obtain ⟨hdoor, hmeaning, -⟩ := grant_own haddresses hsign hgrant
  obtain ⟨hdoor', hmeaning', -⟩ := grant_own haddresses hsign hgrant'
  exact ⟨hdoor.trans hdoor'.symm, Option.some.inj (hmeaning.symm.trans hmeaning')⟩

theorem granted_once_alice :
    ∃ log : List (Entry Sample.jwt), (Sample.deployment.network Sample.jwt).Reachable (· = []) log ∧
      ∃ token g, .granted .customer token 1700000010000 g ∈ log ∧
        ∀ door now g', .granted door token now g' ∈ log → Door.customer = door ∧ g = g' := by
  obtain ⟨log, hreachable, token, g, hlog⟩ := Sample.granted
  exact ⟨log, hreachable, token, g, hlog, fun door now g' hgranted =>
    granted_once Sample.addresses hreachable hlog hgranted⟩

end Deployment
end CSO.Assertions
