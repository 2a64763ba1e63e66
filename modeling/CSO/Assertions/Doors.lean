import CSO.Assertions.Deployment

/-! An assertion opens its own door only. -/
namespace CSO.Assertions
open AgentRuntime (PyValue loads)
open JS (Document Value Yields isIdentifier)

/-- The kinds of assertions, by the types of their tokens. -/
inductive Kind
  | context
  | service
  | evidence
  | workflow
  | customer
  | human
  deriving DecidableEq, Repr

def Kind.typ : Kind → String
  | .context => "cso-context+jwt"
  | .service => "cso-service+jwt"
  | .evidence => "cso-evidence+jwt"
  | .workflow => "cso-workflow+jwt"
  | .customer => "cso-local-customer+jwt"
  | .human => "cso-human+jwt"

theorem Kind.mediaType_injective {kind kind' : Kind} (h : mediaType kind.typ = mediaType kind'.typ) :
    kind = kind' := by
  have hall : ∀ kind kind' : Kind, mediaType kind.typ = mediaType kind'.typ → kind = kind' := by
    intro kind kind'
    cases kind <;> cases kind' <;> decide
  exact hall kind kind' h

def Issue.kind : Issue → Kind
  | .context _ _ _ _ => .context
  | .service _ _ => .service
  | .evidence _ _ _ => .evidence
  | .refund _ _ => .workflow
  | .humanCase _ _ => .workflow
  | .customer _ _ => .customer
  | .human _ _ _ => .human

def Door.kind : Door → Kind
  | .context _ => .context
  | .service => .service
  | .evidence _ => .evidence
  | .refund _ => .workflow
  | .humanCase _ => .workflow
  | .customer => .customer
  | .human => .human

/-! The doors of a kind. -/

theorem Door.eq_context {door : Door} (h : Kind.context = door.kind) :
    ∃ target, door = .context target := by
  cases door <;> first | exact ⟨_, rfl⟩ | cases h

theorem Door.eq_service {door : Door} (h : Kind.service = door.kind) : door = .service := by
  cases door <;> first | rfl | cases h

theorem Door.eq_evidence {door : Door} (h : Kind.evidence = door.kind) :
    ∃ purpose, door = .evidence purpose := by
  cases door <;> first | exact ⟨_, rfl⟩ | cases h

theorem Door.eq_workflow {door : Door} (h : Kind.workflow = door.kind) :
    ∃ purpose, door = .refund purpose ∨ door = .humanCase purpose := by
  cases door <;> first | exact ⟨_, .inl rfl⟩ | exact ⟨_, .inr rfl⟩ | cases h

theorem Door.eq_customer {door : Door} (h : Kind.customer = door.kind) : door = .customer := by
  cases door <;> first | rfl | cases h

theorem Door.eq_human {door : Door} (h : Kind.human = door.kind) : door = .human := by
  cases door <;> first | rfl | cases h

/-- The time of a door's clock in seconds. Python cuts where JavaScript rounds down. -/
def Door.seconds (now : ℤ) : Door → ℤ
  | .context .agentRuntime => now.tdiv 1000
  | .context .knowledgeRag => now.tdiv 1000
  | _ => now / 1000

section Signed
variable {jwt : Jwt} {Claims Access : Type} {secret secret' typ : String} {checks : Checks}
  {payload : Document} {now : ℤ} {read : Value → Option Claims} {accepts : Claims → Prop}
  [DecidablePred accepts] {access : Claims → Access} {a : Access} {g : Grant}
  {door : Door} {deployment : Deployment}

theorem verifyClaims_addressed (h : verifyClaims jwt secret' checks read accepts access
    (some (jwt.sign secret typ payload)) now = some a) :
    mediaType typ = mediaType checks.typ ∧
      Addressed checks.issuer checks.audience (JS.parse payload) := by
  obtain ⟨token, value, claims, htoken, -, hverify, -⟩ := verifyClaims_eq_some.mp h
  obtain rfl := Option.some.inj htoken
  obtain ⟨-, htyp, haddressed, -⟩ := jwt.jwtVerify_sign hverify
  exact ⟨htyp, haddressed⟩

theorem PythonVerifier.claims_eq_some {verifier : PythonVerifier}
    {readClaims : PyValue → Option ContextClaims} {assertion : Option jwt.Token}
    {claims : ContextClaims} :
    verifier.claims jwt readClaims assertion now = some claims ↔
      ∃ token payload, assertion = some token ∧ (0 < jwt.len token ∧ jwt.len token ≤ maxLength) ∧
        jwt.getUnverifiedHeader token = some ("HS256", "cso-context+jwt") ∧
        jwt.decode verifier.secret verifier.expectedIssuer verifier.expectedAudience token =
          some payload ∧ readClaims payload = some claims ∧
        (⟨claims.tenantId, claims.environmentId⟩ : Scope) = verifier.expected ∧
        Current 300 (now.tdiv 1000) claims.toRegistered := by
  simp only [PythonVerifier.claims, Option.bind_eq_bind, Option.bind_eq_some_iff,
    Option.filter_eq_some_iff, decide_eq_true_eq, Option.ite_none_left_eq_some, Option.pure_def,
    Option.ite_none_right_eq_some, Option.some.injEq, not_or, not_not, ne_eq]
  constructor
  · intro ⟨token, ⟨htoken, hlength⟩, header, hheader, hnames, payload, hdecode, claims', hread,
      haccepts, hclaims⟩
    subst hclaims
    exact ⟨token, payload, htoken, hlength, hheader.trans (congrArg some (Prod.ext hnames.1 hnames.2)),
      hdecode, hread, haccepts⟩
  · intro ⟨token, payload, htoken, hlength, hheader, hdecode, hread, haccepts⟩
    exact ⟨token, ⟨htoken, hlength⟩, _, hheader, ⟨rfl, rfl⟩, payload, hdecode, claims, hread,
      haccepts, rfl⟩

theorem HumanVerifier.verify_eq_some {verifier : HumanVerifier} {assertion : Option jwt.Token}
    {access : HumanOperations.HumanAccess} :
    verifier.verify jwt assertion now = some access ↔
      ∃ token value claims, assertion = some token ∧ 0 < jwt.length token ∧
        jwt.jwtVerify verifier.secret ⟨"cso-human+jwt", verifier.issuer, verifier.audience⟩ now
          token = some value ∧ HumanClaims.read value = some claims ∧
        (⟨claims.tenantId, claims.environmentId⟩ : Scope) = verifier.expected ∧
        claims.access = access := by
  simp only [HumanVerifier.verify, Option.bind_eq_bind, Option.bind_eq_some_iff,
    Option.filter_eq_some_iff, decide_eq_true_eq, Option.ite_none_right_eq_some, Option.pure_def,
    Option.some.injEq]
  constructor
  · intro ⟨token, ⟨htoken, hlength⟩, value, hverify, claims, hread, hscope, haccess⟩
    exact ⟨token, value, claims, htoken, hlength, hverify, hread, hscope, haccess⟩
  · intro ⟨token, value, claims, htoken, hlength, hverify, hread, hscope, haccess⟩
    exact ⟨token, ⟨htoken, hlength⟩, value, hverify, claims, hread, hscope, haccess⟩

/-- A token opens no door of another type. -/
theorem grant_kind (kind : Kind)
    (h : deployment.grant jwt door (some (jwt.sign secret kind.typ payload)) now = some g) :
    kind = door.kind := by
  apply Kind.mediaType_injective
  have hpython {verifier : PythonVerifier} {readClaims : PyValue → Option ContextClaims}
      {claims : ContextClaims} (h : verifier.claims jwt readClaims
        (some (jwt.sign secret kind.typ payload)) now = some claims) :
      mediaType kind.typ = mediaType "cso-context+jwt" := by
    obtain ⟨token, -, htoken, -, hheader, -⟩ := PythonVerifier.claims_eq_some.mp h
    obtain rfl := Option.some.inj htoken
    rw [jwt.getUnverifiedHeader_sign] at hheader
    exact congrArg mediaType (Prod.mk.inj (Option.some.inj hheader)).2
  cases door with
  | context target =>
    cases target with
    | integrationGateway =>
      obtain ⟨access, haccess, -⟩ := Option.map_eq_some_iff.mp h
      exact (verifyClaims_addressed haccess).1
    | conversationRuntime =>
      obtain ⟨access, haccess, -⟩ := Option.map_eq_some_iff.mp h
      exact (verifyClaims_addressed haccess).1
    | agentRuntime =>
      obtain ⟨access, haccess, -⟩ := Option.map_eq_some_iff.mp h
      obtain ⟨claims, hclaims, -⟩ := Option.bind_eq_some_iff.mp haccess
      exact hpython hclaims
    | knowledgeRag =>
      obtain ⟨access, haccess, -⟩ := Option.map_eq_some_iff.mp h
      obtain ⟨claims, hclaims, -⟩ := Option.bind_eq_some_iff.mp haccess
      exact hpython hclaims
  | service =>
    obtain ⟨access, haccess, -⟩ := Option.map_eq_some_iff.mp h
    exact (verifyClaims_addressed haccess).1
  | evidence purpose =>
    obtain ⟨access, haccess, -⟩ := Option.map_eq_some_iff.mp h
    exact (verifyClaims_addressed haccess).1
  | refund purpose =>
    obtain ⟨access, haccess, -⟩ := Option.map_eq_some_iff.mp h
    exact (verifyClaims_addressed haccess).1
  | humanCase purpose =>
    obtain ⟨access, haccess, -⟩ := Option.map_eq_some_iff.mp h
    exact (verifyClaims_addressed haccess).1
  | customer =>
    obtain ⟨access, haccess, -⟩ := Option.map_eq_some_iff.mp h
    exact (verifyClaims_addressed haccess).1
  | human =>
    obtain ⟨access, haccess, -⟩ := Option.map_eq_some_iff.mp h
    obtain ⟨token, value, claims, htoken, -, hverify, -⟩ := HumanVerifier.verify_eq_some.mp haccess
    obtain rfl := Option.some.inj htoken
    exact (jwt.jwtVerify_sign hverify).2.1

end Signed

/-- The audience that a service of the deployment expects of a context. -/
def Deployment.expectedAudience (deployment : Deployment) : Target → String
  | .integrationGateway => "integration-gateway"
  | .agentRuntime => deployment.agentRuntime.expectedAudience
  | .knowledgeRag => deployment.knowledgeRag.expectedAudience
  | .conversationRuntime => deployment.conversation.contextAssertionAudience

/-- The edge addresses every service by a name of its own. -/
structure Deployment.Addresses (deployment : Deployment) : Prop where
  audience (target : Target) :
    deployment.edge.contextAssertionAudience target = deployment.expectedAudience target
  injective : Function.Injective deployment.edge.contextAssertionAudience

/-- The seconds in which an assertion is good: from half a minute before its issue until it
expires. -/
def Deployment.Good (deployment : Deployment) (issue : Issue) (seconds : ℤ) : Prop :=
  match issue with
  | .context _ _ _ now => now / 1000 ≤ seconds + 30 ∧ seconds < now / 1000 + 60
  | .service _ now => now / 1000 ≤ seconds + 30 ∧ seconds < now / 1000 + 60
  | .evidence _ _ now => now / 1000 ≤ seconds + 30 ∧ seconds < now / 1000 + 60
  | .refund _ now => now / 1000 ≤ seconds + 30 ∧ seconds < now / 1000 + 60
  | .humanCase _ now => now / 1000 ≤ seconds + 30 ∧ seconds < now / 1000 + 60
  | .customer _ now => now / 1000 ≤ seconds + 30 ∧
      seconds < now / 1000 + maxLocalCustomerTokenLifetimeSeconds
  | .human _ _ expires => seconds < expires / 1000 + deployment.humanSigner.expiresInSeconds

section Own
variable {jwt : Jwt} {deployment : Deployment} {door : Door} {token : jwt.Token} {now : ℤ} {g : Grant}

theorem current_iff {maximum seconds : ℤ} {registered : Registered} {issued lifetime : ℤ}
    (hiat : registered.iat = issued) (hexp : registered.exp = issued + lifetime)
    (hlifetime : 1 ≤ lifetime ∧ lifetime ≤ maximum) :
    Current maximum seconds registered ↔ issued ≤ seconds + 30 ∧ seconds < issued + lifetime := by
  unfold Current
  omega

/-- A context that is signed for a target opens the door of that target. -/
theorem grant_context (haddresses : deployment.Addresses) {target target' : Target}
    {input : ContextAssertionInput} {contextId : JS.Uuid} {issued : ℤ}
    (h : deployment.grant jwt (.context target') (some (jwt.sign
      (deployment.edge.contextSigner target).secret "cso-context+jwt"
      ((deployment.edge.contextSigner target).claims input contextId issued).payload)) now = some g) :
    target = target' := by
  set claims := (deployment.edge.contextSigner target).claims input contextId issued with hclaims
  apply haddresses.injective
  rw [haddresses.audience target']
  have haud : claims.aud = deployment.edge.contextAssertionAudience target := rfl
  obtain ⟨fields, hsigns⟩ := claims.signs
  rw [← haud]
  have hpython {verifier : PythonVerifier} {readClaims : PyValue → Option ContextClaims}
      {claims' : ContextClaims} {secret : String} (h : verifier.claims jwt readClaims
        (some (jwt.sign secret "cso-context+jwt" claims.payload)) now = some claims') :
      claims.aud = verifier.expectedAudience := by
    obtain ⟨token, payload, htoken, -, -, hdecode, -⟩ := PythonVerifier.claims_eq_some.mp h
    obtain rfl := Option.some.inj htoken
    obtain ⟨fields, hfields, hcarries⟩ := loads_payload claims
    have haddressed := (jwt.decode_sign hdecode).2.aud
    rw [hfields] at haddressed
    exact haddressed _ (by rw [JS.JsonTree.fields?, Option.bind_some, hcarries.aud]; rfl)
  cases target' with
  | integrationGateway =>
    obtain ⟨access, haccess, -⟩ := Option.map_eq_some_iff.mp h
    exact ((verifyClaims_addressed haccess).2.eq hsigns).2
  | conversationRuntime =>
    obtain ⟨access, haccess, -⟩ := Option.map_eq_some_iff.mp h
    exact ((verifyClaims_addressed haccess).2.eq hsigns).2
  | agentRuntime =>
    obtain ⟨access, haccess, -⟩ := Option.map_eq_some_iff.mp h
    obtain ⟨claims', hclaims', -⟩ := Option.bind_eq_some_iff.mp haccess
    exact hpython hclaims'
  | knowledgeRag =>
    obtain ⟨access, haccess, -⟩ := Option.map_eq_some_iff.mp h
    obtain ⟨claims', hclaims', -⟩ := Option.bind_eq_some_iff.mp haccess
    exact hpython hclaims'

/-- What the two services in Python read of a context that was signed for them. -/
theorem claims_own {verifier : PythonVerifier} {readClaims : PyValue → Option ContextClaims}
    {claims claims' : ContextClaims} {secret : String} {p : Prop}
    (hread : Yields (readClaims (loads claims.payload)) p claims)
    (h : verifier.claims jwt readClaims (some (jwt.sign secret "cso-context+jwt" claims.payload)) now =
      some claims') : claims = claims' ∧ Current 300 (now.tdiv 1000) claims.toRegistered := by
  obtain ⟨token, payload, htoken, -, -, hdecode, hclaims, -, hcurrent⟩ :=
    PythonVerifier.claims_eq_some.mp h
  obtain rfl := Option.some.inj htoken
  obtain ⟨rfl, -⟩ := jwt.decode_sign hdecode
  obtain ⟨-, rfl⟩ := (hread claims').mp hclaims
  exact ⟨rfl, hcurrent⟩

theorem context_own {target : Target} {input : ContextAssertionInput} {contextId : JS.Uuid}
    {issued : ℤ} (h : deployment.grant jwt (.context target) (some (jwt.sign
      (deployment.edge.contextSigner target).secret "cso-context+jwt"
      ((deployment.edge.contextSigner target).claims input contextId issued).payload)) now = some g) :
    deployment.meaning (.context target input contextId issued) = some g ∧
      deployment.Good (.context target input contextId issued) (Door.seconds now (.context target)) := by
  have hlifetime : (1 : ℤ) ≤ 60 ∧ (60 : ℤ) ≤ 300 := by norm_num
  cases target with
  | integrationGateway =>
    obtain ⟨access, haccess, rfl⟩ := Option.map_eq_some_iff.mp h
    obtain ⟨-, -, -, ⟨-, -, hcurrent⟩, rfl⟩ :=
      verifyClaims_sign (ContextClaims.read_payload rfl) haccess
    exact ⟨rfl, (current_iff rfl rfl hlifetime).mp hcurrent⟩
  | conversationRuntime =>
    obtain ⟨access, haccess, rfl⟩ := Option.map_eq_some_iff.mp h
    obtain ⟨-, -, -, ⟨-, -, hcurrent⟩, rfl⟩ :=
      verifyClaims_sign (ContextClaims.read_payload rfl) haccess
    exact ⟨rfl, (current_iff rfl rfl hlifetime).mp hcurrent⟩
  | agentRuntime =>
    obtain ⟨access, haccess, rfl⟩ := Option.map_eq_some_iff.mp h
    obtain ⟨claims', hclaims, hrest⟩ := Option.bind_eq_some_iff.mp haccess
    obtain ⟨policy, hpolicy, hverified⟩ := Option.bind_eq_some_iff.mp hrest
    obtain ⟨rfl, hcurrent⟩ := claims_own (agentRuntimeClaims_payload _) hclaims
    obtain rfl := Option.some.inj hverified
    exact ⟨Option.map_eq_some_iff.mpr ⟨policy, hpolicy, rfl⟩,
      (current_iff rfl rfl hlifetime).mp hcurrent⟩
  | knowledgeRag =>
    obtain ⟨access, haccess, rfl⟩ := Option.map_eq_some_iff.mp h
    obtain ⟨claims', hclaims, hverified⟩ := Option.bind_eq_some_iff.mp haccess
    obtain ⟨rfl, hcurrent⟩ := claims_own (knowledgeRagClaims_payload rfl) hclaims
    obtain rfl := Option.some.inj hverified
    exact ⟨rfl, (current_iff rfl rfl hlifetime).mp hcurrent⟩

theorem WorkflowPurpose.text_injective : Function.Injective WorkflowPurpose.text := by
  intro purpose purpose'
  cases purpose <;> cases purpose' <;> decide

theorem EvidencePurpose.text_injective : Function.Injective EvidencePurpose.text := by
  intro purpose purpose'
  cases purpose <;> cases purpose' <;> decide

/-- An assertion that a service has signed opens the door that it is for, as long as it is good, for
what it stands for, and no other. -/
theorem grant_own (haddresses : deployment.Addresses) {issue : Issue}
    (hsign : deployment.sign jwt issue = some token)
    (h : deployment.grant jwt door (some token) now = some g) :
    door = issue.door ∧ deployment.meaning issue = some g ∧
      deployment.Good issue (door.seconds now) := by
  have hlifetime : (1 : ℤ) ≤ 60 ∧ (60 : ℤ) ≤ 300 := by norm_num
  cases issue with
  | context target input contextId issued =>
    obtain ⟨-, hsigned⟩ := Option.ite_none_right_eq_some.mp hsign
    obtain rfl := Option.some.inj hsigned
    obtain ⟨target', rfl⟩ := Door.eq_context (grant_kind .context h)
    obtain rfl := grant_context haddresses h
    exact ⟨rfl, context_own h⟩
  | service input issued =>
    obtain ⟨-, hsigned⟩ := Option.ite_none_right_eq_some.mp hsign
    obtain rfl := Option.some.inj hsigned
    obtain rfl := Door.eq_service (grant_kind .service h)
    obtain ⟨access, haccess, rfl⟩ := Option.map_eq_some_iff.mp h
    obtain ⟨-, -, -, ⟨-, hcurrent⟩, rfl⟩ :=
      verifyClaims_sign (ServiceClaims.read_payload _) haccess
    exact ⟨rfl, rfl, (current_iff rfl rfl hlifetime).mp hcurrent⟩
  | evidence input purpose issued =>
    obtain ⟨-, hsigned⟩ := Option.ite_none_right_eq_some.mp hsign
    obtain rfl := Option.some.inj hsigned
    obtain ⟨purpose', rfl⟩ := Door.eq_evidence (grant_kind .evidence h)
    obtain ⟨access, haccess, rfl⟩ := Option.map_eq_some_iff.mp h
    obtain ⟨-, -, -, ⟨hpurpose, -, hcurrent⟩, rfl⟩ := verifyClaims_sign
      (AccessClaims.read_payload fun fields => Registered.readNamed_fields) haccess
    obtain rfl := EvidencePurpose.text_injective hpurpose
    exact ⟨rfl, rfl, (current_iff rfl rfl (by norm_num)).mp hcurrent⟩
  | refund input issued =>
    obtain ⟨-, hsigned⟩ := Option.ite_none_right_eq_some.mp hsign
    obtain rfl := Option.some.inj hsigned
    obtain ⟨purpose, rfl | rfl⟩ := Door.eq_workflow (grant_kind .workflow h)
    · obtain ⟨access, haccess, rfl⟩ := Option.map_eq_some_iff.mp h
      obtain ⟨-, -, -, ⟨-, hcurrent, hpurpose⟩, rfl⟩ := verifyClaims_sign
        (AccessClaims.read_payload fun fields => Registered.read_fields) haccess
      obtain rfl := WorkflowPurpose.text_injective hpurpose
      exact ⟨rfl, rfl, (current_iff rfl rfl hlifetime).mp hcurrent⟩
    · -- Human Operations is another audience.
      obtain ⟨access, haccess, -⟩ := Option.map_eq_some_iff.mp h
      obtain ⟨fields, hsigns⟩ :=
        AccessClaims.signs (deployment.workers.gatewaySigner.claims input issued)
      have haudience := ((verifyClaims_addressed haccess).2.eq hsigns).2
      exact absurd haudience (by simp [WorkersConfig.gatewaySigner, WorkflowSigner.claims,
        Deployment.caseVerifier])
  | humanCase input issued =>
    obtain ⟨-, hsigned⟩ := Option.ite_none_right_eq_some.mp hsign
    obtain rfl := Option.some.inj hsigned
    obtain ⟨purpose, rfl | rfl⟩ := Door.eq_workflow (grant_kind .workflow h)
    · -- The gateway is another audience.
      obtain ⟨access, haccess, -⟩ := Option.map_eq_some_iff.mp h
      obtain ⟨fields, hsigns⟩ :=
        AccessClaims.signs (deployment.workers.humanOperationsSigner.claims input issued)
      have haudience := ((verifyClaims_addressed haccess).2.eq hsigns).2
      exact absurd haudience (by simp [WorkersConfig.humanOperationsSigner, WorkflowSigner.claims,
        Deployment.workflowVerifier])
    · obtain ⟨access, haccess, rfl⟩ := Option.map_eq_some_iff.mp h
      obtain ⟨-, -, -, ⟨-, hpurpose, hcurrent⟩, rfl⟩ := verifyClaims_sign
        (AccessClaims.read_payload fun fields => Registered.read_fields) haccess
      obtain rfl := WorkflowPurpose.text_injective hpurpose
      simp only [WorkflowSigner.claims, WorkersConfig.humanOperationsSigner] at hcurrent
      refine ⟨rfl, rfl, ?_⟩
      simp only [Deployment.Good, Door.seconds]
      omega
  | customer identity issued =>
    obtain ⟨-, hsigned⟩ := Option.ite_none_right_eq_some.mp hsign
    obtain rfl := Option.some.inj hsigned
    obtain rfl := Door.eq_customer (grant_kind .customer h)
    obtain ⟨access, haccess, rfl⟩ := Option.map_eq_some_iff.mp h
    obtain ⟨-, -, -, ⟨-, -, hcurrent⟩, rfl⟩ :=
      verifyClaims_sign (CustomerClaims.read_payload _) haccess
    exact ⟨rfl, rfl, (current_iff rfl rfl EdgeConfig.customerLifetime).mp hcurrent⟩
  | human identity issued expires =>
    obtain rfl := Option.some.inj hsign
    obtain rfl := Door.eq_human (grant_kind .human h)
    obtain ⟨access, haccess, rfl⟩ := Option.map_eq_some_iff.mp h
    obtain ⟨token, value, claims, htoken, -, hverify, hclaims, -, rfl⟩ :=
      HumanVerifier.verify_eq_some.mp haccess
    obtain rfl := Option.some.inj htoken
    obtain ⟨rfl, -, -, hexpires⟩ := jwt.jwtVerify_sign hverify
    obtain ⟨hwell, rfl⟩ := (HumanClaims.read_payload rfl rfl claims).mp hclaims
    exact ⟨rfl, rfl, hexpires _ hwell.exp rfl⟩

end Own
end CSO.Assertions
