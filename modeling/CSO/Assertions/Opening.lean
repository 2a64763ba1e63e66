import CSO.Assertions.Doors

/-! Every assertion opens its door while it is good. -/
namespace CSO.Assertions
open AgentRuntime (loads)
open JS (Document JsonTree Uuid Value Yields isIdentifier)

/-! The texts that both languages accept. -/

theorem length_le (s : String) : s.length ≤ JS.length s := by
  have hlist : ∀ cs : List Char,
      cs.length ≤ (cs.map fun c => if c.toNat < 0x10000 then 1 else 2).sum := by
    intro cs
    induction cs with
    | nil => simp
    | cons c cs ih =>
      simp only [List.length_cons, List.map_cons, List.sum_cons]
      split_ifs <;> omega
  rw [← String.length_toList]
  exact hlist s.toList

theorem one_le_length {s : String} (h : 1 ≤ JS.length s) : 1 ≤ s.length := by
  rw [← String.length_toList]
  unfold JS.length at h
  cases hs : s.toList with
  | nil => simp [hs] at h
  | cons c cs => simp

theorem length_of_isIdentifier {limit : ℕ} {s : String} (h : isIdentifier limit s = true) :
    1 ≤ s.length ∧ s.length ≤ limit := by
  rw [← String.length_toList]
  unfold isIdentifier at h
  split at h
  · cases h
  · rename_i c cs hs
    simp only [Bool.and_eq_true, decide_eq_true_eq] at h
    rw [hs, List.length_cons]
    omega

theorem isIdentifier_mono {limit limit' : ℕ} {s : String} (hle : limit ≤ limit')
    (h : isIdentifier limit s = true) : isIdentifier limit' s = true := by
  unfold isIdentifier at h ⊢
  split at h
  · cases h
  · simp only [Bool.and_eq_true, decide_eq_true_eq] at h ⊢
    exact ⟨h.1, by omega⟩

theorem matches?_all (p : Char → Bool) {pattern : List (Char → Bool)} {cs : List Char}
    (hp : ∀ q ∈ pattern, ∀ c, q c = true → p c = true) (h : JS.matches? pattern cs = true) :
    cs.all p = true ∧ cs.length = pattern.length := by
  induction pattern generalizing cs with
  | nil => cases cs <;> simp_all [JS.matches?]
  | cons q pattern ih =>
    cases cs with
    | nil => simp [JS.matches?] at h
    | cons c cs =>
      simp only [JS.matches?, Bool.and_eq_true] at h
      obtain ⟨hall, hlength⟩ := ih (fun q' hq' => hp q' (List.mem_cons_of_mem q hq')) h.2
      have hc := hp q List.mem_cons_self c h.1
      simp [hall, hc, hlength]

theorem isLowerHex_isAlphanum {c : Char} (h : JS.isLowerHex c = true) : c.isAlphanum = true := by
  simp only [JS.isLowerHex, Bool.or_eq_true, Bool.and_eq_true, decide_eq_true_eq] at h
  simp only [Char.isAlphanum, Char.isAlpha, Char.isUpper, Char.isLower, Char.isDigit, Bool.or_eq_true,
    Bool.and_eq_true, decide_eq_true_eq] at h ⊢
  rcases h with h | ⟨hlow, hhigh⟩
  · exact .inr h
  · refine .inl (.inr ⟨hlow, le_trans hhigh ?_⟩)
    decide

/-- A random UUID is opaque. -/
theorem isIdentifier_uuid (uuid : Uuid) : isIdentifier 160 uuid.text = true := by
  let p : Char → Bool := fun c => c.isAlphanum || c ∈ ['.', '_', ':', '-']
  have hhex {c : Char} (hc : JS.isLowerHex c = true) : p c = true := by
    simp [p, isLowerHex_isAlphanum hc]
  obtain ⟨hall, hlength⟩ := matches?_all p (fun q hq c hc => by
    simp only [JS.uuidPattern, List.mem_append, List.mem_cons, List.mem_replicate] at hq
    have hcases : q = JS.isLowerHex ∨ q = (· == '-') ∨ q = (· == '4') ∨
        q = (fun c => c == '8' || c == '9' || c == 'a' || c == 'b') := by tauto
    rcases hcases with rfl | rfl | rfl | rfl
    · exact hhex hc
    · simp only [beq_iff_eq] at hc
      subst hc
      decide
    · simp only [beq_iff_eq] at hc
      subst hc
      decide
    · simp only [Bool.or_eq_true, beq_iff_eq] at hc
      rcases hc with ((rfl | rfl) | rfl) | rfl <;> decide) uuid.random
  -- The first character is a digit of the first group.
  have hrandom := uuid.random
  unfold isIdentifier
  cases hs : uuid.text.toList with
  | nil => simp [hs, JS.uuidPattern] at hlength
  | cons c cs =>
    rw [hs] at hrandom hall hlength
    have hfirst : JS.isLowerHex c = true := by
      simp only [JS.uuidPattern, List.replicate, List.cons_append, JS.matches?,
        Bool.and_eq_true] at hrandom
      exact hrandom.1
    have hpattern : cs.length + 1 = 36 := by simpa [JS.uuidPattern] using hlength
    rw [List.all_cons, Bool.and_eq_true] at hall
    simp only [Bool.and_eq_true, decide_eq_true_eq]
    exact ⟨⟨isLowerHex_isAlphanum hfirst, hall.2⟩, by omega⟩

/-- The tenant of the deployment. -/
def Deployment.scope (deployment : Deployment) : Scope :=
  ⟨deployment.edge.tenantId, deployment.edge.environmentId⟩

/-- What the schemas ask of an issuer and of an audience. -/
def IsName (text : String) : Prop := 1 ≤ JS.length text ∧ JS.length text ≤ 200

/-- The services are configured for each other: a verifier has the secret and the issuer of the
signer, all have one tenant, and the agent runtime has the catalog of the edge's policy. -/
structure Deployment.Agrees (deployment : Deployment) : Prop extends deployment.Addresses where
  gatewayContext : deployment.gateway.contextAssertion =
    ⟨deployment.edge.contextAssertionSecret, deployment.edge.contextAssertionIssuer⟩
  conversationContext : deployment.conversation.contextAssertion =
    ⟨deployment.edge.contextAssertionSecret, deployment.edge.contextAssertionIssuer⟩
  evidence : deployment.humanOperations.contextAssertion =
    ⟨deployment.edge.contextAssertionSecret, deployment.edge.contextAssertionIssuer⟩
  agentRuntime : deployment.agentRuntime.expectedIssuer = deployment.edge.contextAssertionIssuer ∧
    deployment.agentRuntime.secret = deployment.edge.contextAssertionSecret
  knowledgeRag : deployment.knowledgeRag.expectedIssuer = deployment.edge.contextAssertionIssuer ∧
    deployment.knowledgeRag.secret = deployment.edge.contextAssertionSecret
  service : deployment.conversation.edgeServiceAssertion =
    ⟨deployment.edge.edgeServiceAssertionSecret, deployment.edge.edgeServiceAssertionIssuer⟩
  serviceAudience : deployment.conversation.edgeServiceAssertionAudience =
    deployment.edge.edgeServiceAssertionAudience
  refund : deployment.gateway.workflowAccess = deployment.workers.workflowAccess
  humanCase : deployment.humanOperations.workflow = deployment.workers.humanOperationsWorkflow
  human : deployment.humanOperations.humanAccess =
    ⟨deployment.humanSigner.secret, deployment.humanSigner.issuer⟩
  humanAudience : deployment.humanSigner.audience = "human-operations"
  gatewayScope : deployment.gateway.scope = deployment.scope
  conversationScope : deployment.conversation.scope = deployment.scope
  agentRuntimeScope : deployment.agentRuntime.expected = deployment.scope
  knowledgeRagScope : deployment.knowledgeRag.expected = deployment.scope
  humanOperationsScope : deployment.humanOperations.scope = deployment.scope
  contextName : IsName deployment.edge.contextAssertionIssuer
  contextAudience (target : Target) : IsName (deployment.edge.contextAssertionAudience target)
  serviceNames : IsName deployment.edge.edgeServiceAssertionIssuer ∧
    IsName deployment.edge.edgeServiceAssertionAudience
  workerNames : IsName deployment.workers.workflowAccess.issuer ∧
    IsName deployment.workers.humanOperationsWorkflow.issuer
  customerNames : IsName deployment.edge.localAuthIssuer ∧ IsName deployment.edge.localAuthAudience
  humanLifetime : deployment.humanSigner.expiresInSeconds ≤ maxLocalCustomerTokenLifetimeSeconds
  policy : ∃ policy, AgentRuntime.verifyRefundPolicy deployment.edge.refundPolicy deployment.catalog
    deployment.catalogSha256 = .ok policy

/-- The clock of a signer shows a date of JavaScript from 1970 on. -/
def Dated (now : ℤ) : Prop := 0 ≤ now ∧ now ≤ JS.Date.maxTime

/-- What a signer is asked for is about the deployment's tenant, and of a purpose that its door knows;
a customer signs in as themself. -/
def Deployment.Proper (deployment : Deployment) : Issue → Prop
  | .context _ input _ now =>
    ⟨input.identity.tenantId, input.identity.environmentId⟩ = deployment.scope ∧ Dated now
  | .service input now =>
    ⟨input.identity.tenantId, input.identity.environmentId⟩ = deployment.scope ∧ Dated now
  | .evidence input _ now =>
    ⟨input.identity.tenantId, input.identity.environmentId⟩ = deployment.scope ∧ Dated now
  | .refund input now => ⟨input.access.tenantId, input.access.environmentId⟩ = deployment.scope ∧
      input.purpose.text ∈ gatewayPurposes ∧ Dated now
  | .humanCase input now => ⟨input.access.tenantId, input.access.environmentId⟩ = deployment.scope ∧
      input.purpose.text ∈ humanOperationsPurposes ∧ Dated now
  | .customer identity now => ⟨identity.tenantId, identity.environmentId⟩ = deployment.scope ∧
      identity.principalId = identity.customerId ∧ Dated now
  | .human identity issued expires =>
    ⟨identity.tenantId, identity.environmentId⟩ = deployment.scope ∧ identity.staffId ≠ "" ∧
      identity.tenantId ≠ "" ∧ identity.environmentId ≠ "" ∧ Dated issued ∧ Dated expires

/-- A token is as long as the verifiers allow. -/
def Fits (jwt : Jwt) (token : jwt.Token) : Prop :=
  (0 < jwt.length token ∧ jwt.length token ≤ maxLength) ∧
    (0 < jwt.len token ∧ jwt.len token ≤ maxLength)

section Opening
variable {jwt : Jwt} {deployment : Deployment} {token : jwt.Token} {now : ℤ}

theorem Dated.timed {issued lifetime : ℤ} (h : Dated issued) (registered : Registered)
    (hiat : registered.iat = issued / 1000) (hexp : registered.exp = issued / 1000 + lifetime)
    (hlifetime : 1 ≤ lifetime ∧ lifetime ≤ maxLocalCustomerTokenLifetimeSeconds) :
    registered.Timed ∧ registered.exp.natAbs ≤ 9007199254740991 := by
  obtain ⟨hlow, hhigh⟩ := h
  simp only [JS.Date.maxTime, maxLocalCustomerTokenLifetimeSeconds] at hhigh hlifetime
  exact ⟨⟨by omega, by omega⟩, by omega⟩

theorem minute : (1 : ℤ) ≤ 60 ∧ (60 : ℤ) ≤ maxLocalCustomerTokenLifetimeSeconds := by
  norm_num [maxLocalCustomerTokenLifetimeSeconds]

theorem ContextSigner.wellFormed {signer : ContextSigner} {input : ContextAssertionInput}
    {contextId : Uuid} {issued : ℤ} (hvalid : input.Valid) (hiss : IsName signer.issuer)
    (haud : IsName signer.audience) (htimed : (signer.claims input contextId issued).Timed) :
    (signer.claims input contextId issued).WellFormed where
  toTimed := htimed
  iss := hiss
  aud := haud
  contextId := isIdentifier_uuid contextId
  tenantId := hvalid.1.2.1
  environmentId := hvalid.1.2.2.1
  principalId := hvalid.1.1
  customerId := hvalid.1.2.2.2
  homeRegion := signer.routeValid.1
  homeCell := signer.routeValid.2.1
  routingEpoch := signer.routeValid.2.2
  requestId := hvalid.2.1
  traceId := hvalid.2.2.1
  channelId := hvalid.2.2.2.1

/-- What the schemas in TypeScript accept, the models in Python accept. -/
theorem ContextClaims.WellFormed.modelled {claims : ContextClaims} (h : claims.WellFormed)
    (hself : claims.principalId = claims.customerId) :
    claims.Modelled (isIdentifier 160 · = true) where
  contextId := h.contextId
  tenantId := h.tenantId
  environmentId := h.environmentId
  principalId := h.principalId
  customerId := h.customerId
  homeRegion := h.homeRegion
  homeCell := h.homeCell
  routingEpoch := h.routingEpoch.1
  requestId := h.requestId
  traceId := h.traceId
  channelId := h.channelId
  iss := ⟨one_le_length h.iss.1, (length_le _).trans h.iss.2⟩
  aud := ⟨one_le_length h.aud.1, (length_le _).trans h.aud.2⟩
  iat := h.iat.1
  exp := h.exp.1
  self := hself

theorem ContextClaims.Modelled.mono {p q : String → Prop} {claims : ContextClaims}
    (h : claims.Modelled p) (hpq : ∀ s, p s → q s) : claims.Modelled q where
  contextId := hpq _ h.contextId
  tenantId := hpq _ h.tenantId
  environmentId := hpq _ h.environmentId
  principalId := hpq _ h.principalId
  customerId := hpq _ h.customerId
  homeRegion := hpq _ h.homeRegion
  homeCell := hpq _ h.homeCell
  routingEpoch := h.routingEpoch
  requestId := hpq _ h.requestId
  traceId := hpq _ h.traceId
  channelId := hpq _ h.channelId
  iss := h.iss
  aud := h.aud
  iat := h.iat
  exp := h.exp
  self := h.self

/-- A service in Python reads the claims of a context that was signed for it. -/
theorem PythonVerifier.claims_sign {verifier : PythonVerifier} {claims : ContextClaims} {p : Prop}
    {readClaims : AgentRuntime.PyValue → Option ContextClaims} {secret : String}
    (hread : Yields (readClaims (loads claims.payload)) p claims) (hp : p)
    (hissuer : claims.iss = verifier.expectedIssuer)
    (haudience : claims.aud = verifier.expectedAudience) (hsecret : verifier.secret = secret)
    (hscope : (⟨claims.tenantId, claims.environmentId⟩ : Scope) = verifier.expected)
    (hcurrent : Current 300 (now.tdiv 1000) claims.toRegistered)
    (hfits : Fits jwt (jwt.sign secret "cso-context+jwt" claims.payload)) :
    verifier.claims jwt readClaims (some (jwt.sign secret "cso-context+jwt" claims.payload)) now =
      some claims := by
  obtain ⟨fields, hfields, hcarries⟩ := loads_payload claims
  have hother : ∀ key ∈ ["nbf", "sub", "jti"], List.lookup key fields = none := by
    intro key hkey
    have hnot : key ∉ fields.map Prod.fst := by
      rw [hcarries.keys]
      cases claims.refundPolicy with
      | none =>
        have hall : ∀ key ∈ ["nbf", "sub", "jti"], key ∉ ["contextVersion", "contextId", "tenant",
            "actor", "subject", "delegation", "purpose", "route", "request"] ++ [] ++
            Registered.keys := by decide
        exact hall key hkey
      | some policy =>
        have hall : ∀ key ∈ ["nbf", "sub", "jti"], key ∉ ["contextVersion", "contextId", "tenant",
            "actor", "subject", "delegation", "purpose", "route", "request"] ++ ["refundPolicy"] ++
            Registered.keys := by decide
        exact hall key hkey
    cases hlookup : List.lookup key fields with
    | none => rfl
    | some value =>
      exact absurd (List.mem_map.mpr ⟨_, JS.JsonTree.mem_of_lookup hlookup, rfl⟩) hnot
  have hdecode : jwt.decode verifier.secret verifier.expectedIssuer verifier.expectedAudience
      (jwt.sign verifier.secret "cso-context+jwt" claims.payload) = some (loads claims.payload) :=
    jwt.decode_own hfields (hissuer ▸ hcarries.iss) (haudience ▸ hcarries.aud) hcarries.iat
      hcarries.exp hother
  subst hsecret
  exact PythonVerifier.claims_eq_some.mpr ⟨_, _, rfl, hfits.2, jwt.getUnverifiedHeader_sign _ _ _,
    hdecode, (hread claims).mpr ⟨hp, rfl⟩, hscope, hcurrent⟩

theorem PolicyValid.bound {policy : AgentRuntime.RefundPolicyBinding} (h : PolicyValid policy) :
    Bound policy := ⟨one_le_length h.1.1, h.2⟩

theorem context_opens (hagrees : deployment.Agrees) {target : Target}
    {input : ContextAssertionInput} {contextId : Uuid} {issued : ℤ}
    (hproper : deployment.Proper (.context target input contextId issued))
    (hsign : deployment.sign jwt (.context target input contextId issued) = some token)
    (hfits : Fits jwt token)
    (hgood : deployment.Good (.context target input contextId issued)
      (Door.seconds now (.context target))) :
    ∃ g, deployment.meaning (.context target input contextId issued) = some g ∧
      deployment.grant jwt (.context target) (some token) now = some g := by
  obtain ⟨hscope, hdated⟩ := hproper
  obtain ⟨hvalid, hsigned⟩ := Option.ite_none_right_eq_some.mp hsign
  obtain rfl := Option.some.inj hsigned
  set claims := (deployment.edge.contextSigner target).claims input contextId issued with hclaims
  have hlifetime : (1 : ℤ) ≤ 60 ∧ (60 : ℤ) ≤ 300 := by norm_num
  obtain ⟨htimed, hsafe⟩ := hdated.timed claims.toRegistered rfl rfl minute
  have hwell : claims.WellFormed := ContextSigner.wellFormed hvalid hagrees.contextName
    (hagrees.contextAudience target) htimed
  have hself : claims.principalId = claims.customerId := hvalid.2.2.2.2
  have hcurrent : Current 300 (Door.seconds now (.context target)) claims.toRegistered :=
    (current_iff rfl rfl hlifetime).mpr hgood
  have haudience := hagrees.audience target
  obtain ⟨fields, hsigns⟩ := claims.signs
  cases target with
  | integrationGateway =>
    have hopens : deployment.gatewayVerifier.verify jwt (some (jwt.sign _ _ claims.payload)) now =
        some claims.access :=
      verifyClaims_own hsigns (ContextClaims.read_payload rfl) hwell
        ⟨hscope.trans hagrees.gatewayScope.symm, hself, hcurrent⟩ hfits.1
        (congrArg Trusted.secret hagrees.gatewayContext)
        (congrArg Trusted.issuer hagrees.gatewayContext).symm haudience hsafe hgood.2
    exact ⟨_, rfl, congrArg (Option.map Grant.context) hopens⟩
  | conversationRuntime =>
    have hopens : deployment.conversationVerifier.verify jwt
        (some (jwt.sign _ _ claims.payload)) now = some claims.access :=
      verifyClaims_own hsigns (ContextClaims.read_payload rfl) hwell
        ⟨hscope.trans hagrees.conversationScope.symm, hself, hcurrent⟩ hfits.1
        (congrArg Trusted.secret hagrees.conversationContext)
        (congrArg Trusted.issuer hagrees.conversationContext).symm haudience hsafe hgood.2
    exact ⟨_, rfl, congrArg (Option.map Grant.context) hopens⟩
  | agentRuntime =>
    obtain ⟨policy, hpolicy⟩ := hagrees.policy
    have hbound : ∀ binding ∈ claims.refundPolicy, Bound binding := by
      intro binding hbinding
      obtain rfl := Option.mem_some_iff.mp hbinding
      exact deployment.edge.policyValid.bound
    have hread : deployment.agentRuntime.claims jwt
        (agentRuntimeClaims deployment.agentRuntime.intOfText)
        (some (jwt.sign _ "cso-context+jwt" claims.payload)) now = some claims :=
      PythonVerifier.claims_sign (agentRuntimeClaims_payload claims)
      ⟨hwell.modelled hself, hbound⟩ hagrees.agentRuntime.1.symm haudience hagrees.agentRuntime.2
      (hscope.trans hagrees.agentRuntimeScope.symm) hcurrent hfits
    have hverified : PythonVerifier.verifiedPolicy deployment.catalog deployment.catalogSha256
        claims.refundPolicy = some (some policy) := by
      have hbinding : claims.refundPolicy = some deployment.edge.refundPolicy := rfl
      rw [hbinding, PythonVerifier.verifiedPolicy, hpolicy]
      rfl
    refine ⟨.verified (claims.verified (some policy)), ?_, ?_⟩
    · exact congrArg (Option.map fun policy => Grant.verified (claims.verified policy)) hverified
    · exact Option.map_eq_some_iff.mpr ⟨_, Option.bind_eq_some_iff.mpr ⟨claims, hread,
        Option.bind_eq_some_iff.mpr ⟨_, hverified, rfl⟩⟩, rfl⟩
  | knowledgeRag =>
    have hmodelled := (hwell.modelled hself).mono fun _ => length_of_isIdentifier
    have hread : deployment.knowledgeRag.claims jwt
        (knowledgeRagClaims deployment.knowledgeRag.intOfText)
        (some (jwt.sign _ "cso-context+jwt" claims.payload)) now = some claims :=
      PythonVerifier.claims_sign (knowledgeRagClaims_payload rfl) hmodelled
      hagrees.knowledgeRag.1.symm haudience hagrees.knowledgeRag.2
      (hscope.trans hagrees.knowledgeRagScope.symm) hcurrent hfits
    exact ⟨_, rfl, Option.map_eq_some_iff.mpr ⟨_, Option.bind_eq_some_iff.mpr ⟨claims, hread, rfl⟩,
      rfl⟩⟩

/-- Every assertion that is signed opens the door that it is for, as long as it is good. -/
theorem door_opens (hagrees : deployment.Agrees) {issue : Issue} (hproper : deployment.Proper issue)
    (hsign : deployment.sign jwt issue = some token) (hfits : Fits jwt token)
    (hgood : deployment.Good issue (issue.door.seconds now)) :
    ∃ g, deployment.meaning issue = some g ∧
      deployment.grant jwt issue.door (some token) now = some g := by
  have hlifetime : (1 : ℤ) ≤ 60 ∧ (60 : ℤ) ≤ 300 := by norm_num
  cases issue with
  | context target input contextId issued => exact context_opens hagrees hproper hsign hfits hgood
  | service input issued =>
    obtain ⟨hscope, hdated⟩ := hproper
    obtain ⟨hvalid, hsigned⟩ := Option.ite_none_right_eq_some.mp hsign
    obtain rfl := Option.some.inj hsigned
    set claims := deployment.edge.serviceSigner.claims input issued with hclaims
    obtain ⟨fields, hsigns⟩ := claims.signs
    obtain ⟨htimed, hsafe⟩ := hdated.timed claims.toRegistered rfl rfl minute
    have hwell : claims.WellFormed := ⟨⟨htimed, hagrees.serviceNames.1, hagrees.serviceNames.2⟩,
      hvalid.1.2.1, hvalid.1.2.2.1, hvalid.1.2.2.2, hvalid.2.1, hvalid.2.2.1,
      deployment.edge.routeValid.2.2⟩
    have hopens : deployment.serviceVerifier.verify jwt (some (jwt.sign _ _ claims.payload)) now =
        some claims.access :=
      verifyClaims_own hsigns claims.read_payload hwell
        ⟨hscope.trans hagrees.conversationScope.symm, (current_iff rfl rfl hlifetime).mpr hgood⟩
        hfits.1 (congrArg Trusted.secret hagrees.service)
        (congrArg Trusted.issuer hagrees.service).symm hagrees.serviceAudience.symm hsafe hgood.2
    exact ⟨_, rfl, congrArg (Option.map Grant.service) hopens⟩
  | evidence input purpose issued =>
    obtain ⟨hscope, hdated⟩ := hproper
    obtain ⟨hvalid, hsigned⟩ := Option.ite_none_right_eq_some.mp hsign
    obtain rfl := Option.some.inj hsigned
    set claims := deployment.edge.evidenceSigner.claims input purpose issued with hclaims
    obtain ⟨fields, hsigns⟩ := claims.signs
    obtain ⟨htimed, hsafe⟩ := hdated.timed claims.toRegistered rfl rfl minute
    have hpurpose : claims.purpose ∈ evidencePurposes := by
      simp only [hclaims, EvidenceSigner.claims]
      cases purpose <;> decide
    have hnamed : claims.Named 200 evidencePurposes := ⟨hvalid.2.2.1, hvalid.1.2.1, hvalid.1.2.2.1,
      hvalid.1.2.2.2, hpurpose, hvalid.2.2.2.1, hvalid.2.2.2.2⟩
    have hopens : deployment.evidenceVerifier.verify jwt purpose
        (some (jwt.sign _ _ claims.payload)) now = some claims.evidenceAccess :=
      verifyClaims_own hsigns (AccessClaims.read_payload fun fields => Registered.readNamed_fields)
        ⟨hnamed, htimed⟩ ⟨rfl, hscope.trans hagrees.humanOperationsScope.symm,
          (current_iff rfl rfl (by norm_num)).mpr hgood⟩
        hfits.1 (congrArg Trusted.secret hagrees.evidence)
        (congrArg Trusted.issuer hagrees.evidence).symm rfl hsafe hgood.2
    exact ⟨_, rfl, congrArg (Option.map Grant.evidence) hopens⟩
  | refund input issued =>
    obtain ⟨hscope, hpurpose, hdated⟩ := hproper
    obtain ⟨hvalid, hsigned⟩ := Option.ite_none_right_eq_some.mp hsign
    obtain rfl := Option.some.inj hsigned
    set claims := deployment.workers.gatewaySigner.claims input issued with hclaims
    obtain ⟨fields, hsigns⟩ := claims.signs
    obtain ⟨htimed, hsafe⟩ := hdated.timed claims.toRegistered rfl rfl minute
    have haudience : IsName "integration-gateway" := by
      unfold IsName
      decide
    have hwell : claims.toRegistered.WellFormed := ⟨htimed, hagrees.workerNames.1, haudience⟩
    have hnamed : claims.Named 160 gatewayPurposes := ⟨hvalid.2.2.2.2.2, hvalid.1, hvalid.2.1,
      hvalid.2.2.1, hpurpose, hvalid.2.2.2.1, hvalid.2.2.2.2.1⟩
    have hopens : deployment.workflowVerifier.verify jwt input.purpose
        (some (jwt.sign _ _ claims.payload)) now = some claims.access :=
      verifyClaims_own hsigns (AccessClaims.read_payload fun fields => Registered.read_fields)
        ⟨hnamed, hwell⟩ ⟨hscope.trans hagrees.gatewayScope.symm,
          (current_iff rfl rfl hlifetime).mpr hgood, rfl⟩
        hfits.1 (congrArg Trusted.secret hagrees.refund)
        (congrArg Trusted.issuer hagrees.refund).symm rfl hsafe hgood.2
    exact ⟨_, rfl, congrArg (Option.map Grant.context) hopens⟩
  | humanCase input issued =>
    obtain ⟨hscope, hpurpose, hdated⟩ := hproper
    obtain ⟨hvalid, hsigned⟩ := Option.ite_none_right_eq_some.mp hsign
    obtain rfl := Option.some.inj hsigned
    set claims := deployment.workers.humanOperationsSigner.claims input issued with hclaims
    obtain ⟨fields, hsigns⟩ := claims.signs
    obtain ⟨htimed, hsafe⟩ := hdated.timed claims.toRegistered rfl rfl minute
    have haudience : IsName "human-operations" := by
      unfold IsName
      decide
    have hwell : claims.toRegistered.WellFormed := ⟨htimed, hagrees.workerNames.2, haudience⟩
    have hnamed : claims.Named 200 humanOperationsPurposes :=
      ⟨isIdentifier_mono (by norm_num) hvalid.2.2.2.2.2, hvalid.1, hvalid.2.1, hvalid.2.2.1, hpurpose,
        hvalid.2.2.2.1, hvalid.2.2.2.2.1⟩
    have hcurrent : ¬(now / 1000 + 30 < claims.iat ∨ claims.exp ≤ now / 1000 ∨
        60 < claims.exp - claims.iat) := by
      simp only [Deployment.Good, Issue.door, Door.seconds] at hgood
      simp only [hclaims, WorkflowSigner.claims, WorkersConfig.humanOperationsSigner]
      omega
    have hopens : deployment.caseVerifier.verifyCase jwt input.purpose
        (some (jwt.sign _ _ claims.payload)) now = some (claims.caseAccess input.purpose) :=
      verifyClaims_own hsigns (AccessClaims.read_payload fun fields => Registered.read_fields)
        ⟨hnamed, hwell⟩ ⟨hscope.trans hagrees.humanOperationsScope.symm, rfl, hcurrent⟩
        hfits.1 (congrArg Trusted.secret hagrees.humanCase)
        (congrArg Trusted.issuer hagrees.humanCase).symm rfl hsafe hgood.2
    exact ⟨_, rfl, congrArg (Option.map Grant.humanCase) hopens⟩
  | customer identity issued =>
    obtain ⟨hscope, hself, hdated⟩ := hproper
    obtain ⟨hvalid, hsigned⟩ := Option.ite_none_right_eq_some.mp hsign
    obtain rfl := Option.some.inj hsigned
    set claims := deployment.edge.customerSigner.claims identity issued with hclaims
    obtain ⟨fields, hsigns⟩ := claims.signs
    obtain ⟨htimed, hsafe⟩ := hdated.timed claims.toRegistered rfl rfl
      ⟨EdgeConfig.customerLifetime.1, le_refl _⟩
    have hwell : claims.WellFormed := ⟨⟨htimed, hagrees.customerNames.1, hagrees.customerNames.2⟩,
      hvalid.1, hvalid.2.1, hvalid.2.2.1, hvalid.2.2.2⟩
    have hopens : deployment.edge.customerVerifier.verify jwt
        (some (jwt.sign _ _ claims.payload)) now = some claims.customer :=
      verifyClaims_own hsigns claims.read_payload hwell
        ⟨hscope, hself, (current_iff rfl rfl EdgeConfig.customerLifetime).mpr hgood⟩
        hfits.1 rfl rfl rfl hsafe hgood.2
    exact ⟨_, rfl, congrArg (Option.map Grant.customer) hopens⟩
  | human identity issued expires =>
    obtain ⟨hscope, hstaff, htenant, henvironment, hissued, hexpires⟩ := hproper
    obtain rfl := Option.some.inj hsign
    set claims := deployment.humanSigner.claims identity issued expires with hclaims
    have hsafe {time : ℤ} (htime : Dated time) (lifetime : ℤ)
        (hlifetime : 0 ≤ lifetime ∧ lifetime ≤ maxLocalCustomerTokenLifetimeSeconds) :
        (time / 1000 + lifetime).natAbs ≤ 9007199254740991 := by
      obtain ⟨hlow, hhigh⟩ := htime
      simp only [JS.Date.maxTime, maxLocalCustomerTokenLifetimeSeconds] at hhigh hlifetime
      omega
    have hexp := hsafe hexpires deployment.humanSigner.expiresInSeconds
      ⟨by have := deployment.humanSigner.lifetime; omega, hagrees.humanLifetime⟩
    have hiat := hsafe hissued 0 (by norm_num [maxLocalCustomerTokenLifetimeSeconds])
    rw [add_zero] at hiat
    have hwell : claims.WellFormed (issued / 1000)
        (expires / 1000 + deployment.humanSigner.expiresInSeconds) :=
      ⟨hstaff, htenant, henvironment, hiat, hexp⟩
    have hsecret : deployment.humanVerifier.secret = deployment.humanSigner.secret :=
      congrArg Trusted.secret hagrees.human
    have hissuer : deployment.humanSigner.issuer = deployment.humanVerifier.issuer :=
      (congrArg Trusted.issuer hagrees.human).symm
    have hverify : jwt.jwtVerify deployment.humanVerifier.secret
        ⟨"cso-human+jwt", deployment.humanVerifier.issuer, deployment.humanVerifier.audience⟩ now
        (jwt.sign deployment.humanSigner.secret "cso-human+jwt" claims.payload) =
          some (JS.parse claims.payload) := by
      rw [← hsecret]
      exact jwt.jwtVerify_own rfl (congrArg (some ∘ JsonTree.str) hissuer)
        (congrArg (some ∘ JsonTree.str) hagrees.humanAudience) rfl hexp hgood rfl
    have hopens : deployment.humanVerifier.verify jwt (some (jwt.sign _ _ claims.payload)) now =
        some claims.access := HumanVerifier.verify_eq_some.mpr ⟨_, _, claims, rfl, hfits.1.1,
      hverify, (HumanClaims.read_payload rfl rfl claims).mpr ⟨hwell, rfl⟩,
      hscope.trans hagrees.humanOperationsScope.symm, rfl⟩
    exact ⟨_, rfl, congrArg (Option.map Grant.human) hopens⟩

end Opening
end CSO.Assertions
