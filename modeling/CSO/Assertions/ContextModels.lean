import CSO.Assertions.Claims
import CSO.JS.Uuid

/-! The claims of a customer's context as the services in Python read them. -/
namespace CSO.Assertions
open AgentRuntime (Field PyValue PyNumber RefundPolicyBinding loads noExtra)
open JS (JsonTree Yields isIdentifier integer)

/-- What pydantic makes of an `int` field: an integer, a Boolean, a float without a fraction that fits
64 bits, or the text of an integer. -/
def laxInteger (intOfText : String → Option ℤ) : PyValue → Option ℤ
  | .num (.int n) => some n
  | .num (.float (.finite q)) =>
    if q.den = 1 ∧ -2 ^ 63 < q.num ∧ q.num < 2 ^ 63 then some q.num else none
  | .bool b => some (if b then 1 else 0)
  | .str s => intOfText s
  | _ => none

/-- `Literal` of one text. -/
def literalText (text : String) (value : PyValue) : Option Unit :=
  value.string?.bind fun s => if s = text then some () else none

/-- A text that passes a check. -/
def checkedText (check : String → Bool) (value : PyValue) : Option String :=
  value.string?.bind fun s => if check s then some s else none

/-- `OpaqueId`. -/
def opaqueText : PyValue → Option String := checkedText (isIdentifier 160)

/-- `Field(min_length=1, max_length=limit)`. -/
def shortText (limit : ℕ) : PyValue → Option String :=
  checkedText fun s => 1 ≤ s.length ∧ s.length ≤ limit

/-- The fields of a model, which allows no others. -/
def modelFields (model : List Field) (value : PyValue) : Option (List (String × PyValue)) :=
  value.fields?.filter (noExtra model)

namespace Model

def tenantId : Field := ⟨"tenantId", "tenant_id"⟩

def environmentId : Field := ⟨"environmentId", "environment_id"⟩

def kind : Field := ⟨"kind", "kind"⟩

def principalId : Field := ⟨"principalId", "principal_id"⟩

def customerId : Field := ⟨"customerId", "customer_id"⟩

def mode : Field := ⟨"mode", "mode"⟩

def homeRegion : Field := ⟨"homeRegion", "home_region"⟩

def homeCell : Field := ⟨"homeCell", "home_cell"⟩

def routingEpoch : Field := ⟨"routingEpoch", "routing_epoch"⟩

def requestId : Field := ⟨"requestId", "request_id"⟩

def traceId : Field := ⟨"traceId", "trace_id"⟩

def channelId : Field := ⟨"channelId", "channel_id"⟩

def contextVersion : Field := ⟨"contextVersion", "context_version"⟩

def contextId : Field := ⟨"contextId", "context_id"⟩

def tenant : Field := ⟨"tenant", "tenant"⟩

def actor : Field := ⟨"actor", "actor"⟩

def subject : Field := ⟨"subject", "subject"⟩

def delegation : Field := ⟨"delegation", "delegation"⟩

def purpose : Field := ⟨"purpose", "purpose"⟩

def route : Field := ⟨"route", "route"⟩

def request : Field := ⟨"request", "request"⟩

def refundPolicy : Field := ⟨"refundPolicy", "refund_policy"⟩

def iss : Field := ⟨"iss", "iss"⟩

def aud : Field := ⟨"aud", "aud"⟩

def iat : Field := ⟨"iat", "iat"⟩

def exp : Field := ⟨"exp", "exp"⟩

/-- The fields of `ContextAssertionClaims` of both services. -/
def claims : List Field := [contextVersion, contextId, tenant, actor, subject, delegation, purpose,
  route, request, iss, aud, iat, exp]

end Model

/-- `^[a-f0-9]{64}$`. -/
def isDigest (s : String) : Bool := JS.matches? (List.replicate 64 JS.isLowerHex) s.toList

namespace RefundPolicyBinding

def policyVersion : Field := ⟨"policyVersion", "policy_version"⟩

def catalogSha256 : Field := ⟨"catalogSha256", "catalog_sha256"⟩

/-- `RefundPolicyBinding.model_validate`. -/
def modelValidate (value : PyValue) : Option RefundPolicyBinding := do
  let fields ← modelFields [policyVersion, catalogSha256] value
  let version ← policyVersion.required fields (checkedText fun s => 1 ≤ s.length)
  let sha256 ← catalogSha256.required fields (checkedText isDigest)
  return ⟨version, sha256⟩

end RefundPolicyBinding

/-- `ContextAssertionClaims.model_validate`. The two services differ in what their identifiers are
and in whether they know a refund policy. -/
def contextModelValidate (intOfText : String → Option ℤ) (identifier : PyValue → Option String)
    (model : List Field) (readPolicy : List (String × PyValue) → Option (Option RefundPolicyBinding))
    (value : PyValue) : Option ContextClaims := do
  let fields ← modelFields model value
  let _ ← Model.contextVersion.required fields (literalText "1")
  let contextId ← Model.contextId.required fields identifier
  let tenant ← Model.tenant.required fields (modelFields [Model.tenantId, Model.environmentId])
  let tenantId ← Model.tenantId.required tenant identifier
  let environmentId ← Model.environmentId.required tenant identifier
  let actor ← Model.actor.required fields (modelFields [Model.kind, Model.principalId])
  let _ ← Model.kind.required actor (literalText "end_customer")
  let principalId ← Model.principalId.required actor identifier
  let subject ← Model.subject.required fields (modelFields [Model.customerId])
  let customerId ← Model.customerId.required subject identifier
  let delegation ← Model.delegation.required fields (modelFields [Model.mode])
  let _ ← Model.mode.required delegation (literalText "self")
  let _ ← Model.purpose.required fields (literalText "customer_support")
  let route ← Model.route.required fields
    (modelFields [Model.homeRegion, Model.homeCell, Model.routingEpoch])
  let homeRegion ← Model.homeRegion.required route identifier
  let homeCell ← Model.homeCell.required route identifier
  let routingEpoch ← Model.routingEpoch.required route fun value =>
    (laxInteger intOfText value).filter (1 ≤ ·)
  let request ← Model.request.required fields
    (modelFields [Model.requestId, Model.traceId, Model.channelId])
  let requestId ← Model.requestId.required request identifier
  let traceId ← Model.traceId.required request identifier
  let channelId ← Model.channelId.required request identifier
  let refundPolicy ← readPolicy fields
  let iss ← Model.iss.required fields (shortText 200)
  let aud ← Model.aud.required fields (shortText 200)
  let iat ← Model.iat.required fields fun value => (laxInteger intOfText value).filter (0 ≤ ·)
  let exp ← Model.exp.required fields fun value => (laxInteger intOfText value).filter (0 < ·)
  -- `validate_self_service_binding`
  if principalId ≠ customerId then none
  else return {
    route := { homeRegion, homeCell, routingEpoch }
    contextId, tenantId, environmentId, principalId, customerId, requestId, traceId, channelId
    refundPolicy, iss, aud, iat, exp }

/-- The claims of the agent runtime. A policy that is null is none. -/
def agentRuntimeClaims (intOfText : String → Option ℤ) : PyValue → Option ContextClaims :=
  contextModelValidate intOfText opaqueText (Model.claims ++ [Model.refundPolicy]) fun fields =>
    match Model.refundPolicy.find fields with
    | none => some none
    | some (_, .null) => some none
    | some (_, value) => (RefundPolicyBinding.modelValidate value).map some

/-- The claims of the knowledge service. -/
def knowledgeRagClaims (intOfText : String → Option ℤ) : PyValue → Option ContextClaims :=
  contextModelValidate intOfText (shortText 160) Model.claims fun _ => some none

/-! What the models make of a payload that was signed. -/
section Payload
variable {intOfText : String → Option ℤ} {fields : List (String × PyValue)}

theorem Yields.field {α : Type} {field : Field} {value : PyValue} {read : PyValue → Option α}
    {p : Prop} {a : α} (hlookup : List.lookup field.key fields = some value)
    (h : Yields (read value) p a) : Yields (field.required fields read) p a := by
  intro b
  rw [Field.required, Field.find, hlookup]
  exact h b

theorem checkedText_str {s : String} (check : String → Bool) :
    Yields (checkedText check (.str s)) (check s = true) s := by
  intro t
  simp [checkedText, JsonTree.string?]

theorem shortText_str {s : String} {limit : ℕ} :
    Yields (shortText limit (.str s)) (1 ≤ s.length ∧ s.length ≤ limit) s :=
  (checkedText_str _).congr decide_eq_true_iff

theorem literalText_str {s : String} : Yields (literalText s (.str s)) True () := by
  intro u
  simp [literalText, JsonTree.string?]

/-- Every key is the key of a field. -/
theorem modelFields_obj {model : List Field} (h : fields.map Prod.fst ⊆ model.map Field.key) :
    Yields (modelFields model (.obj fields)) True fields := by
  have hextra : noExtra model fields = true := by
    rw [noExtra, List.all_eq_true]
    intro entry hentry
    obtain ⟨field, hfield, hkey⟩ := List.mem_map.mp (h (List.mem_map_of_mem hentry))
    obtain ⟨value, hvalue⟩ := Option.isSome_iff_exists.mp (JsonTree.lookup_isSome hentry)
    rw [decide_eq_true_iff, List.mem_filterMap]
    refine ⟨field, hfield, ?_⟩
    rw [Field.find, hkey, hvalue]
    rfl
  intro other
  simp [modelFields, JsonTree.fields?, Option.filter, hextra]

theorem laxInteger_integer {n : ℤ} {p : ℤ → Bool} :
    Yields ((laxInteger intOfText (loads (integer n))).filter p) (p n = true) n := by
  have hloads : loads (integer n) = .num (.int n) := by
    have hliteral : PyNumber.ofLiteral ⟨decide (n < 0), n.natAbs, none, none⟩ = .int n := by
      rw [PyNumber.ofLiteral, JS.integer?_integer]
    exact congrArg JsonTree.num hliteral
  intro m
  rw [hloads, laxInteger, Option.filter_eq_some_iff, Option.some.injEq]
  constructor
  · intro ⟨hn, hp⟩
    exact ⟨hn ▸ hp, hn⟩
  · intro ⟨hp, hn⟩
    exact ⟨hn, hn ▸ hp⟩

end Payload

namespace ContextClaims

/-- What the model of the knowledge service asks of the claims. -/
structure Modelled (identifier : String → Prop) (claims : ContextClaims) : Prop where
  contextId : identifier claims.contextId
  tenantId : identifier claims.tenantId
  environmentId : identifier claims.environmentId
  principalId : identifier claims.principalId
  customerId : identifier claims.customerId
  homeRegion : identifier claims.route.homeRegion
  homeCell : identifier claims.route.homeCell
  routingEpoch : 1 ≤ claims.route.routingEpoch
  requestId : identifier claims.requestId
  traceId : identifier claims.traceId
  channelId : identifier claims.channelId
  iss : 1 ≤ claims.iss.length ∧ claims.iss.length ≤ 200
  aud : 1 ≤ claims.aud.length ∧ claims.aud.length ≤ 200
  iat : 0 ≤ claims.iat
  exp : 0 < claims.exp
  self : claims.principalId = claims.customerId

end ContextClaims

/-- The fields of a payload in Python. -/
structure Carries (claims : ContextClaims) (fields : List (String × PyValue)) : Prop where
  keys : fields.map Prod.fst = ["contextVersion", "contextId", "tenant", "actor", "subject",
    "delegation", "purpose", "route", "request"] ++
    (claims.refundPolicy.toList.map fun _ => "refundPolicy") ++ Registered.keys
  contextVersion : List.lookup "contextVersion" fields = some (.str "1")
  contextId : List.lookup "contextId" fields = some (.str claims.contextId)
  tenant : List.lookup "tenant" fields = some (.obj [("tenantId", .str claims.tenantId),
    ("environmentId", .str claims.environmentId)])
  actor : List.lookup "actor" fields =
    some (.obj [("kind", .str "end_customer"), ("principalId", .str claims.principalId)])
  subject : List.lookup "subject" fields = some (.obj [("customerId", .str claims.customerId)])
  delegation : List.lookup "delegation" fields = some (.obj [("mode", .str "self")])
  purpose : List.lookup "purpose" fields = some (.str "customer_support")
  route : List.lookup "route" fields = some (.obj [("homeRegion", .str claims.route.homeRegion),
    ("homeCell", .str claims.route.homeCell),
    ("routingEpoch", loads (integer claims.route.routingEpoch))])
  request : List.lookup "request" fields = some (.obj [("requestId", .str claims.requestId),
    ("traceId", .str claims.traceId), ("channelId", .str claims.channelId)])
  refundPolicy : List.lookup "refundPolicy" fields =
    claims.refundPolicy.map fun policy => loads (ContextClaims.binding policy)
  unnamed : List.lookup "refund_policy" fields = none
  iss : List.lookup "iss" fields = some (.str claims.iss)
  aud : List.lookup "aud" fields = some (.str claims.aud)
  iat : List.lookup "iat" fields = some (loads (integer claims.iat))
  exp : List.lookup "exp" fields = some (loads (integer claims.exp))

theorem loads_payload (claims : ContextClaims) :
    ∃ fields, loads claims.payload = .obj fields ∧ Carries claims fields := by
  obtain ⟨registered, contextId, tenantId, environmentId, principalId, customerId, route, requestId,
    traceId, channelId, policy⟩ := claims
  cases policy with
  | none =>
    exact ⟨_, rfl, ⟨rfl, rfl, rfl, rfl, rfl, rfl, rfl, rfl, rfl, rfl, rfl, rfl, rfl, rfl, rfl,
      rfl⟩⟩
  | some policy =>
    exact ⟨_, rfl, ⟨rfl, rfl, rfl, rfl, rfl, rfl, rfl, rfl, rfl, rfl, rfl, rfl, rfl, rfl, rfl,
      rfl⟩⟩

theorem Yields.unless {α : Type} {x : Option α} {p q : Prop} [Decidable q] {a : α}
    (h : Yields x p a) : Yields (if q then none else x) (¬q ∧ p) a := by
  intro b
  split_ifs with hq
  · simp [hq]
  · rw [h b, and_assoc]
    exact (and_iff_right hq).symm

/-- The model reads what was signed, if every claim is as it asks. -/
theorem contextModelValidate_payload {intOfText : String → Option ℤ}
    {identifier : PyValue → Option String} {isIdentifier : String → Prop} {model : List Field}
    {readPolicy : List (String × PyValue) → Option (Option RefundPolicyBinding)}
    {claims : ContextClaims} {fields : List (String × PyValue)} {p : Prop}
    (hidentifier : ∀ s, Yields (identifier (.str s)) (isIdentifier s) s)
    (hcarries : Carries claims fields) (hmodel : fields.map Prod.fst ⊆ model.map Field.key)
    (hpolicy : Yields (readPolicy fields) p claims.refundPolicy) :
    Yields (contextModelValidate intOfText identifier model readPolicy (.obj fields))
      (claims.Modelled isIdentifier ∧ p) claims := by
  refine Yields.congr ((modelFields_obj hmodel).bind <|
    (Yields.field hcarries.contextVersion literalText_str).bind <|
    (Yields.field hcarries.contextId (hidentifier _)).bind <|
    (Yields.field hcarries.tenant (modelFields_obj (List.Subset.refl _))).bind <|
    (Yields.field rfl (hidentifier _)).bind <|
    (Yields.field rfl (hidentifier _)).bind <|
    (Yields.field hcarries.actor (modelFields_obj (List.Subset.refl _))).bind <|
    (Yields.field rfl literalText_str).bind <|
    (Yields.field rfl (hidentifier _)).bind <|
    (Yields.field hcarries.subject (modelFields_obj (List.Subset.refl _))).bind <|
    (Yields.field rfl (hidentifier _)).bind <|
    (Yields.field hcarries.delegation (modelFields_obj (List.Subset.refl _))).bind <|
    (Yields.field rfl literalText_str).bind <|
    (Yields.field hcarries.purpose literalText_str).bind <|
    (Yields.field hcarries.route (modelFields_obj (List.Subset.refl _))).bind <|
    (Yields.field rfl (hidentifier _)).bind <|
    (Yields.field rfl (hidentifier _)).bind <|
    (Yields.field rfl laxInteger_integer).bind <|
    (Yields.field hcarries.request (modelFields_obj (List.Subset.refl _))).bind <|
    (Yields.field rfl (hidentifier _)).bind <|
    (Yields.field rfl (hidentifier _)).bind <|
    (Yields.field rfl (hidentifier _)).bind <|
    hpolicy.bind <|
    (Yields.field hcarries.iss shortText_str).bind <|
    (Yields.field hcarries.aud shortText_str).bind <|
    (Yields.field hcarries.iat laxInteger_integer).bind <|
    (Yields.field hcarries.exp laxInteger_integer).bind <|
    Yields.unless (Yields.pure _)) ?_
  simp only [decide_eq_true_eq, ne_eq, not_not]
  constructor
  · intro ⟨_, _, hcontext, _, htenant, henvironment, _, _, hprincipal, _, hcustomer, _, _, _, _,
      hregion, hcell, hepoch, _, hrequest, htrace, hchannel, hp, hiss, haud, hiat, hexp, hself, _⟩
    exact ⟨⟨hcontext, htenant, henvironment, hprincipal, hcustomer, hregion, hcell, hepoch,
      hrequest, htrace, hchannel, hiss, haud, hiat, hexp, hself⟩, hp⟩
  · intro ⟨h, hp⟩
    exact ⟨trivial, trivial, h.contextId, trivial, h.tenantId, h.environmentId, trivial, trivial,
      h.principalId, trivial, h.customerId, trivial, trivial, trivial, trivial, h.homeRegion,
      h.homeCell, h.routingEpoch, trivial, h.requestId, h.traceId, h.channelId, hp, h.iss, h.aud,
      h.iat, h.exp, h.self, trivial⟩

/-- What the model of a binding asks. -/
def Bound (policy : RefundPolicyBinding) : Prop :=
  1 ≤ policy.policyVersion.length ∧ isDigest policy.catalogSha256 = true

theorem refundPolicyBinding_payload (policy : RefundPolicyBinding) :
    Yields (RefundPolicyBinding.modelValidate (loads (ContextClaims.binding policy))) (Bound policy)
      policy := by
  refine Yields.congr ((modelFields_obj (List.Subset.refl _)).bind <|
    (Yields.field rfl (checkedText_str _)).bind <|
    (Yields.field rfl (checkedText_str _)).bind <| Yields.pure _) ?_
  rw [decide_eq_true_iff]
  constructor
  · intro ⟨_, hversion, hdigest, _⟩
    exact ⟨hversion, hdigest⟩
  · intro ⟨hversion, hdigest⟩
    exact ⟨trivial, hversion, hdigest, trivial⟩

/-- The agent runtime knows the refund policy. -/
theorem agentRuntimeClaims_payload {intOfText : String → Option ℤ} (claims : ContextClaims) :
    Yields (agentRuntimeClaims intOfText (loads claims.payload))
      (claims.Modelled (isIdentifier 160 · = true) ∧ ∀ policy ∈ claims.refundPolicy, Bound policy)
      claims := by
  obtain ⟨fields, hfields, hcarries⟩ := loads_payload claims
  rw [hfields]
  refine contextModelValidate_payload (fun s => checkedText_str _) hcarries ?_ ?_
  · rw [hcarries.keys]
    cases claims.refundPolicy with
    | none => decide
    | some policy =>
      rw [Option.toList_some, List.map_singleton]
      decide
  · intro found
    rw [Model.refundPolicy, Field.find, hcarries.refundPolicy, hcarries.unnamed]
    cases claims.refundPolicy with
    | none => simp
    | some policy =>
      have hpolicy := refundPolicyBinding_payload policy
      simp only [Option.map_some, Option.mem_some_iff, forall_eq']
      have hobj : loads (ContextClaims.binding policy) = .obj [("policyVersion",
          .str policy.policyVersion), ("catalogSha256", .str policy.catalogSha256)] := rfl
      rw [hobj] at hpolicy ⊢
      dsimp only
      rw [Option.map_eq_some_iff]
      constructor
      · intro ⟨read, hread, hfound⟩
        obtain ⟨hbound, rfl⟩ := (hpolicy read).mp hread
        exact ⟨hbound, hfound⟩
      · intro ⟨hbound, hfound⟩
        exact ⟨policy, (hpolicy policy).mpr ⟨hbound, rfl⟩, hfound⟩

/-- The knowledge service knows no refund policy. -/
theorem knowledgeRagClaims_payload {intOfText : String → Option ℤ} {claims : ContextClaims}
    (h : claims.refundPolicy = none) :
    Yields (knowledgeRagClaims intOfText (loads claims.payload))
      (claims.Modelled fun s => 1 ≤ s.length ∧ s.length ≤ 160) claims := by
  obtain ⟨fields, hfields, hcarries⟩ := loads_payload claims
  rw [hfields]
  refine Yields.congr (contextModelValidate_payload (fun s => shortText_str) hcarries ?_ ?_)
    (and_iff_left trivial)
  · rw [hcarries.keys, h]
    decide
  · rw [h]
    exact Yields.pure none

theorem find_key {field : Field} {fields : List (String × PyValue)} {found : String × PyValue}
    (h : field.find fields = some found) : found.1 ∈ [field.key, field.name] := by
  unfold Field.find at h
  split at h
  · obtain rfl := Option.some.inj h
    simp
  · obtain ⟨value, -, rfl⟩ := Option.map_eq_some_iff.mp h
    simp

/-- It refuses one. -/
theorem knowledgeRagClaims_policy {intOfText : String → Option ℤ} {claims : ContextClaims}
    (h : claims.refundPolicy ≠ none) :
    knowledgeRagClaims intOfText (loads claims.payload) = none := by
  obtain ⟨fields, hfields, hcarries⟩ := loads_payload claims
  obtain ⟨policy, hpolicy⟩ := Option.ne_none_iff_exists'.mp h
  have hmem : "refundPolicy" ∈ fields.map Prod.fst := by
    rw [hcarries.keys, hpolicy]
    simp
  obtain ⟨entry, hentry, hkey⟩ := List.mem_map.mp hmem
  have hextra : noExtra Model.claims fields = false := by
    rw [noExtra, List.all_eq_false]
    refine ⟨entry, hentry, ?_⟩
    rw [decide_eq_true_iff, hkey, List.mem_filterMap]
    intro ⟨field, hfield, hfound⟩
    obtain ⟨found, hfind, hname⟩ := Option.map_eq_some_iff.mp hfound
    have hnames : ∀ field ∈ Model.claims, "refundPolicy" ∉ [field.key, field.name] := by decide
    exact hnames field hfield (hname ▸ find_key hfind)
  have hmodel : modelFields Model.claims (.obj fields) = none := by
    simp [modelFields, JsonTree.fields?, Option.filter, hextra]
  rw [hfields, knowledgeRagClaims, contextModelValidate, hmodel]
  rfl

end CSO.Assertions
