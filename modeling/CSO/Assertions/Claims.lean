import CSO.AgentRuntime.PolicyCatalog
import CSO.HumanOperations.Case
import CSO.JS.Written

/-! What the assertions that the services sign for each other say, and the schemas of it. -/
namespace CSO.Assertions
open JS (Document Value JsonTree Yields isIdentifier integer literal)
open AgentRuntime (RefundPolicyBinding)
open HumanOperations (StaffRole)

/-- `opaqueId`. -/
def opaqueId : Value → Option String := JS.Form.readText (isIdentifier 160)

/-- `z.string().min(1).max(200)`. -/
def name : Value → Option String := JS.Form.readText fun s => 1 ≤ JS.length s ∧ JS.length s ≤ 200

theorem opaqueId_str {s : String} : Yields (opaqueId (.str s)) (isIdentifier 160 s = true) s :=
  JS.readText_str _

theorem name_str {s : String} :
    Yields (name (.str s)) (1 ≤ JS.length s ∧ JS.length s ≤ 200) s :=
  (JS.readText_str _).congr decide_eq_true_iff

theorem safeInteger?_integer {n : ℤ} : RefundPolicy.safeInteger? (JS.parse (integer n)) =
    if n.natAbs ≤ 9007199254740991 then some n else none :=
  JS.Number.safeInteger_ofLiteral (JS.integer?_integer n)

theorem nonNegativeInteger?_integer {n : ℤ} :
    Yields (RefundPolicy.nonNegativeInteger? (JS.parse (integer n)))
      (0 ≤ n ∧ n ≤ 9007199254740991) n := by
  intro m
  rw [RefundPolicy.nonNegativeInteger?, safeInteger?_integer, Option.filter_eq_some_iff]
  split_ifs with h
  · simp only [Option.some.injEq, decide_eq_true_eq]
    omega
  · simp only [false_and, false_iff]
    omega

theorem positiveInteger?_integer {n : ℤ} :
    Yields (RefundPolicy.positiveInteger? (JS.parse (integer n)))
      (0 < n ∧ n ≤ 9007199254740991) n := by
  intro m
  rw [RefundPolicy.positiveInteger?, safeInteger?_integer, Option.filter_eq_some_iff]
  split_ifs with h
  · simp only [Option.some.injEq, decide_eq_true_eq]
    omega
  · simp only [false_and, false_iff]
    omega

/-- The claims that every assertion has. -/
structure Registered where
  iss : String
  aud : String
  iat : ℤ
  exp : ℤ
  deriving DecidableEq, Repr

namespace Registered

def fields (registered : Registered) : List (String × Document) :=
  [("iss", .str registered.iss), ("aud", .str registered.aud), ("iat", integer registered.iat),
    ("exp", integer registered.exp)]

def keys : List String := ["iss", "aud", "iat", "exp"]

/-- What most schemas ask of these claims. -/
def read (fields : List (String × Value)) : Option Registered := do
  return {
    iss := ← JsonTree.required fields "iss" name
    aud := ← JsonTree.required fields "aud" name
    iat := ← JsonTree.required fields "iat" RefundPolicy.nonNegativeInteger?
    exp := ← JsonTree.required fields "exp" RefundPolicy.positiveInteger? }

/-- What the photo schema asks: the issuer and the audience are any strings. -/
def readNamed (fields : List (String × Value)) : Option Registered := do
  return {
    iss := ← JsonTree.required fields "iss" JsonTree.string?
    aud := ← JsonTree.required fields "aud" JsonTree.string?
    iat := ← JsonTree.required fields "iat" RefundPolicy.nonNegativeInteger?
    exp := ← JsonTree.required fields "exp" RefundPolicy.positiveInteger? }

/-- The times are as every schema asks. -/
structure Timed (registered : Registered) : Prop where
  iat : 0 ≤ registered.iat ∧ registered.iat ≤ 9007199254740991
  exp : 0 < registered.exp ∧ registered.exp ≤ 9007199254740991

structure WellFormed (registered : Registered) : Prop extends registered.Timed where
  iss : 1 ≤ JS.length registered.iss ∧ JS.length registered.iss ≤ 200
  aud : 1 ≤ JS.length registered.aud ∧ JS.length registered.aud ≤ 200

variable {registered : Registered} {fields : List (String × Value)}

theorem read_fields (hiss : List.lookup "iss" fields = some (.str registered.iss))
    (haud : List.lookup "aud" fields = some (.str registered.aud))
    (hiat : List.lookup "iat" fields = some (JS.parse (integer registered.iat)))
    (hexp : List.lookup "exp" fields = some (JS.parse (integer registered.exp))) :
    Yields (read fields) registered.WellFormed registered := by
  refine Yields.congr ((Yields.required hiss name_str).bind <|
    (Yields.required haud name_str).bind <|
    (Yields.required hiat nonNegativeInteger?_integer).bind <|
    (Yields.required hexp positiveInteger?_integer).bind <| Yields.pure _) ?_
  constructor
  · intro h
    exact ⟨⟨h.2.2.1, h.2.2.2.1⟩, h.1, h.2.1⟩
  · intro h
    exact ⟨h.iss, h.aud, h.iat, h.exp, trivial⟩

theorem readNamed_fields (hiss : List.lookup "iss" fields = some (.str registered.iss))
    (haud : List.lookup "aud" fields = some (.str registered.aud))
    (hiat : List.lookup "iat" fields = some (JS.parse (integer registered.iat)))
    (hexp : List.lookup "exp" fields = some (JS.parse (integer registered.exp))) :
    Yields (readNamed fields) registered.Timed registered := by
  have hstring (s : String) : Yields (JsonTree.string? (.str s : Value)) True s := by
    intro t
    simp [JsonTree.string?]
  refine Yields.congr ((Yields.required hiss (hstring _)).bind <|
    (Yields.required haud (hstring _)).bind <|
    (Yields.required hiat nonNegativeInteger?_integer).bind <|
    (Yields.required hexp positiveInteger?_integer).bind <| Yields.pure _) ?_
  constructor
  · intro h
    exact ⟨h.2.2.1, h.2.2.2.1⟩
  · intro h
    exact ⟨trivial, trivial, h.iat, h.exp, trivial⟩

end Registered

/-! The context of a customer. -/

structure Route where
  homeRegion : String
  homeCell : String
  routingEpoch : ℤ
  deriving DecidableEq, Repr

structure ContextClaims extends Registered where
  contextId : String
  tenantId : String
  environmentId : String
  principalId : String
  customerId : String
  route : Route
  requestId : String
  traceId : String
  channelId : String
  refundPolicy : Option RefundPolicyBinding
  deriving DecidableEq, Repr

namespace ContextClaims

def binding (policy : RefundPolicyBinding) : Document :=
  .obj [("policyVersion", .str policy.policyVersion), ("catalogSha256", .str policy.catalogSha256)]

/-- The payload that the edge signs. -/
def payload (claims : ContextClaims) : Document :=
  .obj ([("contextVersion", .str "1"),
    ("contextId", .str claims.contextId),
    ("tenant", .obj [("tenantId", .str claims.tenantId),
      ("environmentId", .str claims.environmentId)]),
    ("actor", .obj [("kind", .str "end_customer"), ("principalId", .str claims.principalId)]),
    ("subject", .obj [("customerId", .str claims.customerId)]),
    ("delegation", .obj [("mode", .str "self")]),
    ("purpose", .str "customer_support"),
    ("route", .obj [("homeRegion", .str claims.route.homeRegion),
      ("homeCell", .str claims.route.homeCell),
      ("routingEpoch", integer claims.route.routingEpoch)]),
    ("request", .obj [("requestId", .str claims.requestId), ("traceId", .str claims.traceId),
      ("channelId", .str claims.channelId)])] ++
    (claims.refundPolicy.toList.map fun policy => ("refundPolicy", binding policy)) ++
    claims.toRegistered.fields)

/-- The keys that `trustedContextClaimsSchema` allows. -/
def keys : List String := ["contextVersion", "contextId", "tenant", "actor", "subject",
  "delegation", "purpose", "route", "request"] ++ Registered.keys

/-- `trustedContextClaimsSchema`. It knows no refund policy. -/
def read (value : Value) : Option ContextClaims := do
  let fields ← JS.Form.readStrict keys value
  let _ ← JsonTree.required fields "contextVersion" (literal "1")
  let contextId ← JsonTree.required fields "contextId" opaqueId
  let tenant ← JsonTree.required fields "tenant"
    (JS.Form.readStrict ["tenantId", "environmentId"])
  let tenantId ← JsonTree.required tenant "tenantId" opaqueId
  let environmentId ← JsonTree.required tenant "environmentId" opaqueId
  let actor ← JsonTree.required fields "actor" (JS.Form.readStrict ["kind", "principalId"])
  let _ ← JsonTree.required actor "kind" (literal "end_customer")
  let principalId ← JsonTree.required actor "principalId" opaqueId
  let subject ← JsonTree.required fields "subject" (JS.Form.readStrict ["customerId"])
  let customerId ← JsonTree.required subject "customerId" opaqueId
  let delegation ← JsonTree.required fields "delegation" (JS.Form.readStrict ["mode"])
  let _ ← JsonTree.required delegation "mode" (literal "self")
  let _ ← JsonTree.required fields "purpose" (literal "customer_support")
  let route ← JsonTree.required fields "route"
    (JS.Form.readStrict ["homeRegion", "homeCell", "routingEpoch"])
  let homeRegion ← JsonTree.required route "homeRegion" opaqueId
  let homeCell ← JsonTree.required route "homeCell" opaqueId
  let routingEpoch ← JsonTree.required route "routingEpoch" RefundPolicy.positiveInteger?
  let registered ← Registered.read fields
  let request ← JsonTree.required fields "request"
    (JS.Form.readStrict ["requestId", "traceId", "channelId"])
  let requestId ← JsonTree.required request "requestId" opaqueId
  let traceId ← JsonTree.required request "traceId" opaqueId
  let channelId ← JsonTree.required request "channelId" opaqueId
  return {
    toRegistered := registered
    route := { homeRegion, homeCell, routingEpoch }
    refundPolicy := none
    contextId, tenantId, environmentId, principalId, customerId, requestId, traceId, channelId }

structure WellFormed (claims : ContextClaims) : Prop extends claims.toRegistered.WellFormed where
  contextId : isIdentifier 160 claims.contextId = true
  tenantId : isIdentifier 160 claims.tenantId = true
  environmentId : isIdentifier 160 claims.environmentId = true
  principalId : isIdentifier 160 claims.principalId = true
  customerId : isIdentifier 160 claims.customerId = true
  homeRegion : isIdentifier 160 claims.route.homeRegion = true
  homeCell : isIdentifier 160 claims.route.homeCell = true
  routingEpoch : 0 < claims.route.routingEpoch ∧ claims.route.routingEpoch ≤ 9007199254740991
  requestId : isIdentifier 160 claims.requestId = true
  traceId : isIdentifier 160 claims.traceId = true
  channelId : isIdentifier 160 claims.channelId = true

/-- The schema reads what was signed, if every claim is as it asks. -/
theorem read_payload {claims : ContextClaims} (h : claims.refundPolicy = none) :
    Yields (read (JS.parse claims.payload)) claims.WellFormed claims := by
  obtain ⟨registered, contextId, tenantId, environmentId, principalId, customerId, route, requestId,
    traceId, channelId, policy⟩ := claims
  obtain rfl : policy = none := h
  refine Yields.congr ((JS.readStrict_obj (by rfl)).bind <|
    (Yields.required rfl JS.literal_str).bind <|
    (Yields.required rfl opaqueId_str).bind <|
    -- the tenant
    (Yields.required rfl (JS.readStrict_obj (by rfl))).bind <|
    (Yields.required rfl opaqueId_str).bind <|
    (Yields.required rfl opaqueId_str).bind <|
    -- the actor
    (Yields.required rfl (JS.readStrict_obj (by rfl))).bind <|
    (Yields.required rfl JS.literal_str).bind <|
    (Yields.required rfl opaqueId_str).bind <|
    -- the subject, the delegation and the purpose
    (Yields.required rfl (JS.readStrict_obj (by rfl))).bind <|
    (Yields.required rfl opaqueId_str).bind <|
    (Yields.required rfl (JS.readStrict_obj (by rfl))).bind <|
    (Yields.required rfl JS.literal_str).bind <|
    (Yields.required rfl JS.literal_str).bind <|
    -- the route
    (Yields.required rfl (JS.readStrict_obj (by rfl))).bind <|
    (Yields.required rfl opaqueId_str).bind <|
    (Yields.required rfl opaqueId_str).bind <|
    (Yields.required rfl positiveInteger?_integer).bind <|
    (Registered.read_fields rfl rfl rfl rfl).bind <|
    -- the request
    (Yields.required rfl (JS.readStrict_obj (by rfl))).bind <|
    (Yields.required rfl opaqueId_str).bind <|
    (Yields.required rfl opaqueId_str).bind <|
    (Yields.required rfl opaqueId_str).bind <| Yields.pure _) ?_
  constructor
  · intro ⟨_, _, hcontext, _, htenant, henvironment, _, _, hprincipal, _, hcustomer, _, _, _, _,
      hregion, hcell, hepoch, hregistered, _, hrequest, htrace, hchannel, _⟩
    exact ⟨hregistered, hcontext, htenant, henvironment, hprincipal, hcustomer, hregion, hcell,
      hepoch, hrequest, htrace, hchannel⟩
  · intro hwell
    exact ⟨trivial, trivial, hwell.contextId, trivial, hwell.tenantId, hwell.environmentId, trivial,
      trivial, hwell.principalId, trivial, hwell.customerId, trivial, trivial, trivial, trivial,
      hwell.homeRegion, hwell.homeCell, hwell.routingEpoch, hwell.toWellFormed, trivial,
      hwell.requestId, hwell.traceId, hwell.channelId, trivial⟩

/-- A schema that knows no refund policy refuses one. -/
theorem read_policy {claims : ContextClaims} (h : claims.refundPolicy ≠ none) :
    read (JS.parse claims.payload) = none := by
  obtain ⟨registered, contextId, tenantId, environmentId, principalId, customerId, route, requestId,
    traceId, channelId, policy⟩ := claims
  cases policy with
  | none => exact absurd rfl h
  | some policy => rfl

end ContextClaims

/-! An assertion of the edge as a service. -/

structure ServiceClaims extends Registered where
  tenantId : String
  environmentId : String
  subjectCustomerId : String
  requestId : String
  traceId : String
  routingEpoch : ℤ
  deriving DecidableEq, Repr

namespace ServiceClaims

def payload (claims : ServiceClaims) : Document :=
  .obj ([("tenantId", .str claims.tenantId), ("environmentId", .str claims.environmentId),
    ("subjectCustomerId", .str claims.subjectCustomerId), ("requestId", .str claims.requestId),
    ("traceId", .str claims.traceId), ("routingEpoch", integer claims.routingEpoch),
    ("purpose", .str "conversation_assistant_message")] ++ claims.toRegistered.fields)

def keys : List String := ["tenantId", "environmentId", "subjectCustomerId", "requestId",
  "traceId", "routingEpoch", "purpose"] ++ Registered.keys

/-- `serviceAssertionClaimsSchema`. -/
def read (value : Value) : Option ServiceClaims := do
  let fields ← JS.Form.readStrict keys value
  let tenantId ← JsonTree.required fields "tenantId" opaqueId
  let environmentId ← JsonTree.required fields "environmentId" opaqueId
  let subjectCustomerId ← JsonTree.required fields "subjectCustomerId" opaqueId
  let requestId ← JsonTree.required fields "requestId" opaqueId
  let traceId ← JsonTree.required fields "traceId" opaqueId
  let routingEpoch ← JsonTree.required fields "routingEpoch" RefundPolicy.positiveInteger?
  let _ ← JsonTree.required fields "purpose" (literal "conversation_assistant_message")
  let registered ← Registered.read fields
  return {
    toRegistered := registered
    tenantId, environmentId, subjectCustomerId, requestId, traceId, routingEpoch }

structure WellFormed (claims : ServiceClaims) : Prop extends claims.toRegistered.WellFormed where
  tenantId : isIdentifier 160 claims.tenantId = true
  environmentId : isIdentifier 160 claims.environmentId = true
  subjectCustomerId : isIdentifier 160 claims.subjectCustomerId = true
  requestId : isIdentifier 160 claims.requestId = true
  traceId : isIdentifier 160 claims.traceId = true
  routingEpoch : 0 < claims.routingEpoch ∧ claims.routingEpoch ≤ 9007199254740991

theorem read_payload (claims : ServiceClaims) :
    Yields (read (JS.parse claims.payload)) claims.WellFormed claims := by
  refine Yields.congr ((JS.readStrict_obj (by rfl)).bind <|
    (Yields.required rfl opaqueId_str).bind <|
    (Yields.required rfl opaqueId_str).bind <|
    (Yields.required rfl opaqueId_str).bind <|
    (Yields.required rfl opaqueId_str).bind <|
    (Yields.required rfl opaqueId_str).bind <|
    (Yields.required rfl positiveInteger?_integer).bind <|
    (Yields.required rfl JS.literal_str).bind <|
    (Registered.read_fields rfl rfl rfl rfl).bind <| Yields.pure _) ?_
  constructor
  · intro ⟨_, htenant, henvironment, hcustomer, hrequest, htrace, hepoch, _, hregistered, _⟩
    exact ⟨hregistered, htenant, henvironment, hcustomer, hrequest, htrace, hepoch⟩
  · intro hwell
    exact ⟨trivial, hwell.tenantId, hwell.environmentId, hwell.subjectCustomerId, hwell.requestId,
      hwell.traceId, hwell.routingEpoch, trivial, hwell.toWellFormed, trivial⟩

end ServiceClaims

/-! The access of a workflow, and of a customer to the photos of one. -/

structure AccessClaims extends Registered where
  workflowId : String
  tenantId : String
  environmentId : String
  customerId : String
  purpose : String
  requestId : String
  traceId : String
  deriving DecidableEq, Repr

namespace AccessClaims

def payload (claims : AccessClaims) : Document :=
  .obj ([("accessVersion", .str "1"),
    ("workflow", .obj [("workflowId", .str claims.workflowId)]),
    ("tenant", .obj [("tenantId", .str claims.tenantId),
      ("environmentId", .str claims.environmentId)]),
    ("subject", .obj [("customerId", .str claims.customerId)]),
    ("purpose", .str claims.purpose),
    ("request", .obj [("requestId", .str claims.requestId), ("traceId", .str claims.traceId)])] ++
    claims.toRegistered.fields)

def keys : List String := ["accessVersion", "workflow", "tenant", "subject", "purpose",
  "request"] ++ Registered.keys

/-- The schemas of the gateway, of Human Operations and of its photos. They differ in the length of
a workflow's id, in the purposes, and in what they ask of the issuer and the audience. -/
def read (limit : ℕ) (purposes : List String)
    (readRegistered : List (String × Value) → Option Registered) (value : Value) :
    Option AccessClaims := do
  let fields ← JS.Form.readStrict keys value
  let _ ← JsonTree.required fields "accessVersion" (literal "1")
  let workflow ← JsonTree.required fields "workflow" (JS.Form.readStrict ["workflowId"])
  let workflowId ← JsonTree.required workflow "workflowId"
    (JS.Form.readText (isIdentifier limit))
  let tenant ← JsonTree.required fields "tenant"
    (JS.Form.readStrict ["tenantId", "environmentId"])
  let tenantId ← JsonTree.required tenant "tenantId" opaqueId
  let environmentId ← JsonTree.required tenant "environmentId" opaqueId
  let subject ← JsonTree.required fields "subject" (JS.Form.readStrict ["customerId"])
  let customerId ← JsonTree.required subject "customerId" opaqueId
  let purpose ← JsonTree.required fields "purpose" (JS.Form.readText (· ∈ purposes))
  let request ← JsonTree.required fields "request"
    (JS.Form.readStrict ["requestId", "traceId"])
  let requestId ← JsonTree.required request "requestId" opaqueId
  let traceId ← JsonTree.required request "traceId" opaqueId
  let registered ← readRegistered fields
  return {
    toRegistered := registered
    workflowId, tenantId, environmentId, customerId, purpose, requestId, traceId }

/-- The identifiers are as the schemas ask, and the purpose is one of theirs. -/
structure Named (limit : ℕ) (purposes : List String) (claims : AccessClaims) : Prop where
  workflowId : isIdentifier limit claims.workflowId = true
  tenantId : isIdentifier 160 claims.tenantId = true
  environmentId : isIdentifier 160 claims.environmentId = true
  customerId : isIdentifier 160 claims.customerId = true
  purpose : claims.purpose ∈ purposes
  requestId : isIdentifier 160 claims.requestId = true
  traceId : isIdentifier 160 claims.traceId = true

theorem read_payload {limit : ℕ} {purposes : List String} {claims : AccessClaims} {p : Prop}
    {readRegistered : List (String × Value) → Option Registered}
    (hregistered : ∀ fields, List.lookup "iss" fields = some (.str claims.iss) →
      List.lookup "aud" fields = some (.str claims.aud) →
      List.lookup "iat" fields = some (JS.parse (integer claims.iat)) →
      List.lookup "exp" fields = some (JS.parse (integer claims.exp)) →
      Yields (readRegistered fields) p claims.toRegistered) :
    Yields (read limit purposes readRegistered (JS.parse claims.payload))
      (claims.Named limit purposes ∧ p) claims := by
  refine Yields.congr ((JS.readStrict_obj (by rfl)).bind <|
    (Yields.required rfl JS.literal_str).bind <|
    (Yields.required rfl (JS.readStrict_obj (by rfl))).bind <|
    (Yields.required rfl (JS.readText_str _)).bind <|
    (Yields.required rfl (JS.readStrict_obj (by rfl))).bind <|
    (Yields.required rfl opaqueId_str).bind <|
    (Yields.required rfl opaqueId_str).bind <|
    (Yields.required rfl (JS.readStrict_obj (by rfl))).bind <|
    (Yields.required rfl opaqueId_str).bind <|
    (Yields.required rfl (JS.readText_str _)).bind <|
    (Yields.required rfl (JS.readStrict_obj (by rfl))).bind <|
    (Yields.required rfl opaqueId_str).bind <|
    (Yields.required rfl opaqueId_str).bind <|
    (hregistered _ rfl rfl rfl rfl).bind <| Yields.pure _) ?_
  rw [decide_eq_true_iff]
  constructor
  · intro ⟨_, _, _, hworkflow, _, htenant, henvironment, _, hcustomer, hpurpose, _, hrequest, htrace,
      hp, _⟩
    exact ⟨⟨hworkflow, htenant, henvironment, hcustomer, hpurpose, hrequest, htrace⟩, hp⟩
  · intro ⟨hnamed, hp⟩
    exact ⟨trivial, trivial, trivial, hnamed.workflowId, trivial, hnamed.tenantId,
      hnamed.environmentId, trivial, hnamed.customerId, hnamed.purpose, trivial, hnamed.requestId,
      hnamed.traceId, hp, trivial⟩

end AccessClaims

/-! The token of a customer in local development. -/

structure CustomerClaims extends Registered where
  sub : String
  tenantId : String
  environmentId : String
  customerId : String
  deriving DecidableEq, Repr

namespace CustomerClaims

def payload (claims : CustomerClaims) : Document :=
  .obj ([("tenantId", .str claims.tenantId), ("environmentId", .str claims.environmentId),
    ("customerId", .str claims.customerId), ("sub", .str claims.sub)] ++
    claims.toRegistered.fields)

def keys : List String := ["tenantId", "environmentId", "customerId", "sub"] ++ Registered.keys

/-- `localCustomerClaimsSchema`. -/
def read (value : Value) : Option CustomerClaims := do
  let fields ← JS.Form.readStrict keys value
  let registered ← Registered.read fields
  let sub ← JsonTree.required fields "sub" opaqueId
  let tenantId ← JsonTree.required fields "tenantId" opaqueId
  let environmentId ← JsonTree.required fields "environmentId" opaqueId
  let customerId ← JsonTree.required fields "customerId" opaqueId
  return {
    toRegistered := registered
    sub, tenantId, environmentId, customerId }

structure WellFormed (claims : CustomerClaims) : Prop extends claims.toRegistered.WellFormed where
  sub : isIdentifier 160 claims.sub = true
  tenantId : isIdentifier 160 claims.tenantId = true
  environmentId : isIdentifier 160 claims.environmentId = true
  customerId : isIdentifier 160 claims.customerId = true

theorem read_payload (claims : CustomerClaims) :
    Yields (read (JS.parse claims.payload)) claims.WellFormed claims := by
  refine Yields.congr ((JS.readStrict_obj (by rfl)).bind <|
    (Registered.read_fields rfl rfl rfl rfl).bind <|
    (Yields.required rfl opaqueId_str).bind <|
    (Yields.required rfl opaqueId_str).bind <|
    (Yields.required rfl opaqueId_str).bind <|
    (Yields.required rfl opaqueId_str).bind <| Yields.pure _) ?_
  constructor
  · intro ⟨_, hregistered, hsub, htenant, henvironment, hcustomer, _⟩
    exact ⟨hregistered, hsub, htenant, henvironment, hcustomer⟩
  · intro hwell
    exact ⟨trivial, hwell.toWellFormed, hwell.sub, hwell.tenantId, hwell.environmentId,
      hwell.customerId, trivial⟩

end CustomerClaims

/-! The identity of a staff member. -/

structure HumanClaims where
  staffId : String
  tenantId : String
  environmentId : String
  role : StaffRole
  iss : String
  aud : String
  iat : Option ℤ
  exp : Option ℤ
  deriving DecidableEq, Repr

namespace HumanClaims

def roles : List (String × StaffRole) :=
  [("REFUND_APPROVER", .refundApprover), ("REFUND_SUPERVISOR", .refundSupervisor)]

def roleName : StaffRole → String
  | .refundApprover => "REFUND_APPROVER"
  | .refundSupervisor => "REFUND_SUPERVISOR"

def payload (claims : HumanClaims) : Document :=
  .obj ([("staffId", .str claims.staffId), ("tenantId", .str claims.tenantId),
    ("environmentId", .str claims.environmentId), ("role", .str (roleName claims.role)),
    ("iss", .str claims.iss), ("aud", .str claims.aud)] ++
    (claims.iat.toList.map fun iat => ("iat", integer iat)) ++
    (claims.exp.toList.map fun exp => ("exp", integer exp)))

def keys : List String := ["staffId", "tenantId", "environmentId", "role"] ++ Registered.keys

/-- `claimsSchema` of the human assertions. -/
def read (value : Value) : Option HumanClaims := do
  let fields ← JS.Form.readStrict keys value
  let staffId ← JsonTree.required fields "staffId" RefundPolicy.nonEmptyString?
  let tenantId ← JsonTree.required fields "tenantId" RefundPolicy.nonEmptyString?
  let environmentId ← JsonTree.required fields "environmentId" RefundPolicy.nonEmptyString?
  let role ← JsonTree.required fields "role" (JS.Form.readMember roles)
  let iss ← JsonTree.required fields "iss" JsonTree.string?
  let aud ← JsonTree.required fields "aud" JsonTree.string?
  let iat ← JsonTree.optional fields "iat" RefundPolicy.safeInteger?
  let exp ← JsonTree.optional fields "exp" RefundPolicy.safeInteger?
  return { staffId, tenantId, environmentId, role, iss, aud, iat, exp }

structure WellFormed (claims : HumanClaims) (iat exp : ℤ) : Prop where
  staffId : claims.staffId ≠ ""
  tenantId : claims.tenantId ≠ ""
  environmentId : claims.environmentId ≠ ""
  iat : iat.natAbs ≤ 9007199254740991
  exp : exp.natAbs ≤ 9007199254740991

theorem read_payload {claims : HumanClaims} {iat exp : ℤ} (hiat : claims.iat = some iat)
    (hexp : claims.exp = some exp) :
    Yields (read (JS.parse claims.payload)) (claims.WellFormed iat exp) claims := by
  obtain ⟨staffId, tenantId, environmentId, role, iss, aud, iat', exp'⟩ := claims
  obtain rfl : iat' = some iat := hiat
  obtain rfl : exp' = some exp := hexp
  have hstring (s : String) : Yields (JsonTree.string? (.str s : Value)) True s := by
    intro t
    simp [JsonTree.string?]
  have htext (s : String) : Yields (RefundPolicy.nonEmptyString? (.str s)) (s ≠ "") s := by
    intro t
    simp [RefundPolicy.nonEmptyString?, JsonTree.string?, Option.filter_eq_some_iff]
    grind
  have hrole : Yields (JS.Form.readMember roles (.str (roleName role))) True role := by
    intro other
    cases role <;> simp [JS.Form.readMember, JsonTree.string?, roles, roleName, List.lookup]
  have htime {key : String} {n : ℤ} {fields : List (String × Value)}
      (h : List.lookup key fields = some (JS.parse (integer n))) :
      Yields (JsonTree.optional fields key RefundPolicy.safeInteger?)
        (n.natAbs ≤ 9007199254740991) (some n) := by
    intro m
    rw [JsonTree.optional, h]
    dsimp only
    rw [safeInteger?_integer]
    split_ifs with hsafe <;> simp [hsafe]
  refine Yields.congr ((JS.readStrict_obj (by rfl)).bind <|
    (Yields.required rfl (htext _)).bind <|
    (Yields.required rfl (htext _)).bind <|
    (Yields.required rfl (htext _)).bind <|
    (Yields.required rfl hrole).bind <|
    (Yields.required rfl (hstring _)).bind <|
    (Yields.required rfl (hstring _)).bind <|
    (htime rfl).bind <| (htime rfl).bind <| Yields.pure _) ?_
  constructor
  · intro h
    obtain ⟨-, hstaff, htenant, henvironment, -, -, -, hiat, hexp, -⟩ := h
    exact ⟨hstaff, htenant, henvironment, hiat, hexp⟩
  · intro hwell
    exact ⟨trivial, hwell.staffId, hwell.tenantId, hwell.environmentId, trivial, trivial, trivial,
      hwell.iat, hwell.exp, trivial⟩

end HumanClaims
end CSO.Assertions
