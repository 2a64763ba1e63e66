import CSO.Gateway.RefundContext
import CSO.JS.Date

/-! The refund policy: a release evaluated on the facts of a request. -/
namespace CSO.Workers
open JS (Json)

def maxSafeInteger : ℤ := 9007199254740991

def isSafeInteger (n : ℤ) : Bool := n.natAbs ≤ maxSafeInteger.natAbs

structure FactRef where
  factId : String
  factType : String
  sourceVersion : String
  observedAt : String
  deriving DecidableEq, Repr

inductive RequestedScope
  | fullOrder
  | selectedItems
  | unspecified
  deriving DecidableEq, Repr

def RequestedScope.text : RequestedScope → String
  | .fullOrder => "FULL_ORDER"
  | .selectedItems => "SELECTED_ITEMS"
  | .unspecified => "UNSPECIFIED"

structure PolicyRequest where
  proposalId : String
  orderId : String
  reasonCode : String
  scope : RequestedScope
  itemIds : List String
  requestedAmount : Option Money
  deriving DecidableEq, Repr

structure PolicyFacts where
  customerVerified : Option Bool
  transactionRefundable : Option Bool
  itemSelectionValid : Option Bool
  priorRefundCount : Option ℤ
  refundableAmount : Option Money
  refundDestination : Option String
  deriving DecidableEq, Repr

structure RefundPolicyInput where
  policyVersion : String
  request : PolicyRequest
  facts : PolicyFacts
  factRefs : List FactRef
  deriving DecidableEq, Repr

structure PolicyDecisionContext where
  decisionId : String
  decidedAt : String
  deriving DecidableEq, Repr

inductive PolicyEffect
  | allow
  | approvalRequired
  | takeoverRequired
  | deny
  | needsFacts
  deriving DecidableEq, Repr

inductive MissingFact
  | refundReason
  | itemSelection
  | priorRefundHistory
  | requestedAmount
  | refundableAmount
  | refundDestination
  | customerVerification
  | transactionRefundability
  | damagePhoto
  deriving DecidableEq, Repr

structure PolicyObligation where
  code : String
  parameters : List (String × String)
  deriving DecidableEq, Repr

structure RefundPolicyDecision where
  decisionId : String
  effect : PolicyEffect
  policyVersion : String
  inputFactsHash : String
  factRefs : List FactRef
  reasonCodes : List String
  obligations : List PolicyObligation
  missingFacts : List MissingFact
  decidedAt : String
  validUntil : String
  deriving DecidableEq, Repr

structure RefundPolicyRelease where
  policyVersion : String
  supportedCurrency : String
  automaticMaximumMinor : ℤ
  approvalMaximumMinor : ℤ
  elevatedRiskPriorRefundCount : ℤ
  highRiskPriorRefundCount : ℤ
  decisionValiditySeconds : ℤ
  permittedReasonCodes : List String
  requireDamagePhoto : Bool
  deriving DecidableEq, Repr

def refundPolicyV1 : RefundPolicyRelease where
  policyVersion := "refund-policy-v1"
  supportedCurrency := "USD"
  automaticMaximumMinor := 10000
  approvalMaximumMinor := 50000
  elevatedRiskPriorRefundCount := 1
  highRiskPriorRefundCount := 2
  decisionValiditySeconds := 900
  permittedReasonCodes := ["DAMAGED", "DEFECTIVE", "WRONG_ITEM", "NOT_AS_DESCRIBED",
    "MISSING_ITEM", "LATE_DELIVERY", "NO_LONGER_NEEDED", "OTHER"]
  requireDamagePhoto := false

def refundPolicyV2 : RefundPolicyRelease :=
  { refundPolicyV1 with policyVersion := "refund-policy-v2", requireDamagePhoto := true }

def getRefundPolicyRelease (version : String) : Except String RefundPolicyRelease :=
  match [refundPolicyV1, refundPolicyV2].find? fun release => release.policyVersion = version with
  | some release => .ok release
  | none => .error "UNKNOWN_REFUND_POLICY_VERSION"

def assertPolicyRelease (release : RefundPolicyRelease) : Except String Unit :=
  if isSafeInteger release.automaticMaximumMinor ∧ isSafeInteger release.approvalMaximumMinor ∧
      0 ≤ release.automaticMaximumMinor ∧
      release.automaticMaximumMinor ≤ release.approvalMaximumMinor ∧
      isSafeInteger release.elevatedRiskPriorRefundCount ∧
      isSafeInteger release.highRiskPriorRefundCount ∧
      1 ≤ release.elevatedRiskPriorRefundCount ∧
      release.elevatedRiskPriorRefundCount < release.highRiskPriorRefundCount ∧
      isSafeInteger release.decisionValiditySeconds ∧ 0 < release.decisionValiditySeconds ∧
      release.permittedReasonCodes ≠ [] then
    .ok ()
  else .error "INVALID_POLICY_RELEASE"

inductive RefundRiskClass
  | low
  | elevated
  | high
  deriving DecidableEq, Repr

def assessRefundRisk (priorRefundCount : ℤ) (release : RefundPolicyRelease) :
    Except String RefundRiskClass :=
  if ¬isSafeInteger priorRefundCount ∨ priorRefundCount < 0 then
    .error "INVALID_PRIOR_REFUND_COUNT"
  else if release.highRiskPriorRefundCount ≤ priorRefundCount then .ok .high
  else if release.elevatedRiskPriorRefundCount ≤ priorRefundCount then .ok .elevated
  else .ok .low

def assertMoney (money : Money) : Except String Unit :=
  if isSafeInteger money.amountMinor ∧ 0 ≤ money.amountMinor then .ok ()
  else .error "INVALID_MONEY_AMOUNT"

/-- `if (condition) list.push(value)`. -/
def pushIf {α : Type} (condition : Prop) [Decidable condition] (value : α) : List α :=
  if condition then [value] else []

def findMissingFacts (input : RefundPolicyInput) : List MissingFact :=
  [pushIf (input.facts.customerVerified = none) .customerVerification,
    pushIf (input.facts.transactionRefundable = none) .transactionRefundability,
    pushIf (input.request.reasonCode = "UNSPECIFIED") .refundReason,
    pushIf (input.request.scope = .unspecified ∨ input.facts.itemSelectionValid = none)
      .itemSelection,
    pushIf (input.request.requestedAmount = none) .requestedAmount,
    pushIf (input.facts.refundableAmount = none) .refundableAmount,
    pushIf (input.facts.refundDestination = none) .refundDestination,
    pushIf (input.facts.priorRefundCount = none) .priorRefundHistory].flatten

/-- `sha256:` and 64 lower case hexadecimal digits. -/
def isSha256 (text : String) : Bool :=
  text.toList.take 7 == "sha256:".toList &&
    (text.toList.drop 7).length == 64 &&
    (text.toList.drop 7).all fun c => c.isDigit || ('a' ≤ c && c ≤ 'f')

/-- The arguments of `decide`. -/
structure Verdict where
  effect : PolicyEffect
  reasonCodes : List String
  obligations : List PolicyObligation := []
  missingFacts : List MissingFact := []
  deriving DecidableEq, Repr

def takeoverReasons (release : RefundPolicyRelease) (requestedAmount : Money)
    (refundDestination : Option String) (riskClass : RefundRiskClass) : List String :=
  [pushIf (requestedAmount.currency ≠ release.supportedCurrency)
      "UNSUPPORTED_CURRENCY_REQUIRES_TAKEOVER",
    pushIf (refundDestination ≠ some "ORIGINAL_PAYMENT_METHOD")
      "NON_STANDARD_DESTINATION_REQUIRES_TAKEOVER",
    pushIf (riskClass = .high) "HIGH_RISK_REFUND_REQUIRES_TAKEOVER",
    pushIf (release.approvalMaximumMinor < requestedAmount.amountMinor)
      "AMOUNT_EXCEEDS_APPROVAL_THRESHOLD"].flatten

def approvalReasons (release : RefundPolicyRelease) (requestedAmount : Money)
    (riskClass : RefundRiskClass) : List String :=
  [pushIf (riskClass = .elevated) "ELEVATED_RISK_REQUIRES_APPROVAL",
    pushIf (release.automaticMaximumMinor < requestedAmount.amountMinor)
      "AMOUNT_EXCEEDS_AUTO_APPROVAL_THRESHOLD"].flatten

def hasAcceptedDamageEvidence (input : RefundPolicyInput) : Bool :=
  input.factRefs.any fun ref =>
    ref.factType == "ACCEPTED_DAMAGE_EVIDENCE" && isSha256 ref.sourceVersion

/-- The rules that risk and amount decide. -/
def riskVerdict (input : RefundPolicyInput) (release : RefundPolicyRelease)
    (requestedAmount : Money) (riskClass : RefundRiskClass) : Verdict :=
  let takeover := takeoverReasons release requestedAmount input.facts.refundDestination riskClass
  let approval := approvalReasons release requestedAmount riskClass
  if takeover ≠ [] then
    { effect := .takeoverRequired, reasonCodes := takeover,
      obligations := [⟨"REQUIRE_TAKEOVER", []⟩] }
  else if approval ≠ [] then
    { effect := .approvalRequired, reasonCodes := approval,
      obligations := [⟨"REQUIRE_HUMAN_APPROVAL", [("approvalClass", "REFUND_REVIEW")]⟩] }
  else { effect := .allow, reasonCodes := ["WITHIN_AUTOMATIC_REFUND_THRESHOLD"] }

/-- The first rule that denies the refund, by its reason. -/
def denialReason (input : RefundPolicyInput) (release : RefundPolicyRelease)
    (requestedAmount refundableAmount : Money) : Option String :=
  if input.facts.customerVerified = some false then some "CUSTOMER_NOT_VERIFIED"
  else if input.facts.transactionRefundable = some false then some "TRANSACTION_NOT_REFUNDABLE"
  else if ¬release.permittedReasonCodes.contains input.request.reasonCode then
    some "REFUND_REASON_NOT_PERMITTED"
  else if input.facts.itemSelectionValid = some false then some "ITEM_SELECTION_NOT_REFUNDABLE"
  else if requestedAmount.amountMinor = 0 then some "REFUND_AMOUNT_MUST_BE_POSITIVE"
  else if requestedAmount.currency ≠ refundableAmount.currency then
    some "REFUND_CURRENCY_MISMATCH"
  else if refundableAmount.amountMinor < requestedAmount.amountMinor then
    some "REFUND_AMOUNT_EXCEEDS_REFUNDABLE_BALANCE"
  else none

/-- The rules of a release for known amounts, in the order in which they are tried. -/
def amountVerdict (input : RefundPolicyInput) (release : RefundPolicyRelease)
    (requestedAmount refundableAmount : Money) : Except String Verdict :=
  match denialReason input release requestedAmount refundableAmount with
  | some reason => .ok { effect := .deny, reasonCodes := [reason] }
  | none =>
    if release.requireDamagePhoto ∧ input.request.reasonCode = "DAMAGED" ∧
        ¬hasAcceptedDamageEvidence input then
      .ok { effect := .needsFacts, reasonCodes := ["DAMAGE_PHOTO_REVIEW_REQUIRED"],
            missingFacts := [.damagePhoto] }
    else
      (assessRefundRisk (input.facts.priorRefundCount.getD 0) release).map
        (riskVerdict input release requestedAmount)

/-- What `evaluateRefundPolicy` decides of the facts. -/
def verdict (input : RefundPolicyInput) (release : RefundPolicyRelease) : Except String Verdict :=
  let missingFacts := findMissingFacts input
  if missingFacts ≠ [] then
    .ok { effect := .needsFacts, reasonCodes := ["MISSING_REQUIRED_FACTS"], missingFacts }
  else
    match input.request.requestedAmount, input.facts.refundableAmount with
    | some requestedAmount, some refundableAmount => do
      assertMoney requestedAmount
      assertMoney refundableAmount
      amountVerdict input release requestedAmount refundableAmount
    | _, _ => .error "MISSING_AMOUNT_INVARIANT"

mutual

/-- `canonicalizeJson`: the keys of every object in order, and safe integers only. -/
def canonicalizeJson : Json → Except String String
  | .num n => if isSafeInteger n then .ok (toString n) else .error "NON_CANONICAL_POLICY_NUMBER"
  | .arr items => return "[" ++ ",".intercalate (← canonicalizeItems items) ++ "]"
  | .obj fields => do
    let texts ← canonicalizeFields fields
    let sorted := texts.insertionSort fun left right => JS.notAfter left.1 right.1
    return "\x7b" ++ ",".intercalate (sorted.map fun field =>
      JS.quote field.1 ++ ":" ++ field.2) ++ "\x7d"
  | value => .ok value.stringify

def canonicalizeItems : List Json → Except String (List String)
  | [] => .ok []
  | item :: items => return (← canonicalizeJson item) :: (← canonicalizeItems items)

def canonicalizeFields : List (String × Json) → Except String (List (String × String))
  | [] => .ok []
  | (key, value) :: fields =>
    return (key, ← canonicalizeJson value) :: (← canonicalizeFields fields)

end

/-- The field when it is there. -/
def optionalField {α : Type} (key : String) (json : α → Json) : Option α → List (String × Json)
  | some value => [(key, json value)]
  | none => []

def FactRef.json (ref : FactRef) : Json :=
  .obj [("factId", .str ref.factId), ("factType", .str ref.factType),
    ("sourceVersion", .str ref.sourceVersion), ("observedAt", .str ref.observedAt)]

def RefundPolicyInput.json (input : RefundPolicyInput) : Json :=
  .obj [("schemaVersion", .str "1"), ("journeyType", .str "REFUND"),
    ("policyVersion", .str input.policyVersion),
    ("request", .obj ([("proposalId", .str input.request.proposalId),
      ("orderId", .str input.request.orderId), ("reasonCode", .str input.request.reasonCode),
      ("scope", .str input.request.scope.text),
      ("itemIds", .arr (input.request.itemIds.map .str))] ++
      optionalField "requestedAmount" Gateway.moneyJson input.request.requestedAmount)),
    ("facts", .obj (optionalField "customerVerified" .bool input.facts.customerVerified ++
      optionalField "transactionRefundable" .bool input.facts.transactionRefundable ++
      optionalField "itemSelectionValid" .bool input.facts.itemSelectionValid ++
      optionalField "priorRefundCount" .num input.facts.priorRefundCount ++
      optionalField "refundableAmount" Gateway.moneyJson input.facts.refundableAmount ++
      optionalField "refundDestination" .str input.facts.refundDestination)),
    ("factRefs", .arr (input.factRefs.map FactRef.json))]

def hashPolicyInput (input : RefundPolicyInput) : Except String String :=
  return "sha256:" ++ JS.Sha256.hex (← canonicalizeJson input.json)

def sortedFactRefs (factRefs : List FactRef) : List FactRef :=
  factRefs.insertionSort fun left right => JS.notAfter left.factId right.factId

/-- The last instant of a decision's validity, as text. -/
def validUntilText (release : RefundPolicyRelease) (decidedAt : ℤ) : Except String String :=
  match JS.Date.toISOString (decidedAt + release.decisionValiditySeconds * 1000) with
  | some text => .ok text
  | none => .error "Invalid time value"

def evaluateRefundPolicy (input : RefundPolicyInput) (release : RefundPolicyRelease)
    (context : PolicyDecisionContext) : Except String RefundPolicyDecision :=
  assertPolicyRelease release >>= fun _ =>
  if input.policyVersion ≠ release.policyVersion then .error "POLICY_VERSION_MISMATCH"
  else match JS.Date.parse context.decidedAt with
  | none => .error "INVALID_DECIDED_AT"
  | some decidedAt => do
    let factRefs := sortedFactRefs input.factRefs
    let inputFactsHash ← hashPolicyInput { input with factRefs }
    let validUntil ← validUntilText release decidedAt
    let decision ← verdict input release
    return {
      decisionId := context.decisionId
      effect := decision.effect
      policyVersion := release.policyVersion
      inputFactsHash
      factRefs
      reasonCodes := decision.reasonCodes
      obligations := decision.obligations
      missingFacts := decision.missingFacts
      decidedAt := context.decidedAt
      validUntil }

theorem validUntilText_eq_ok {release : RefundPolicyRelease} {decidedAt : ℤ} {text : String}
    (h : validUntilText release decidedAt = .ok text) :
    JS.Date.parse text = some (decidedAt + release.decisionValiditySeconds * 1000) := by
  unfold validUntilText at h
  split at h
  · rename_i text' htext
    cases h
    exact JS.Date.parse_toISOString htext
  · cases h

theorem except_bind_eq_ok {α β : Type} {x : Except String α} {f : α → Except String β} {b : β}
    (h : (x >>= f) = .ok b) : ∃ a, x = .ok a ∧ f a = .ok b := by
  cases x with
  | error message => cases h
  | ok a => exact ⟨a, rfl, h⟩

theorem except_eq_ok {α : Type} {x : Except String α} (default : α)
    (h : x.toOption.isSome = true) : x = .ok (x.toOption.getD default) := by
  cases x with
  | error message => cases h
  | ok a => rfl

/-- What a decision says beside its verdict: when it was made and how long it is valid. -/
theorem evaluateRefundPolicy_eq_ok {input : RefundPolicyInput} {release : RefundPolicyRelease}
    {context : PolicyDecisionContext} {decision : RefundPolicyDecision}
    (h : evaluateRefundPolicy input release context = .ok decision) :
    assertPolicyRelease release = .ok () ∧ input.policyVersion = release.policyVersion ∧
      decision.policyVersion = release.policyVersion ∧ decision.decidedAt = context.decidedAt ∧
      (∃ v, verdict input release = .ok v ∧ decision.effect = v.effect ∧
        decision.missingFacts = v.missingFacts) ∧
      ∃ decidedAt, JS.Date.parse context.decidedAt = some decidedAt ∧
        JS.Date.parse decision.validUntil =
          some (decidedAt + release.decisionValiditySeconds * 1000) := by
  unfold evaluateRefundPolicy at h
  obtain ⟨⟨⟩, hrelease, h⟩ := except_bind_eq_ok h
  split_ifs at h with hversion
  cases hparse : JS.Date.parse context.decidedAt with
  | none =>
    rw [hparse] at h
    cases h
  | some decidedAt =>
    rw [hparse] at h
    obtain ⟨hash, -, h⟩ := except_bind_eq_ok h
    obtain ⟨validUntil, hvalid, h⟩ := except_bind_eq_ok h
    obtain ⟨v, hv, h⟩ := except_bind_eq_ok h
    cases h
    exact ⟨hrelease, by simpa using hversion, rfl, rfl, ⟨v, hv, rfl, rfl⟩, decidedAt, rfl,
      validUntilText_eq_ok hvalid⟩

end CSO.Workers
