import CSO.RefundPolicy.Catalog

/-! The catalog of refund policies as the agent runtime reads it. -/
namespace CSO.AgentRuntime
open JS (Document NumberLiteral JsonTree)
open RefundPolicy (Release)

/-- A number of Python. -/
inductive PyNumber
  | int (n : ℤ)
  | float (x : JS.Number)
  deriving DecidableEq, Repr

namespace PyNumber

/-- A literal with a point or an exponent is a float. -/
def ofLiteral (literal : NumberLiteral) : PyNumber :=
  match literal.integer? with
  | some n => .int n
  | none => .float (JS.Number.ofLiteral literal)

def int? : PyNumber → Option ℤ
  | .int n => some n
  | .float _ => none

end PyNumber

abbrev PyValue := JsonTree PyNumber

/-- `json.loads`. -/
def loads (document : Document) : PyValue := document.resolve.map PyNumber.ofLiteral

def jsonSafeIntegerMax : ℤ := 9007199254740991

def safeNonNegativeInteger (value : PyValue) : Option ℤ :=
  (value.num?.bind PyNumber.int?).filter fun n => 0 ≤ n ∧ n ≤ jsonSafeIntegerMax

def safePositiveInteger (value : PyValue) : Option ℤ :=
  (value.num?.bind PyNumber.int?).filter fun n => 0 < n ∧ n ≤ jsonSafeIntegerMax

/-- A field of a model: the key that JSON has for it, and its name in Python. -/
structure Field where
  key : String
  name : String
  deriving DecidableEq, Repr

namespace Field
variable (field : Field) (fields : List (String × PyValue))

/-- The key that the field is found under, and its value. The alias goes before the name. -/
def find : Option (String × PyValue) :=
  match List.lookup field.key fields with
  | some value => some (field.key, value)
  | none => (List.lookup field.name fields).map fun value => (field.name, value)

def required {α : Type} (read : PyValue → Option α) : Option α :=
  (field.find fields).bind fun found => read found.2

def optional {α : Type} (read : PyValue → Option α) : Option (Option α) :=
  match field.find fields with
  | none => some none
  | some found => (read found.2).map some

end Field

/-- `extra="forbid"`: no key but those that the fields are found under. -/
def noExtra (model : List Field) (fields : List (String × PyValue)) : Bool :=
  fields.all fun entry => entry.1 ∈ model.filterMap fun field => (field.find fields).map Prod.fst

namespace CatalogRelease

def policyVersion : Field := ⟨"policyVersion", "policy_version"⟩

def supportedCurrency : Field := ⟨"supportedCurrency", "supported_currency"⟩

def automaticMaximumMinor : Field := ⟨"automaticMaximumMinor", "automatic_maximum_minor"⟩

def approvalMaximumMinor : Field := ⟨"approvalMaximumMinor", "approval_maximum_minor"⟩

def elevatedRiskPriorRefundCount : Field :=
  ⟨"elevatedRiskPriorRefundCount", "elevated_risk_prior_refund_count"⟩

def highRiskPriorRefundCount : Field :=
  ⟨"highRiskPriorRefundCount", "high_risk_prior_refund_count"⟩

def decisionValiditySeconds : Field := ⟨"decisionValiditySeconds", "decision_validity_seconds"⟩

def permittedReasonCodes : Field := ⟨"permittedReasonCodes", "permitted_reason_codes"⟩

def requireDamagePhoto : Field := ⟨"requireDamagePhoto", "require_damage_photo"⟩

def model : List Field := [policyVersion, supportedCurrency, automaticMaximumMinor,
  approvalMaximumMinor, elevatedRiskPriorRefundCount, highRiskPriorRefundCount,
  decisionValiditySeconds, permittedReasonCodes, requireDamagePhoto]

/-- The fields with their types. A photo requirement is a bool or left out: the validator refuses a
null that is set. -/
def read (fields : List (String × PyValue)) : Option Release := do
  return {
    policyVersion := ← policyVersion.required fields fun value => value.string?.filter (· ≠ "")
    supportedCurrency := ← supportedCurrency.required fields fun value =>
      value.string?.filter (· = "USD")
    automaticMaximumMinor := ← automaticMaximumMinor.required fields safeNonNegativeInteger
    approvalMaximumMinor := ← approvalMaximumMinor.required fields safeNonNegativeInteger
    elevatedRiskPriorRefundCount :=
      ← elevatedRiskPriorRefundCount.required fields safeNonNegativeInteger
    highRiskPriorRefundCount := ← highRiskPriorRefundCount.required fields safeNonNegativeInteger
    decisionValiditySeconds := ← decisionValiditySeconds.required fields safePositiveInteger
    permittedReasonCodes := ← permittedReasonCodes.required fields (JsonTree.list? JsonTree.string?)
    requireDamagePhoto := ← requireDamagePhoto.optional fields JsonTree.bool? }

/-- The least length of the reason codes, and `validate_release`. -/
def Valid (release : Release) : Prop :=
  release.permittedReasonCodes ≠ [] ∧
    ¬release.approvalMaximumMinor < release.automaticMaximumMinor ∧
    ¬release.highRiskPriorRefundCount ≤ release.elevatedRiskPriorRefundCount ∧
    ¬(∃ code ∈ release.permittedReasonCodes, code = "") ∧ release.permittedReasonCodes.Nodup

instance : DecidablePred Valid := fun _ => inferInstanceAs (Decidable (_ ∧ _ ∧ _ ∧ _ ∧ _))

def modelValidate (value : PyValue) : Option Release :=
  ((value.fields?.filter (noExtra model)).bind read).filter fun release => Valid release

end CatalogRelease

namespace RefundPolicyCatalog

def schemaVersion : Field := ⟨"schemaVersion", "schema_version"⟩

def releases : Field := ⟨"releases", "releases"⟩

def model : List Field := [schemaVersion, releases]

def read (fields : List (String × PyValue)) : Option (List Release) := do
  let _ ← schemaVersion.required fields fun value => value.string?.filter (· = "1")
  releases.required fields fun value =>
    (value.list? CatalogRelease.modelValidate).filter (· ≠ [])

/-- With `validate_unique_versions`. -/
def modelValidate (value : PyValue) : Option (List Release) :=
  ((value.fields?.filter (noExtra model)).bind read).filter fun releases =>
    (releases.map Release.policyVersion).Nodup

end RefundPolicyCatalog

/-- `_read_catalog`. -/
def readCatalog (document : Document) : Except String (List Release) :=
  match RefundPolicyCatalog.modelValidate (loads document) with
  | some releases => .ok releases
  | none => .error "INVALID_REFUND_POLICY_CATALOG"

structure RefundPolicyBinding where
  policyVersion : String
  catalogSha256 : String
  deriving DecidableEq, Repr

/-- With the ranges of its limits, and `validate_bounds`. -/
structure VerifiedRefundPolicy where
  policyVersion : String
  catalogSha256 : String
  currency : String
  automaticMaximumMinor : ℤ
  approvalMaximumMinor : ℤ
  currencyUsd : currency = "USD"
  nonNegative : 0 ≤ automaticMaximumMinor
  bounds : automaticMaximumMinor ≤ approvalMaximumMinor

/-- The policy of a release, where it meets the checks of `VerifiedRefundPolicy`. -/
def verifiedRefundPolicy (release : Release) (catalogSha256 : String) :
    Except String VerifiedRefundPolicy :=
  if h : release.supportedCurrency = "USD" ∧ 0 ≤ release.automaticMaximumMinor ∧
      release.automaticMaximumMinor ≤ release.approvalMaximumMinor then
    .ok ⟨release.policyVersion, catalogSha256, release.supportedCurrency,
      release.automaticMaximumMinor, release.approvalMaximumMinor, h.1, h.2.1, h.2.2⟩
  else .error "ValidationError"

/-- `catalogSha256` is the digest of the bytes that the document is read from. -/
def verifyRefundPolicy (binding : RefundPolicyBinding) (document : Document)
    (catalogSha256 : String) : Except String VerifiedRefundPolicy := do
  let releases ← readCatalog document
  if catalogSha256 ≠ binding.catalogSha256 then
    .error "REFUND_POLICY_CATALOG_HASH_MISMATCH"
  else match releases.find? fun candidate => candidate.policyVersion = binding.policyVersion with
  | none => .error "UNKNOWN_REFUND_POLICY_VERSION"
  | some release => verifiedRefundPolicy release catalogSha256

/-- The limits that are explained are those of the release of the bound version. -/
theorem verifyRefundPolicy_eq_ok {binding : RefundPolicyBinding} {document : Document}
    {catalogSha256 : String} {policy : VerifiedRefundPolicy}
    (h : verifyRefundPolicy binding document catalogSha256 = .ok policy) :
    ∃ releases release, readCatalog document = .ok releases ∧
      releases.find? (fun candidate => candidate.policyVersion = binding.policyVersion) =
        some release ∧ policy.currency = release.supportedCurrency ∧
      policy.automaticMaximumMinor = release.automaticMaximumMinor ∧
      policy.approvalMaximumMinor = release.approvalMaximumMinor := by
  unfold verifyRefundPolicy at h
  cases hread : readCatalog document with
  | error message =>
    rw [hread] at h
    cases h
  | ok releases =>
    rw [hread] at h
    simp only [bind, Except.bind] at h
    split_ifs at h
    split at h
    · cases h
    · rename_i release hfind
      unfold verifiedRefundPolicy at h
      split_ifs at h
      cases h
      exact ⟨releases, release, rfl, hfind, rfl, rfl, rfl⟩

end CSO.AgentRuntime
