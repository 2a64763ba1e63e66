import CSO.JS.JsonTree

/-! The catalog of refund policies that the services share. -/
namespace CSO.RefundPolicy
open JS (JsonTree Value)

structure Release where
  policyVersion : String
  supportedCurrency : String
  automaticMaximumMinor : ℤ
  approvalMaximumMinor : ℤ
  elevatedRiskPriorRefundCount : ℤ
  highRiskPriorRefundCount : ℤ
  decisionValiditySeconds : ℤ
  permittedReasonCodes : List String
  requireDamagePhoto : Option Bool
  deriving DecidableEq, Repr

def releaseKeys : List String := ["policyVersion", "supportedCurrency", "automaticMaximumMinor",
  "approvalMaximumMinor", "elevatedRiskPriorRefundCount", "highRiskPriorRefundCount",
  "decisionValiditySeconds", "permittedReasonCodes", "requireDamagePhoto"]

def invalidCatalog : String := "INVALID_REFUND_POLICY_CATALOG"

/-- What `Number.isSafeInteger` accepts. -/
def safeInteger? (value : Value) : Option ℤ := value.num?.bind JS.Number.safeInteger?

/-- What `isNonNegativeInteger` accepts. -/
def nonNegativeInteger? (value : Value) : Option ℤ := (safeInteger? value).filter (0 ≤ ·)

def positiveInteger? (value : Value) : Option ℤ := (safeInteger? value).filter (0 < ·)

def nonEmptyString? (value : Value) : Option String := value.string?.filter (· ≠ "")

/-- The fields of a release, each with the check of its own value. -/
def readRelease (fields : List (String × Value)) : Option Release := do
  return {
    policyVersion := ← JsonTree.required fields "policyVersion" nonEmptyString?
    supportedCurrency := ← JsonTree.required fields "supportedCurrency" fun value =>
      value.string?.filter (· = "USD")
    automaticMaximumMinor := ← JsonTree.required fields "automaticMaximumMinor" nonNegativeInteger?
    approvalMaximumMinor := ← JsonTree.required fields "approvalMaximumMinor" nonNegativeInteger?
    elevatedRiskPriorRefundCount :=
      ← JsonTree.required fields "elevatedRiskPriorRefundCount" nonNegativeInteger?
    highRiskPriorRefundCount :=
      ← JsonTree.required fields "highRiskPriorRefundCount" nonNegativeInteger?
    decisionValiditySeconds := ← JsonTree.required fields "decisionValiditySeconds" positiveInteger?
    permittedReasonCodes := ← JsonTree.required fields "permittedReasonCodes"
      (JsonTree.list? JsonTree.string?)
    requireDamagePhoto := ← JsonTree.optional fields "requireDamagePhoto" JsonTree.bool? }

namespace Release
variable (release : Release)

/-- The checks of the values that have been read. -/
def Consistent : Prop :=
  release.automaticMaximumMinor ≤ release.approvalMaximumMinor ∧
    release.elevatedRiskPriorRefundCount < release.highRiskPriorRefundCount ∧
    release.permittedReasonCodes ≠ [] ∧ (∀ reason ∈ release.permittedReasonCodes, reason ≠ "") ∧
    release.permittedReasonCodes.Nodup

instance : Decidable release.Consistent := inferInstanceAs (Decidable (_ ∧ _ ∧ _ ∧ _ ∧ _))

end Release

def validateRelease (value : Value) : Except String Release :=
  match value.fields?.filter fun fields => fields.all fun field => field.1 ∈ releaseKeys with
  | none => .error invalidCatalog
  | some fields =>
    match (readRelease fields).filter fun release => release.Consistent with
    | none => .error invalidCatalog
    | some release => .ok release

/-- The loop over the raw releases. A version that has been added is not added again. -/
def addReleases (releases : List Release) : List Value → Except String (List Release)
  | [] => .ok releases
  | rawRelease :: rest => do
    let release ← validateRelease rawRelease
    if releases.any fun known => known.policyVersion = release.policyVersion then
      .error invalidCatalog
    else addReleases (releases ++ [release]) rest

/-- The releases in a parsed catalog. -/
def loadRefundPolicyCatalog (parsed : Value) : Except String (List Release) :=
  match parsed.fields? with
  | none => .error invalidCatalog
  | some fields =>
    match JsonTree.required fields "schemaVersion" JsonTree.string?,
      JsonTree.required fields "releases" JsonTree.items? with
    | some schemaVersion, some releases =>
      if fields.length = 2 ∧ schemaVersion = "1" ∧ releases ≠ [] then addReleases [] releases
      else .error invalidCatalog
    | _, _ => .error invalidCatalog

def getRefundPolicyRelease (releases : List Release) (version : String) : Except String Release :=
  match releases.find? fun release => release.policyVersion = version with
  | some release => .ok release
  | none => .error "UNKNOWN_REFUND_POLICY_VERSION"

/-! The catalog of the repository. -/
namespace Sample

def integer (n : ℕ) : JS.Document := .num ⟨false, n, none, none⟩

def reasonCodes : List String := ["DAMAGED", "DEFECTIVE", "WRONG_ITEM", "NOT_AS_DESCRIBED",
  "MISSING_ITEM", "LATE_DELIVERY", "NO_LONGER_NEEDED", "OTHER"]

/-- A release with some fields of its own. -/
def release (policyVersion : String) (elevatedRiskPriorRefundCount : ℕ)
    (decisionValiditySeconds : JS.Document) (more : List (String × JS.Document)) : JS.Document :=
  .obj ([("policyVersion", .str policyVersion), ("supportedCurrency", .str "USD"),
    ("automaticMaximumMinor", integer 10000), ("approvalMaximumMinor", integer 50000),
    ("elevatedRiskPriorRefundCount", integer elevatedRiskPriorRefundCount),
    ("highRiskPriorRefundCount", integer 2), ("decisionValiditySeconds", decisionValiditySeconds),
    ("permittedReasonCodes", .arr (reasonCodes.map .str))] ++ more)

def catalog (releases : List JS.Document) : JS.Document :=
  .obj [("schemaVersion", .str "1"), ("releases", .arr releases)]

/-- `releases.json`. -/
def releases : JS.Document := catalog [release "refund-policy-v1" 1 (integer 900) [],
  release "refund-policy-v2" 1 (integer 900) [("requireDamagePhoto", .bool true)]]

/-- With the validity written as 900.0. -/
def fractional : JS.Document :=
  catalog [release "refund-policy-v1" 1 (.num ⟨false, 900, some [0], none⟩) []]

/-- With the version of the schema under its name in Python. -/
def pythonNamed : JS.Document := .obj [("schema_version", .str "1"),
  ("releases", .arr [release "refund-policy-v1" 1 (integer 900) []])]

end Sample

variable {value parsed : Value} {release : Release} {releases : List Release}
  {rest : List Value} {fields : List (String × Value)} {n : ℤ}

/-! What the catalog promises of its releases. -/

theorem safeInteger?_le (h : safeInteger? value = some n) : n.natAbs ≤ 9007199254740991 := by
  obtain ⟨x, -, hx⟩ := Option.bind_eq_some_iff.mp h
  cases x with
  | finite q =>
    rw [JS.Number.safeInteger?] at hx
    split_ifs at hx with hsafe
    exact Option.some.inj hx ▸ hsafe.2
  | infinite negative => cases hx

theorem nonNegativeInteger?_bounds (h : nonNegativeInteger? value = some n) :
    0 ≤ n ∧ n.natAbs ≤ 9007199254740991 := by
  obtain ⟨hsafe, hn⟩ := Option.filter_eq_some_iff.mp h
  exact ⟨of_decide_eq_true hn, safeInteger?_le hsafe⟩

theorem positiveInteger?_bounds (h : positiveInteger? value = some n) :
    0 < n ∧ n.natAbs ≤ 9007199254740991 := by
  obtain ⟨hsafe, hn⟩ := Option.filter_eq_some_iff.mp h
  exact ⟨of_decide_eq_true hn, safeInteger?_le hsafe⟩

/-- What holds of every release of the catalog. -/
structure Release.Accepted (release : Release) : Prop where
  automatic : 0 ≤ release.automaticMaximumMinor ∧
    release.automaticMaximumMinor.natAbs ≤ 9007199254740991
  approval : 0 ≤ release.approvalMaximumMinor ∧
    release.approvalMaximumMinor.natAbs ≤ 9007199254740991
  elevated : 0 ≤ release.elevatedRiskPriorRefundCount ∧
    release.elevatedRiskPriorRefundCount.natAbs ≤ 9007199254740991
  high : 0 ≤ release.highRiskPriorRefundCount ∧
    release.highRiskPriorRefundCount.natAbs ≤ 9007199254740991
  validity : 0 < release.decisionValiditySeconds ∧
    release.decisionValiditySeconds.natAbs ≤ 9007199254740991
  consistent : release.Consistent

theorem required_eq_some {α : Type} {key : String} {read : Value → Option α} {a : α}
    (h : JsonTree.required fields key read = some a) : ∃ value, read value = some a := by
  obtain ⟨value, -, hread⟩ := Option.bind_eq_some_iff.mp h
  exact ⟨value, hread⟩

theorem validateRelease_accepted (h : validateRelease value = .ok release) : release.Accepted := by
  unfold validateRelease at h
  split at h
  · cases h
  · split at h
    · cases h
    · rename_i fields _ release' hfilter
      cases h
      obtain ⟨hread, hconsistent⟩ := Option.filter_eq_some_iff.mp hfilter
      simp only [readRelease, Option.bind_eq_bind, Option.bind_eq_some_iff] at hread
      obtain ⟨_, -, _, -, automatic, ha, approval, hp, elevated, he, high, hh, validity, hv, _, -,
        _, -, hrelease⟩ := hread
      cases hrelease
      obtain ⟨_, ha⟩ := required_eq_some ha
      obtain ⟨_, hp⟩ := required_eq_some hp
      obtain ⟨_, he⟩ := required_eq_some he
      obtain ⟨_, hh⟩ := required_eq_some hh
      obtain ⟨_, hv⟩ := required_eq_some hv
      exact ⟨nonNegativeInteger?_bounds ha, nonNegativeInteger?_bounds hp,
        nonNegativeInteger?_bounds he, nonNegativeInteger?_bounds hh, positiveInteger?_bounds hv,
        of_decide_eq_true hconsistent⟩

/-- The loop adds a release for every raw one, and every version once. -/
theorem addReleases_eq_ok {known : List Release}
    (hknown : (known.map Release.policyVersion).Nodup) :
    addReleases known rest = .ok releases ↔ ∃ new, releases = known ++ new ∧
      List.Forall₂ (fun rawRelease release => validateRelease rawRelease = .ok release) rest new ∧
      (releases.map Release.policyVersion).Nodup := by
  induction rest generalizing known with
  | nil =>
    rw [addReleases]
    constructor
    · intro h
      cases h
      exact ⟨[], (List.append_nil _).symm, .nil, hknown⟩
    · rintro ⟨new, rfl, hnew, -⟩
      cases hnew
      rw [List.append_nil]
  | cons rawRelease rest ih =>
    rw [addReleases]
    cases hvalidate : validateRelease rawRelease with
    | error message =>
      constructor
      · intro h
        cases h
      · rintro ⟨new, -, hnew, -⟩
        cases hnew with
        | cons hhead _ => rw [hvalidate] at hhead; cases hhead
    | ok release =>
      simp only [bind, Except.bind]
      split_ifs with hdup
      · constructor
        · intro h
          cases h
        · -- The version is already there, so that no list goes on with it.
          rintro ⟨new, rfl, hnew, hnodup⟩
          cases hnew with
          | cons hhead _ =>
            rw [hvalidate] at hhead
            cases hhead
            obtain ⟨old, hold, hversion⟩ := List.any_eq_true.mp hdup
            rw [List.map_append, List.map_cons] at hnodup
            exact absurd (of_decide_eq_true hversion) ((List.nodup_append.mp hnodup).2.2 _
              (List.mem_map_of_mem hold) _ List.mem_cons_self)
      · have hadded : ((known ++ [release]).map Release.policyVersion).Nodup := by
          rw [List.map_append, List.map_singleton]
          refine List.nodup_append.mpr ⟨hknown, by simp, fun version hversion _ hb => ?_⟩
          rw [List.mem_singleton.mp hb]
          rintro rfl
          obtain ⟨old, hold, hversion⟩ := List.mem_map.mp hversion
          exact hdup (List.any_eq_true.mpr ⟨old, hold, decide_eq_true hversion⟩)
        rw [ih hadded]
        constructor
        · rintro ⟨new, rfl, hnew, hnodup⟩
          exact ⟨release :: new, by rw [List.append_assoc, List.singleton_append],
            .cons hvalidate hnew, hnodup⟩
        · rintro ⟨new, rfl, hnew, hnodup⟩
          cases hnew with
          | cons hhead hnew =>
            rw [hvalidate] at hhead
            cases hhead
            exact ⟨_, by rw [List.append_assoc, List.singleton_append], hnew, hnodup⟩

theorem addReleases_nil_eq_ok : addReleases [] rest = .ok releases ↔
    List.Forall₂ (fun rawRelease release => validateRelease rawRelease = .ok release) rest
      releases ∧ (releases.map Release.policyVersion).Nodup := by
  have hnil : (([] : List Release).map Release.policyVersion).Nodup := List.nodup_nil
  rw [addReleases_eq_ok hnil]
  simp only [List.nil_append, exists_eq_left']

theorem validateReleases_accepted (h : List.Forall₂ (fun rawRelease release =>
    validateRelease rawRelease = .ok release) rest releases) :
    ∀ release ∈ releases, release.Accepted := by
  induction h with
  | nil => exact fun release hrelease => absurd hrelease List.not_mem_nil
  | cons hvalidate _ ih =>
    exact List.forall_mem_cons.mpr ⟨validateRelease_accepted hvalidate, ih⟩

/-- Every release of a catalog that loads has been checked. -/
theorem loadRefundPolicyCatalog_accepted (h : loadRefundPolicyCatalog parsed = .ok releases) :
    ∀ release ∈ releases, release.Accepted := by
  unfold loadRefundPolicyCatalog at h
  split at h
  · cases h
  · split at h
    · split_ifs at h
      exact validateReleases_accepted (addReleases_nil_eq_ok.mp h).1
    · cases h

end CSO.RefundPolicy
