import CSO.RefundPolicy.Catalog
import CSO.Workers.Policy

/-! The evaluator on the releases of the catalog. -/
namespace CSO.Workers
open JS (Json Value)

/-- The release as the evaluator takes it. A photo requirement that is left out is none. -/
def rules (release : RefundPolicy.Release) : RefundPolicyRelease where
  policyVersion := release.policyVersion
  supportedCurrency := release.supportedCurrency
  automaticMaximumMinor := release.automaticMaximumMinor
  approvalMaximumMinor := release.approvalMaximumMinor
  elevatedRiskPriorRefundCount := release.elevatedRiskPriorRefundCount
  highRiskPriorRefundCount := release.highRiskPriorRefundCount
  decisionValiditySeconds := release.decisionValiditySeconds
  permittedReasonCodes := release.permittedReasonCodes
  requireDamagePhoto := release.requireDamagePhoto.getD false

example : (RefundPolicy.loadRefundPolicyCatalog (JS.parse RefundPolicy.Sample.releases)).map
    (List.map rules) = .ok [refundPolicyV1, refundPolicyV2] := by decide +kernel

/-- A safe integer that is not negative. -/
def IsCount (n : ℤ) : Prop := isSafeInteger n = true ∧ 0 ≤ n

/-- The numbers of an input are counts. -/
structure RefundPolicyInput.WellFormed (input : RefundPolicyInput) : Prop where
  requestedAmount : ∀ money ∈ input.request.requestedAmount, IsCount money.amountMinor
  refundableAmount : ∀ money ∈ input.facts.refundableAmount, IsCount money.amountMinor
  priorRefundCount : ∀ n ∈ input.facts.priorRefundCount, IsCount n

variable {input : RefundPolicyInput} {release : RefundPolicyRelease}
  {context : PolicyDecisionContext} {decidedAt : ℤ}

/-! An input has a hash. -/

/-- Every number in it is a safe integer. -/
inductive Canonical : Json → Prop
  | null : Canonical .null
  | bool (b : Bool) : Canonical (.bool b)
  | num {n : ℤ} (h : isSafeInteger n = true) : Canonical (.num n)
  | str (s : String) : Canonical (.str s)
  | arr {items : List Json} (h : ∀ item ∈ items, Canonical item) : Canonical (.arr items)
  | obj {fields : List (String × Json)} (h : ∀ field ∈ fields, Canonical field.2) :
    Canonical (.obj fields)

theorem canonicalizeItems_ok {items : List Json}
    (h : ∀ item ∈ items, ∃ text, canonicalizeJson item = .ok text) :
    ∃ texts, canonicalizeItems items = .ok texts := by
  induction items with
  | nil => exact ⟨[], by rw [canonicalizeItems]⟩
  | cons item items ih =>
    obtain ⟨text, htext⟩ := h item List.mem_cons_self
    obtain ⟨texts, htexts⟩ := ih fun i hi => h i (List.mem_cons_of_mem item hi)
    exact ⟨text :: texts, by rw [canonicalizeItems, htext, htexts]; rfl⟩

theorem canonicalizeFields_ok {fields : List (String × Json)}
    (h : ∀ field ∈ fields, ∃ text, canonicalizeJson field.2 = .ok text) :
    ∃ texts, canonicalizeFields fields = .ok texts := by
  induction fields with
  | nil => exact ⟨[], by rw [canonicalizeFields]⟩
  | cons field fields ih =>
    obtain ⟨key, value⟩ := field
    obtain ⟨text, htext⟩ := h (key, value) List.mem_cons_self
    obtain ⟨texts, htexts⟩ := ih fun f hf => h f (List.mem_cons_of_mem _ hf)
    exact ⟨(key, text) :: texts, by rw [canonicalizeFields, htext, htexts]; rfl⟩

theorem canonicalizeJson_ok {json : Json} (h : Canonical json) :
    ∃ text, canonicalizeJson json = .ok text := by
  induction h with
  | null => exact ⟨_, by rw [canonicalizeJson] <;> simp⟩
  | bool b => exact ⟨_, by rw [canonicalizeJson] <;> simp⟩
  | num h => exact ⟨_, by rw [canonicalizeJson, if_pos h]⟩
  | str s => exact ⟨_, by rw [canonicalizeJson] <;> simp⟩
  | arr _ ih =>
    obtain ⟨texts, htexts⟩ := canonicalizeItems_ok ih
    exact ⟨_, by rw [canonicalizeJson, htexts]; rfl⟩
  | obj _ ih =>
    obtain ⟨texts, htexts⟩ := canonicalizeFields_ok ih
    exact ⟨_, by rw [canonicalizeJson, htexts]; rfl⟩

theorem canonical_strings (texts : List String) : Canonical (.arr (texts.map .str)) :=
  .arr fun item hitem => by
    obtain ⟨text, -, rfl⟩ := List.mem_map.mp hitem
    exact .str text

theorem canonical_optionalField {α : Type} {key : String} {json : α → Json} {value : Option α}
    (h : ∀ a ∈ value, Canonical (json a)) :
    ∀ field ∈ optionalField key json value, Canonical field.2 := by
  cases value with
  | none => exact fun field hfield => absurd hfield List.not_mem_nil
  | some a =>
    intro field hfield
    rw [List.mem_singleton.mp hfield]
    exact h a rfl

theorem canonical_money {money : Money} (h : IsCount money.amountMinor) :
    Canonical (Gateway.moneyJson money) :=
  .obj (by
    rw [List.forall_mem_cons, List.forall_mem_singleton]
    exact ⟨.num h.1, .str _⟩)

theorem canonical_factRef (ref : FactRef) : Canonical ref.json :=
  .obj (by simp [Canonical.str])

theorem canonical_input (h : input.WellFormed) : Canonical input.json := by
  refine .obj ?_
  simp only [List.forall_mem_cons, List.not_mem_nil, IsEmpty.forall_iff, implies_true, and_true]
  refine ⟨.str _, .str _, .str _, .obj ?_, .obj ?_, .arr ?_⟩
  · rw [List.forall_mem_append]
    refine ⟨?_, canonical_optionalField fun money hmoney =>
      canonical_money (h.requestedAmount money hmoney)⟩
    simp only [List.forall_mem_cons, List.not_mem_nil, IsEmpty.forall_iff, implies_true, and_true]
    exact ⟨.str _, .str _, .str _, .str _, canonical_strings _⟩
  · simp only [List.forall_mem_append]
    exact ⟨⟨⟨⟨⟨canonical_optionalField fun b _ => .bool b,
      canonical_optionalField fun b _ => .bool b⟩,
      canonical_optionalField fun b _ => .bool b⟩,
      canonical_optionalField fun n hn => .num (h.priorRefundCount n hn).1⟩,
      canonical_optionalField fun money hmoney => canonical_money (h.refundableAmount money hmoney)⟩,
      canonical_optionalField fun s _ => .str s⟩
  · intro item hitem
    obtain ⟨ref, -, rfl⟩ := List.mem_map.mp hitem
    exact canonical_factRef ref

theorem hashPolicyInput_ok (h : input.WellFormed) : ∃ hash, hashPolicyInput input = .ok hash := by
  obtain ⟨text, htext⟩ := canonicalizeJson_ok (canonical_input h)
  exact ⟨_, by rw [hashPolicyInput, htext]; rfl⟩

/-! The rules decide. -/

theorem assertMoney_ok {money : Money} (h : IsCount money.amountMinor) :
    assertMoney money = .ok () := if_pos h

theorem assessRefundRisk_ok (release : RefundPolicyRelease) {n : ℤ} (h : IsCount n) :
    ∃ riskClass, assessRefundRisk n release = .ok riskClass := by
  unfold assessRefundRisk
  rw [if_neg (by rintro (hsafe | hneg); exact hsafe h.1; exact absurd h.2 (not_le.mpr hneg))]
  split_ifs <;> exact ⟨_, rfl⟩

theorem amountVerdict_ok (release : RefundPolicyRelease) (h : input.WellFormed)
    (requestedAmount refundableAmount : Money) :
    ∃ v, amountVerdict input release requestedAmount refundableAmount = .ok v := by
  unfold amountVerdict
  cases denialReason input release requestedAmount refundableAmount with
  | some reason => exact ⟨_, rfl⟩
  | none =>
    have hcount : IsCount (input.facts.priorRefundCount.getD 0) := by
      cases hprior : input.facts.priorRefundCount with
      | none => exact ⟨by decide, le_refl 0⟩
      | some n => exact h.priorRefundCount n hprior
    obtain ⟨riskClass, hrisk⟩ := assessRefundRisk_ok release hcount
    dsimp only
    split_ifs
    · exact ⟨_, rfl⟩
    · exact ⟨_, by rw [hrisk]; rfl⟩

theorem pushIf_eq_nil {α : Type} {condition : Prop} [Decidable condition] {a : α} :
    pushIf condition a = [] ↔ ¬condition := by
  unfold pushIf
  split_ifs with h <;> simp [h]

theorem findMissingFacts_amounts (h : findMissingFacts input = []) :
    input.request.requestedAmount ≠ none ∧ input.facts.refundableAmount ≠ none := by
  simp only [findMissingFacts, List.flatten_cons, List.append_eq_nil_iff, pushIf_eq_nil] at h
  exact ⟨h.2.2.2.2.1, h.2.2.2.2.2.1⟩

theorem verdict_ok (release : RefundPolicyRelease) (h : input.WellFormed) : ∃ v, verdict input release = .ok v := by
  unfold verdict
  dsimp only
  split_ifs with hmissing
  · exact ⟨_, rfl⟩
  · obtain ⟨hrequested, hrefundable⟩ := findMissingFacts_amounts (not_not.mp hmissing)
    obtain ⟨requestedAmount, hrequested⟩ := Option.ne_none_iff_exists'.mp hrequested
    obtain ⟨refundableAmount, hrefundable⟩ := Option.ne_none_iff_exists'.mp hrefundable
    obtain ⟨v, hv⟩ := amountVerdict_ok release h requestedAmount refundableAmount
    rw [hrequested, hrefundable]
    exact ⟨v, by
      dsimp only
      rw [assertMoney_ok (h.requestedAmount _ hrequested),
        assertMoney_ok (h.refundableAmount _ hrefundable)]
      exact hv⟩

theorem validUntilText_ok (release : RefundPolicyRelease)
    (hdecided : decidedAt.natAbs ≤ JS.Date.maxTime)
    (hvalidity : 0 < release.decisionValiditySeconds)
    (h : decidedAt + release.decisionValiditySeconds * 1000 ≤ JS.Date.maxTime) :
    ∃ text, validUntilText release decidedAt = .ok text := by
  have hrange : (decidedAt + release.decisionValiditySeconds * 1000).natAbs ≤ JS.Date.maxTime := by
    omega
  unfold validUntilText JS.Date.toISOString
  rw [if_pos hrange]
  exact ⟨_, rfl⟩

/-- What a release of the catalog lacks for the evaluator. -/
theorem assertPolicyRelease_rules {release : RefundPolicy.Release} (h : release.Accepted) :
    assertPolicyRelease (rules release) = .ok () ↔ 1 ≤ release.elevatedRiskPriorRefundCount := by
  obtain ⟨ha, hp, he, hh, hv, hc⟩ := h
  obtain ⟨hamounts, hcounts, hcodes, -⟩ := hc
  unfold assertPolicyRelease
  split_ifs with hall
  · exact ⟨fun _ => hall.2.2.2.2.2.2.1, fun _ => rfl⟩
  · constructor
    · intro h
      cases h
    · intro hone
      refine absurd ?_ hall
      have hsafe : ∀ n : ℤ, n.natAbs ≤ 9007199254740991 → isSafeInteger n = true := fun n hn =>
        decide_eq_true hn
      exact ⟨hsafe _ ha.2, hsafe _ hp.2, ha.1, hamounts, hsafe _ he.2, hsafe _ hh.2, hone, hcounts,
        hsafe _ hv.2, hv.1, hcodes⟩

/-- An input that is pinned to a release of the catalog is decided exactly where the release counts
the refunds of an elevated risk from one, and the validity of the decision ends within the range of
a date. -/
theorem catalog_release_decides {parsed : Value} {releases : List RefundPolicy.Release}
    {release : RefundPolicy.Release}
    (hload : RefundPolicy.loadRefundPolicyCatalog parsed = .ok releases)
    (hrelease : release ∈ releases) (hinput : input.WellFormed)
    (hversion : input.policyVersion = release.policyVersion)
    (hdecided : JS.Date.parse context.decidedAt = some decidedAt) :
    (∃ decision, evaluateRefundPolicy input (rules release) context = .ok decision) ↔
      1 ≤ release.elevatedRiskPriorRefundCount ∧
        decidedAt + release.decisionValiditySeconds * 1000 ≤ JS.Date.maxTime := by
  have haccepted := RefundPolicy.loadRefundPolicyCatalog_accepted hload release hrelease
  constructor
  · rintro ⟨decision, h⟩
    obtain ⟨hassert, -, -, -, -, decidedAt', hdecided', hvalid⟩ := evaluateRefundPolicy_eq_ok h
    obtain rfl : decidedAt = decidedAt' := Option.some.inj (hdecided.symm.trans hdecided')
    have hrange := JS.Date.parse_le hvalid
    refine ⟨(assertPolicyRelease_rules haccepted).mp hassert, ?_⟩
    change decidedAt + (rules release).decisionValiditySeconds * 1000 ≤ _
    omega
  · rintro ⟨hone, hrange⟩
    have hassert := (assertPolicyRelease_rules haccepted).mpr hone
    have hsorted : RefundPolicyInput.WellFormed
        { input with factRefs := sortedFactRefs input.factRefs } :=
      ⟨hinput.requestedAmount, hinput.refundableAmount, hinput.priorRefundCount⟩
    obtain ⟨hash, hhash⟩ := hashPolicyInput_ok hsorted
    obtain ⟨text, htext⟩ := validUntilText_ok (rules release) (JS.Date.parse_le hdecided)
      haccepted.validity.1 hrange
    obtain ⟨v, hv⟩ := verdict_ok (rules release) hinput
    unfold evaluateRefundPolicy
    rw [hassert, hdecided]
    simp only [bind, Except.bind, hhash, htext, hv, if_neg (not_not.mpr hversion),
      show (rules release).policyVersion = release.policyVersion from rfl]
    exact ⟨_, rfl⟩

namespace Sample

/-- A request for 20 dollars of 50. -/
def policyInput (policyVersion : String) : RefundPolicyInput where
  policyVersion := policyVersion
  request := ⟨"proposal_1", "order_1", "DAMAGED", .selectedItems, ["item_1"], some ⟨2000, "USD"⟩⟩
  facts := ⟨some true, some true, some true, some 0, some ⟨5000, "USD"⟩,
    some "ORIGINAL_PAYMENT_METHOD"⟩
  factRefs := []

theorem wellFormed_policyInput (policyVersion : String) :
    (policyInput policyVersion).WellFormed where
  requestedAmount := by
    rintro money ⟨⟩
    exact ⟨by decide, by decide⟩
  refundableAmount := by
    rintro money ⟨⟩
    exact ⟨by decide, by decide⟩
  priorRefundCount := by
    rintro n ⟨⟩
    exact ⟨by decide, by decide⟩

def decidedNow : PolicyDecisionContext := ⟨"decision_1", "2026-09-14T10:00:00.000Z"⟩

end Sample

theorem catalog_release_decides_v1 : ∃ release, ∃ decision,
    RefundPolicy.loadRefundPolicyCatalog (JS.parse (RefundPolicy.Sample.catalog
      [RefundPolicy.Sample.release "refund-policy-v1" 1 (RefundPolicy.Sample.integer 900) []])) = .ok [release] ∧
    evaluateRefundPolicy (Sample.policyInput "refund-policy-v1") (rules release)
      Sample.decidedNow = .ok decision := by
  have hload : RefundPolicy.loadRefundPolicyCatalog (JS.parse (RefundPolicy.Sample.catalog
      [RefundPolicy.Sample.release "refund-policy-v1" 1 (RefundPolicy.Sample.integer 900) []])) =
      .ok [⟨"refund-policy-v1", "USD", 10000, 50000, 1, 2, 900, RefundPolicy.Sample.reasonCodes,
        none⟩] := by decide +kernel
  obtain ⟨decision, hdecision⟩ := (catalog_release_decides hload List.mem_cons_self
    (Sample.wellFormed_policyInput "refund-policy-v1") rfl
    (show JS.Date.parse Sample.decidedNow.decidedAt = some 1789380000000 by decide +kernel)).mpr
    ⟨by decide, by decide⟩
  exact ⟨_, decision, hload, hdecision⟩

/-- The catalog takes a release that counts an elevated risk from no refund at all, and the
evaluator rejects it. -/
theorem accepted_release_rejected : ∃ release,
    RefundPolicy.loadRefundPolicyCatalog (JS.parse (RefundPolicy.Sample.catalog
      [RefundPolicy.Sample.release "refund-policy-v3" 0 (RefundPolicy.Sample.integer 900) []])) = .ok [release] ∧
    (Sample.policyInput "refund-policy-v3").WellFormed ∧
    (Sample.policyInput "refund-policy-v3").policyVersion = release.policyVersion ∧
    (JS.Date.parse Sample.decidedNow.decidedAt).isSome = true ∧
    evaluateRefundPolicy (Sample.policyInput "refund-policy-v3") (rules release)
      Sample.decidedNow = .error "INVALID_POLICY_RELEASE" :=
  ⟨⟨"refund-policy-v3", "USD", 10000, 50000, 0, 2, 900, RefundPolicy.Sample.reasonCodes, none⟩,
    by decide +kernel, Sample.wellFormed_policyInput _, rfl, by decide +kernel, by decide +kernel⟩

end CSO.Workers
