import CSO.Workers.Evaluation

/-! The policy on harder requests: more money, more refunds before, less to refund from. -/
namespace CSO.Workers

/-- The order of the effects that decide, the strictest last. -/
def PolicyEffect.strictness : PolicyEffect → ℕ
  | .allow => 0
  | .approvalRequired => 1
  | .takeoverRequired => 2
  | .deny => 3
  | .needsFacts => 4

/-- The second input asks for no less, after no fewer refunds, with no more to refund from, and is
the same otherwise. -/
structure Harder (input input' : RefundPolicyInput) : Prop where
  same : input' = { input with
    request := { input.request with requestedAmount := input'.request.requestedAmount }
    facts := { input.facts with
      priorRefundCount := input'.facts.priorRefundCount
      refundableAmount := input'.facts.refundableAmount } }
  requestedAmount : ∃ currency amount amount',
    input.request.requestedAmount = some ⟨amount, currency⟩ ∧
      input'.request.requestedAmount = some ⟨amount', currency⟩ ∧ 0 < amount ∧ amount ≤ amount'
  priorRefundCount :
    Option.Rel (· ≤ ·) input.facts.priorRefundCount input'.facts.priorRefundCount
  refundableAmount : Option.Rel (fun money money' : Money =>
    money'.currency = money.currency ∧ money'.amountMinor ≤ money.amountMinor)
    input.facts.refundableAmount input'.facts.refundableAmount

/-- The second decision is as strict as the first. Where the first waits for a photo the second
waits for it too, or denies. -/
def NoWeaker (effect : PolicyEffect) (missingFacts : List MissingFact) (effect' : PolicyEffect)
    (missingFacts' : List MissingFact) : Prop :=
  if effect = .needsFacts then
    effect' = .needsFacts ∧ missingFacts' = missingFacts ∨
      missingFacts = [.damagePhoto] ∧ effect' = .deny
  else effect' ≠ .needsFacts ∧ effect.strictness ≤ effect'.strictness

/-- The refund that a decision leaves open is positive and covered. -/
def Bounded (input : RefundPolicyInput) : Prop :=
  ∃ requestedAmount refundableAmount, input.request.requestedAmount = some requestedAmount ∧
    input.facts.refundableAmount = some refundableAmount ∧ 0 < requestedAmount.amountMinor ∧
    requestedAmount.amountMinor ≤ refundableAmount.amountMinor ∧
    requestedAmount.currency = refundableAmount.currency

variable {input input' : RefundPolicyInput} {release : RefundPolicyRelease}
  {requestedAmount refundableAmount requestedAmount' refundableAmount' : Money}
  {riskClass riskClass' : RefundRiskClass} {v v' : Verdict} {n n' : ℤ}

theorem rel_eq_none {α : Type} {R : α → α → Prop} {a b : Option α} (h : Option.Rel R a b) :
    a = none ↔ b = none := by
  cases h <;> simp

/-- The same facts are missing. -/
theorem findMissingFacts_harder (h : Harder input input') :
    findMissingFacts input' = findMissingFacts input := by
  obtain ⟨currency, amount, amount', hrequested, hrequested', -, -⟩ := h.requestedAmount
  have hprior := rel_eq_none h.priorRefundCount
  have hrefundable := rel_eq_none h.refundableAmount
  rw [h.same]
  simp only [findMissingFacts, hrequested, hrequested', hprior, hrefundable, reduceCtorEq]

/-! The ladder of risk and amount. -/

def RefundRiskClass.level : RefundRiskClass → ℕ
  | .low => 0
  | .elevated => 1
  | .high => 2

theorem assessRefundRisk_mono (hrelease : assertPolicyRelease release = .ok ()) (hle : n ≤ n')
    (h : assessRefundRisk n release = .ok riskClass)
    (h' : assessRefundRisk n' release = .ok riskClass') :
    riskClass.level ≤ riskClass'.level := by
  have hladder : release.elevatedRiskPriorRefundCount < release.highRiskPriorRefundCount := by
    unfold assertPolicyRelease at hrelease
    split_ifs at hrelease with hvalid
    exact hvalid.2.2.2.2.2.2.2.1
  unfold assessRefundRisk at h h'
  split_ifs at h with h₁ h₂ h₃ <;> cases h <;> split_ifs at h' with h₁' h₂' h₃' <;> cases h' <;>
    simp only [RefundRiskClass.level] <;> omega

theorem takeoverReasons_eq_nil : takeoverReasons release requestedAmount
      input.facts.refundDestination riskClass = [] ↔
    requestedAmount.currency = release.supportedCurrency ∧
      input.facts.refundDestination = some "ORIGINAL_PAYMENT_METHOD" ∧ riskClass ≠ .high ∧
      requestedAmount.amountMinor ≤ release.approvalMaximumMinor := by
  simp only [takeoverReasons, List.flatten_cons, List.flatten_nil, List.append_eq_nil_iff,
    pushIf_eq_nil, not_not, not_lt, and_true]

theorem approvalReasons_eq_nil : approvalReasons release requestedAmount riskClass = [] ↔
    riskClass ≠ .elevated ∧ requestedAmount.amountMinor ≤ release.automaticMaximumMinor := by
  simp only [approvalReasons, List.flatten_cons, List.flatten_nil, List.append_eq_nil_iff,
    pushIf_eq_nil, not_lt, and_true]

/-- What risk and amount decide, with the conditions of each effect. -/
theorem riskVerdict_effect (input : RefundPolicyInput) (release : RefundPolicyRelease)
    (requestedAmount : Money) (riskClass : RefundRiskClass) :
    (riskVerdict input release requestedAmount riskClass).effect =
      if takeoverReasons release requestedAmount input.facts.refundDestination riskClass ≠ [] then
        .takeoverRequired
      else if approvalReasons release requestedAmount riskClass ≠ [] then .approvalRequired
      else .allow := by
  unfold riskVerdict
  dsimp only
  split_ifs <;> rfl

theorem riskVerdict_mono
    (hsame : input'.facts.refundDestination = input.facts.refundDestination)
    (hcurrency : requestedAmount'.currency = requestedAmount.currency)
    (hamount : requestedAmount.amountMinor ≤ requestedAmount'.amountMinor)
    (hrisk : riskClass.level ≤ riskClass'.level) :
    (riskVerdict input release requestedAmount riskClass).effect.strictness ≤
      (riskVerdict input' release requestedAmount' riskClass').effect.strictness := by
  have htakeover : takeoverReasons release requestedAmount' input'.facts.refundDestination
      riskClass' = [] →
      takeoverReasons release requestedAmount input.facts.refundDestination riskClass = [] := by
    rw [takeoverReasons_eq_nil, takeoverReasons_eq_nil]
    rintro ⟨hsupported, hdestination, hhigh, hmaximum⟩
    refine ⟨hcurrency ▸ hsupported, hsame ▸ hdestination, ?_, hamount.trans hmaximum⟩
    rintro rfl
    cases riskClass' <;> simp [RefundRiskClass.level] at hrisk hhigh
  have happroval : riskClass' ≠ .high →
      approvalReasons release requestedAmount' riskClass' = [] →
      approvalReasons release requestedAmount riskClass = [] := by
    rw [approvalReasons_eq_nil, approvalReasons_eq_nil]
    rintro hhigh ⟨helevated, hmaximum⟩
    refine ⟨?_, hamount.trans hmaximum⟩
    rintro rfl
    cases riskClass' <;> simp [RefundRiskClass.level] at hrisk hhigh helevated
  rw [riskVerdict_effect, riskVerdict_effect]
  by_cases htakeover' : takeoverReasons release requestedAmount' input'.facts.refundDestination
    riskClass' = []
  · have hhigh := (takeoverReasons_eq_nil.mp htakeover').2.2.1
    rw [if_neg (not_not.mpr (htakeover htakeover')), if_neg (not_not.mpr htakeover')]
    by_cases happroval' : approvalReasons release requestedAmount' riskClass' = []
    · rw [if_neg (not_not.mpr (happroval hhigh happroval')), if_neg (not_not.mpr happroval')]
    · rw [if_pos happroval']
      split_ifs <;> simp [PolicyEffect.strictness]
  · rw [if_pos htakeover']
    split_ifs <;> simp [PolicyEffect.strictness]

/-! The rules before it. -/

theorem denialReason_eq_none :
    denialReason input release requestedAmount refundableAmount = none ↔
      input.facts.customerVerified ≠ some false ∧
        input.facts.transactionRefundable ≠ some false ∧
        release.permittedReasonCodes.contains input.request.reasonCode = true ∧
        input.facts.itemSelectionValid ≠ some false ∧ requestedAmount.amountMinor ≠ 0 ∧
        requestedAmount.currency = refundableAmount.currency ∧
        requestedAmount.amountMinor ≤ refundableAmount.amountMinor := by
  unfold denialReason
  split_ifs <;> simp_all

/-- The gate of the photo. -/
def AwaitsPhoto (input : RefundPolicyInput) (release : RefundPolicyRelease) : Prop :=
  release.requireDamagePhoto = true ∧ input.request.reasonCode = "DAMAGED" ∧
    ¬hasAcceptedDamageEvidence input = true

theorem amountVerdict_cases
    (h : amountVerdict input release requestedAmount refundableAmount = .ok v) :
    (denialReason input release requestedAmount refundableAmount ≠ none ∧ v.effect = .deny) ∨
      denialReason input release requestedAmount refundableAmount = none ∧
        (AwaitsPhoto input release ∧ v.effect = .needsFacts ∧ v.missingFacts = [.damagePhoto] ∨
          ¬AwaitsPhoto input release ∧ ∃ riskClass,
            assessRefundRisk (input.facts.priorRefundCount.getD 0) release = .ok riskClass ∧
            v = riskVerdict input release requestedAmount riskClass) := by
  unfold amountVerdict at h
  cases hdenial : denialReason input release requestedAmount refundableAmount with
  | some reason =>
    rw [hdenial] at h
    cases h
    exact Or.inl ⟨Option.some_ne_none reason, rfl⟩
  | none =>
    rw [hdenial] at h
    dsimp only at h
    refine Or.inr ⟨rfl, ?_⟩
    split_ifs at h with hphoto
    · cases h
      exact Or.inl ⟨hphoto, rfl, rfl⟩
    · cases hrisk : assessRefundRisk (input.facts.priorRefundCount.getD 0) release with
      | error message =>
        rw [hrisk] at h
        cases h
      | ok riskClass =>
        rw [hrisk] at h
        cases h
        exact Or.inr ⟨hphoto, riskClass, rfl, rfl⟩

theorem verdict_cases (h : verdict input release = .ok v) :
    (findMissingFacts input ≠ [] ∧ v.effect = .needsFacts ∧
        v.missingFacts = findMissingFacts input) ∨
      findMissingFacts input = [] ∧ ∃ requestedAmount refundableAmount,
        input.request.requestedAmount = some requestedAmount ∧
        input.facts.refundableAmount = some refundableAmount ∧
        0 ≤ requestedAmount.amountMinor ∧
        amountVerdict input release requestedAmount refundableAmount = .ok v := by
  unfold verdict at h
  dsimp only at h
  split_ifs at h with hmissing
  · cases h
    exact Or.inl ⟨hmissing, rfl, rfl⟩
  · refine Or.inr ⟨not_not.mp hmissing, ?_⟩
    split at h
    · rename_i requestedAmount refundableAmount hrequested hrefundable
      obtain ⟨⟨⟩, hmoney, h⟩ := except_bind_eq_ok h
      obtain ⟨⟨⟩, -, h⟩ := except_bind_eq_ok h
      unfold assertMoney at hmoney
      split_ifs at hmoney with hvalid
      exact ⟨requestedAmount, refundableAmount, hrequested, hrefundable, hvalid.2, h⟩
    · cases h

theorem bounded_of_verdict (h : verdict input release = .ok v)
    (heffect : v.effect = .allow ∨ v.effect = .approvalRequired ∨ v.effect = .takeoverRequired) :
    Bounded input := by
  have hopen : v.effect ≠ .needsFacts ∧ v.effect ≠ .deny := by
    rcases heffect with heffect | heffect | heffect <;> rw [heffect] <;> exact ⟨by decide, by decide⟩
  rcases verdict_cases h with ⟨-, hneeds, -⟩ |
    ⟨-, requestedAmount, refundableAmount, hrequested, hrefundable, hnonneg, h⟩
  · exact absurd hneeds hopen.1
  · rcases amountVerdict_cases h with ⟨-, hdeny⟩ | ⟨hnone, -⟩
    · exact absurd hdeny hopen.2
    · obtain ⟨-, -, -, -, hpositive, hcurrency, hcovered⟩ := denialReason_eq_none.mp hnone
      exact ⟨requestedAmount, refundableAmount, hrequested, hrefundable,
        lt_of_le_of_ne hnonneg (Ne.symm hpositive), hcovered, hcurrency⟩

/-- A denial stays a denial. -/
theorem denialReason_harder (h : Harder input input')
    (hrequested : input.request.requestedAmount = some requestedAmount)
    (hrequested' : input'.request.requestedAmount = some requestedAmount')
    (hrefundable : input.facts.refundableAmount = some refundableAmount)
    (hrefundable' : input'.facts.refundableAmount = some refundableAmount')
    (hnone : denialReason input' release requestedAmount' refundableAmount' = none) :
    denialReason input release requestedAmount refundableAmount = none := by
  obtain ⟨currency, amount, amount', hamount, hamount', hpositive, hle⟩ := h.requestedAmount
  obtain rfl := Option.some.inj (hrequested.symm.trans hamount)
  obtain rfl := Option.some.inj (hrequested'.symm.trans hamount')
  have hless := h.refundableAmount
  rw [hrefundable, hrefundable'] at hless
  cases hless with
  | some hless =>
    rw [denialReason_eq_none] at hnone ⊢
    rw [h.same] at hnone
    obtain ⟨hcustomer, htransaction, hreason, hitems, -, hcurrency, hcovered⟩ := hnone
    exact ⟨hcustomer, htransaction, hreason, hitems, ne_of_gt hpositive,
      hcurrency.trans hless.1, hle.trans (hcovered.trans hless.2)⟩

theorem awaitsPhoto_harder (h : Harder input input') :
    AwaitsPhoto input' release ↔ AwaitsPhoto input release := by
  rw [h.same]
  exact Iff.rfl

theorem priorRefundCount_harder (h : Harder input input') :
    input.facts.priorRefundCount.getD 0 ≤ input'.facts.priorRefundCount.getD 0 := by
  have hprior := h.priorRefundCount
  generalize input.facts.priorRefundCount = prior at hprior
  generalize input'.facts.priorRefundCount = prior' at hprior
  cases hprior with
  | some hle => exact hle
  | none => exact le_refl 0

theorem verdict_harder (hrelease : assertPolicyRelease release = .ok ()) (hharder : Harder input input')
    (h : verdict input release = .ok v) (h' : verdict input' release = .ok v') :
    NoWeaker v.effect v.missingFacts v'.effect v'.missingFacts := by
  have hsame := findMissingFacts_harder hharder
  unfold NoWeaker
  rcases verdict_cases h with ⟨hmissing, hneeds, hfacts⟩ |
    ⟨hmissing, requestedAmount, refundableAmount, hrequested, hrefundable, -, h⟩
  · -- The same facts are missing for the second input.
    rcases verdict_cases h' with ⟨-, hneeds', hfacts'⟩ | ⟨hmissing', -⟩
    · rw [if_pos hneeds]
      exact Or.inl ⟨hneeds', by rw [hfacts, hfacts', hsame]⟩
    · exact absurd (hsame ▸ hmissing') hmissing
  rcases verdict_cases h' with ⟨hmissing', -⟩ |
    ⟨-, requestedAmount', refundableAmount', hrequested', hrefundable', -, h'⟩
  · exact absurd (hsame ▸ hmissing) hmissing'
  rcases amountVerdict_cases h' with ⟨-, hdeny'⟩ | ⟨hnone', h'⟩
  · -- A denial is as strict as anything.
    rw [hdeny']
    split_ifs with hneeds
    · rcases amountVerdict_cases h with ⟨-, hdeny⟩ | ⟨-, ⟨-, -, hphoto⟩ | ⟨-, riskClass, -, rfl⟩⟩
      · rw [hdeny] at hneeds
        cases hneeds
      · exact Or.inr ⟨hphoto, rfl⟩
      · rw [riskVerdict_effect] at hneeds
        split_ifs at hneeds
    · refine ⟨by decide, ?_⟩
      cases heffect : v.effect <;> simp [PolicyEffect.strictness, heffect] at hneeds ⊢
  have hnone := denialReason_harder hharder hrequested hrequested' hrefundable hrefundable' hnone'
  rcases amountVerdict_cases h with ⟨hdenial, -⟩ | ⟨-, h⟩
  · exact absurd hnone hdenial
  rcases h with ⟨hphoto, hneeds, hfacts⟩ | ⟨hphoto, riskClass, hrisk, rfl⟩
  · rcases h' with ⟨-, hneeds', hfacts'⟩ | ⟨hphoto', -⟩
    · rw [if_pos hneeds]
      exact Or.inl ⟨hneeds', by rw [hfacts, hfacts']⟩
    · exact absurd ((awaitsPhoto_harder hharder).mpr hphoto) hphoto'
  · rcases h' with ⟨hphoto', -⟩ | ⟨-, riskClass', hrisk', rfl⟩
    · exact absurd ((awaitsPhoto_harder hharder).mp hphoto') hphoto
    · have hdecides : ∀ (input : RefundPolicyInput) (amount : Money) (riskClass : RefundRiskClass),
          (riskVerdict input release amount riskClass).effect ≠ .needsFacts := by
        intro input amount riskClass
        rw [riskVerdict_effect]
        split_ifs <;> decide
      obtain ⟨currency, amount, amount', hamount, hamount', -, hle⟩ := hharder.requestedAmount
      obtain rfl := Option.some.inj (hrequested.symm.trans hamount)
      obtain rfl := Option.some.inj (hrequested'.symm.trans hamount')
      rw [if_neg (hdecides _ _ _)]
      exact ⟨hdecides _ _ _, riskVerdict_mono (by rw [hharder.same]) rfl hle
        (assessRefundRisk_mono hrelease (priorRefundCount_harder hharder) hrisk hrisk')⟩

/-- The policy is never weaker on a harder request, and leaves a refund open only within what is
refundable. -/
theorem policy_monotone (release : RefundPolicyRelease) :
    (∀ input input' context context' decision decision', Harder input input' →
      evaluateRefundPolicy input release context = .ok decision →
      evaluateRefundPolicy input' release context' = .ok decision' →
      NoWeaker decision.effect decision.missingFacts decision'.effect decision'.missingFacts) ∧
    ∀ input context decision, evaluateRefundPolicy input release context = .ok decision →
      decision.effect = .allow ∨ decision.effect = .approvalRequired ∨
        decision.effect = .takeoverRequired → Bounded input := by
  constructor
  · intro input input' context context' decision decision' hharder h h'
    obtain ⟨hrelease, -, -, -, ⟨v, hv, heffect, hfacts⟩, -⟩ := evaluateRefundPolicy_eq_ok h
    obtain ⟨-, -, -, -, ⟨v', hv', heffect', hfacts'⟩, -⟩ := evaluateRefundPolicy_eq_ok h'
    rw [heffect, hfacts, heffect', hfacts']
    exact verdict_harder hrelease hharder hv hv'
  · intro input context decision h heffect
    obtain ⟨-, -, -, -, ⟨v, hv, hsame, -⟩, -⟩ := evaluateRefundPolicy_eq_ok h
    exact bounded_of_verdict hv (hsame ▸ heffect)

namespace Sample

/-- A request for 300 dollars of 400, after one refund. -/
def harderInput (policyVersion : String) : RefundPolicyInput where
  policyVersion := policyVersion
  request := ⟨"proposal_1", "order_1", "DAMAGED", .selectedItems, ["item_1"], some ⟨30000, "USD"⟩⟩
  facts := ⟨some true, some true, some true, some 1, some ⟨40000, "USD"⟩,
    some "ORIGINAL_PAYMENT_METHOD"⟩
  factRefs := []

/-- A request for 20 dollars of 500. -/
def easierInput (policyVersion : String) : RefundPolicyInput where
  policyVersion := policyVersion
  request := ⟨"proposal_1", "order_1", "DAMAGED", .selectedItems, ["item_1"], some ⟨2000, "USD"⟩⟩
  facts := ⟨some true, some true, some true, some 0, some ⟨50000, "USD"⟩,
    some "ORIGINAL_PAYMENT_METHOD"⟩
  factRefs := []

theorem harder (policyVersion : String) :
    Harder (easierInput policyVersion) (harderInput policyVersion) where
  same := rfl
  requestedAmount := ⟨"USD", 2000, 30000, rfl, rfl, by decide, by decide⟩
  priorRefundCount := .some (by decide)
  refundableAmount := .some ⟨rfl, by decide⟩

theorem exists_decision {input : RefundPolicyInput}
    (h : (evaluateRefundPolicy input refundPolicyV1 decidedNow).toOption.isSome = true) :
    ∃ decision, evaluateRefundPolicy input refundPolicyV1 decidedNow = .ok decision := by
  cases hresult : evaluateRefundPolicy input refundPolicyV1 decidedNow with
  | error message =>
    rw [hresult] at h
    cases h
  | ok decision => exact ⟨decision, rfl⟩

end Sample

theorem policy_monotone_v1 : ∃ decision decision',
    evaluateRefundPolicy (Sample.easierInput "refund-policy-v1") refundPolicyV1
      Sample.decidedNow = .ok decision ∧
    evaluateRefundPolicy (Sample.harderInput "refund-policy-v1") refundPolicyV1
      Sample.decidedNow = .ok decision' ∧
    NoWeaker decision.effect decision.missingFacts decision'.effect decision'.missingFacts := by
  obtain ⟨decision, h⟩ := Sample.exists_decision (by decide +kernel :
    (evaluateRefundPolicy (Sample.easierInput "refund-policy-v1") refundPolicyV1
      Sample.decidedNow).toOption.isSome = true)
  obtain ⟨decision', h'⟩ := Sample.exists_decision (by decide +kernel :
    (evaluateRefundPolicy (Sample.harderInput "refund-policy-v1") refundPolicyV1
      Sample.decidedNow).toOption.isSome = true)
  exact ⟨decision, decision', h, h',
    (policy_monotone refundPolicyV1).1 _ _ _ _ _ _ (Sample.harder "refund-policy-v1") h h'⟩

end CSO.Workers
