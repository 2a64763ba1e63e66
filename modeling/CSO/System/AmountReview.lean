import CSO.AgentRuntime.Presentation
import CSO.System.PolicyCatalogs
import CSO.Workers.Monotone

/-! The explanation of an amount's review against the policy's decision. -/
namespace CSO.System
open AgentRuntime
open RefundPolicy (Release)
open Workers (RefundPolicyInput RefundPolicyRelease RefundPolicyDecision PolicyDecisionContext
  PolicyEffect AwaitsPhoto rules evaluateRefundPolicy findMissingFacts)

/-- The effect that a branch explains. -/
def reviewEffect : AmountReview → PolicyEffect
  | .automatic => .allow
  | .humanApproval => .approvalRequired
  | .specialistReview => .takeoverRequired

/-- A positive amount in dollars that the balance covers, of low risk, for a permitted reason, to
the original payment method, with the photo accepted where one is required. -/
structure AmountDecides (input : RefundPolicyInput) (release : RefundPolicyRelease)
    (requested : CSO.Money) : Prop where
  asked : input.request.requestedAmount = some requested
  positive : 0 < requested.amountMinor
  dollars : requested.currency = "USD"
  covered : ∃ refundable, input.facts.refundableAmount = some refundable ∧
    refundable.currency = "USD" ∧ requested.amountMinor ≤ refundable.amountMinor
  lowRisk : ∃ n, input.facts.priorRefundCount = some n ∧
    Workers.assessRefundRisk n release = .ok .low
  permitted : release.permittedReasonCodes.contains input.request.reasonCode = true
  destination : input.facts.refundDestination = some "ORIGINAL_PAYMENT_METHOD"
  photo : ¬AwaitsPhoto input release

/-- The facts that no amount replaces. -/
structure Established (input : RefundPolicyInput) : Prop where
  customer : input.facts.customerVerified = some true
  transaction : input.facts.transactionRefundable = some true
  items : input.facts.itemSelectionValid = some true
  reason : input.request.reasonCode ≠ "UNSPECIFIED"
  scope : input.request.scope ≠ .unspecified

variable {input : RefundPolicyInput} {release : RefundPolicyRelease} {requested : CSO.Money}
  {v : Workers.Verdict}

theorem established_iff (h : AmountDecides input release requested) : Established input ↔
    findMissingFacts input = [] ∧ input.facts.customerVerified ≠ some false ∧
      input.facts.transactionRefundable ≠ some false ∧
      input.facts.itemSelectionValid ≠ some false := by
  obtain ⟨refundable, hrefundable, -, -⟩ := h.covered
  obtain ⟨n, hn, -⟩ := h.lowRisk
  have hbool : ∀ b : Option Bool, b = some true ↔ b ≠ none ∧ b ≠ some false := by decide
  have hmissing : findMissingFacts input = [] ↔ input.facts.customerVerified ≠ none ∧
      input.facts.transactionRefundable ≠ none ∧ input.request.reasonCode ≠ "UNSPECIFIED" ∧
      input.request.scope ≠ .unspecified ∧ input.facts.itemSelectionValid ≠ none := by
    simp only [findMissingFacts, List.flatten_cons, List.flatten_nil, List.append_eq_nil_iff,
      Workers.pushIf_eq_nil, h.asked, hrefundable, h.destination, hn, reduceCtorEq,
      not_false_eq_true, and_true, not_or, ne_eq]
  rw [hmissing]
  constructor
  · intro hfacts
    obtain ⟨hc, hcustomer⟩ := (hbool _).mp hfacts.customer
    obtain ⟨ht, htransaction⟩ := (hbool _).mp hfacts.transaction
    obtain ⟨hi, hitems⟩ := (hbool _).mp hfacts.items
    exact ⟨⟨hc, ht, hfacts.reason, hfacts.scope, hi⟩, hcustomer, htransaction, hitems⟩
  · rintro ⟨⟨hc, ht, hreason, hscope, hi⟩, hcustomer, htransaction, hitems⟩
    exact ⟨(hbool _).mpr ⟨hc, hcustomer⟩, (hbool _).mpr ⟨ht, htransaction⟩,
      (hbool _).mpr ⟨hi, hitems⟩, hreason, hscope⟩

/-- Only the amount decides between the effects of an established request. -/
theorem verdict_of_amount (h : AmountDecides input release requested)
    (hcurrency : release.supportedCurrency = "USD") (hv : Workers.verdict input release = .ok v) :
    (¬Established input ∧ (v.effect = .deny ∨ v.effect = .needsFacts)) ∨
    Established input ∧ v.effect =
      if release.approvalMaximumMinor < requested.amountMinor then .takeoverRequired
      else if release.automaticMaximumMinor < requested.amountMinor then .approvalRequired
      else .allow := by
  obtain ⟨refundable, hrefundable, hdollars, hcovered⟩ := h.covered
  obtain ⟨n, hn, hrisk⟩ := h.lowRisk
  rw [established_iff h]
  rcases Workers.verdict_cases hv with ⟨hmissing, heffect, -⟩ |
    ⟨hmissing, requested', refundable', hrequested', hrefundable', -, hamount⟩
  · exact Or.inl ⟨fun hfacts => hmissing hfacts.1, Or.inr heffect⟩
  obtain rfl := Option.some.inj (h.asked.symm.trans hrequested')
  obtain rfl := Option.some.inj (hrefundable.symm.trans hrefundable')
  have hnone : Workers.denialReason input release requested refundable = none ↔ _ :=
    Workers.denialReason_eq_none
  rcases Workers.amountVerdict_cases hamount with ⟨hdenied, heffect⟩ | ⟨haccepted, hrest⟩
  · refine Or.inl ⟨?_, Or.inl heffect⟩
    rintro ⟨-, hcustomer, htransaction, hitems⟩
    exact hdenied (hnone.mpr ⟨hcustomer, htransaction, h.permitted, hitems, ne_of_gt h.positive,
      h.dollars.trans hdollars.symm, hcovered⟩)
  · obtain ⟨hcustomer, htransaction, -, hitems, -⟩ := hnone.mp haccepted
    refine Or.inr ⟨⟨hmissing, hcustomer, htransaction, hitems⟩, ?_⟩
    rcases hrest with ⟨hphoto, -⟩ | ⟨-, riskClass, hclass, rfl⟩
    · exact absurd hphoto h.photo
    · rw [hn, Option.getD_some, hrisk] at hclass
      cases hclass
      rw [Workers.riskVerdict_effect]
      have htakeover : Workers.takeoverReasons release requested input.facts.refundDestination
          .low = [] ↔ _ := Workers.takeoverReasons_eq_nil
      have happroval : Workers.approvalReasons release requested .low = [] ↔ _ :=
        Workers.approvalReasons_eq_nil
      by_cases habove : release.approvalMaximumMinor < requested.amountMinor
      · rw [if_pos habove, if_pos fun hnil => absurd habove (htakeover.mp hnil).2.2.2.not_gt]
      · rw [if_neg habove, if_neg (not_not.mpr (htakeover.mpr
          ⟨h.dollars.trans hcurrency.symm, h.destination, by decide, not_lt.mp habove⟩))]
        by_cases hautomatic : release.automaticMaximumMinor < requested.amountMinor
        · rw [if_pos hautomatic,
            if_pos fun hnil => absurd hautomatic (happroval.mp hnil).2.not_gt]
        · rw [if_neg hautomatic, if_neg (not_not.mpr (happroval.mpr
            ⟨by decide, not_lt.mp hautomatic⟩))]

/-- The branch that is chosen, by the limits of the policy. -/
theorem amountReview_eq_some {money money' : AgentRuntime.Money} {scope : ProposalScope}
    {missing : List MissingField} {policy policy' : VerifiedRefundPolicy} {review : AmountReview}
    (h : amountReview (some money) scope missing (some policy) = some (review, money', policy')) :
    money' = money ∧ policy' = policy ∧ reviewEffect review =
      if policy.approvalMaximumMinor < money.amountMinor then .takeoverRequired
      else if policy.automaticMaximumMinor < money.amountMinor then .approvalRequired
      else .allow := by
  simp only [amountReview] at h
  split_ifs at h with hcontext hspecialist hhuman <;> cases h
  · exact ⟨rfl, rfl, (if_pos hspecialist).symm⟩
  · exact ⟨rfl, rfl, by rw [if_neg hspecialist, if_pos hhuman]; rfl⟩
  · exact ⟨rfl, rfl, by rw [if_neg hspecialist, if_neg hhuman]; rfl⟩

theorem message_contract (review : AmountReview) (money : AgentRuntime.Money)
    {policy : VerifiedRefundPolicy}
    (hmaximum : policy.approvalMaximumMinor ≤ jsonSafeIntegerMax) :
    AnswerContract (review.message money policy) [] := by
  have hamount := length_formatPolicyAmount_le money.bounds.2
  have hautomatic := length_formatPolicyAmount_le (policy.bounds.trans hmaximum)
  have happroval := length_formatPolicyAmount_le hmaximum
  have hstart : "Your requested refund of ".length = 25 := by decide +kernel
  have hlength : 25 ≤ (review.message money policy).length ∧
      (review.message money policy).length ≤ 25 + 3 * 40 + 4 * 80 := by
    clear hmaximum
    unfold AmountReview.message
    generalize formatPolicyAmount money.amountMinor = amount at *
    generalize formatPolicyAmount policy.automaticMaximumMinor = automaticMaximum at *
    generalize formatPolicyAmount policy.approvalMaximumMinor = approvalMaximum at *
    -- The texts between the amounts.
    have hparts : ∀ text ∈ [" is at or below the ",
        " automatic-approval limit. Automatic approval ",
        "is possible only after eligibility and evidence checks.", " is above the ",
        " automatic-approval limit and at or below the ",
        " specialist-review threshold, so it requires ", "human approval.",
        " specialist-review threshold, so it requires specialist review before ",
        "it can be approved."], text.length ≤ 80 := by decide +kernel
    simp only [List.forall_mem_cons] at hparts
    cases review <;> simp only [String.length_append] <;> omega
  exact ⟨by omega, by omega, by decide, List.nodup_nil⟩

/-- Both services find the same limits in a catalog. -/
theorem limits_same {document : JS.Document} {releases : List Release} {release : Release}
    {binding : RefundPolicyBinding} {catalogSha256 : String} {policy : VerifiedRefundPolicy}
    (hworker : RefundPolicy.loadRefundPolicyCatalog (JS.parse document) = .ok releases)
    (hrelease : RefundPolicy.getRefundPolicyRelease releases binding.policyVersion = .ok release)
    (hagent : verifyRefundPolicy binding document catalogSha256 = .ok policy) :
    release.Accepted ∧ release.supportedCurrency = policy.currency ∧
      policy.automaticMaximumMinor = release.automaticMaximumMinor ∧
      policy.approvalMaximumMinor = release.approvalMaximumMinor := by
  obtain ⟨releases', release', hread, hfind, hcurrency, hautomatic, happroval⟩ :=
    verifyRefundPolicy_eq_ok hagent
  obtain rfl := (catalogs_agree document).2.2 releases releases' hworker hread
  unfold RefundPolicy.getRefundPolicyRelease at hrelease
  rw [hfind] at hrelease
  cases hrelease
  exact ⟨RefundPolicy.loadRefundPolicyCatalog_accepted hworker _ (List.mem_of_find?_eq_some hfind),
    hcurrency.symm, hautomatic, happroval⟩

/-- The branch that is shown for an amount is the effect that the policy decides for it. A request
that is not established is denied or waits for facts, whatever its amount. -/
theorem amount_review_agrees {document : JS.Document} {releases : List Release}
    {release : Release} {binding : RefundPolicyBinding} {catalogSha256 : String}
    {policy : VerifiedRefundPolicy}
    (hworker : RefundPolicy.loadRefundPolicyCatalog (JS.parse document) = .ok releases)
    (hrelease : RefundPolicy.getRefundPolicyRelease releases binding.policyVersion = .ok release)
    (hagent : verifyRefundPolicy binding document catalogSha256 = .ok policy)
    {context : PolicyDecisionContext} {decision : RefundPolicyDecision}
    {money : AgentRuntime.Money} (hamount : AmountDecides input (rules release) money.toMoney)
    (hdecision : evaluateRefundPolicy input (rules release) context = .ok decision)
    (answer : CustomerAnswer) {scope : ProposalScope} (hscope : scope ≠ .unspecified) :
    ∃ review shown, amountReview (some money) scope [] (some policy) =
        some (review, money, policy) ∧
      renderCustomerAnswer answer .amountReview (some money) scope [] (some policy) =
        some shown ∧ shown.message = review.message money policy ∧
      (Established input → decision.effect = reviewEffect review) ∧
      (¬Established input → decision.effect = .deny ∨ decision.effect = .needsFacts) := by
  obtain ⟨haccepted, hcurrency, hautomatic, happroval⟩ := limits_same hworker hrelease hagent
  -- The presentation has all it needs.
  obtain ⟨⟨review, money', policy'⟩, hreview⟩ :
      ∃ chosen, amountReview (some money) scope [] (some policy) = some chosen := by
    have hcontext : ¬(money.amountMinor ≤ 0 ∨ money.currency ≠ policy.currency ∨
        scope = .unspecified ∨ ([] : List MissingField) ≠ []) := by
      rintro (hzero | hother | hunspecified | hmissing)
      · exact absurd hamount.positive hzero.not_gt
      · exact hother (hamount.dollars.trans policy.currencyUsd.symm)
      · exact hscope hunspecified
      · exact hmissing rfl
    simp only [amountReview, if_neg hcontext]
    split_ifs
    · exact ⟨_, rfl⟩
    · exact ⟨_, rfl⟩
    · exact ⟨_, rfl⟩
  obtain ⟨rfl, rfl, heffect⟩ := amountReview_eq_some hreview
  have hmaximum : policy'.approvalMaximumMinor ≤ jsonSafeIntegerMax := by
    rw [happroval, jsonSafeIntegerMax]
    have hsafe := haccepted.approval.2
    omega
  have hcontract := message_contract review money' hmaximum
  refine ⟨review, ⟨_, [], hcontract⟩, hreview, ?_, rfl, ?_⟩
  · simp only [renderCustomerAnswer, ne_eq, not_true_eq_false, if_false, hreview, publicAnswer]
    exact dif_pos hcontract
  -- The policy weighs the same amount against the same limits.
  obtain ⟨-, -, -, -, ⟨v, hv, hsame, -⟩, -⟩ := Workers.evaluateRefundPolicy_eq_ok hdecision
  have hsupported : (rules release).supportedCurrency = "USD" :=
    hcurrency.trans policy'.currencyUsd
  rw [hsame]
  rcases verdict_of_amount hamount hsupported hv with ⟨hnot, hclosed⟩ | ⟨hestablished, hopen⟩
  · exact ⟨fun hestablished => absurd hestablished hnot, fun _ => hclosed⟩
  · refine ⟨fun _ => ?_, fun hnot => absurd hestablished hnot⟩
    rw [heffect, happroval, hautomatic]
    exact hopen

namespace Sample

def binding : RefundPolicyBinding := ⟨"refund-policy-v1", "digest"⟩

/-- 20 dollars. -/
def twenty : AgentRuntime.Money where
  amountMinor := 2000
  currency := "USD"
  bounds := by decide

def draft : CustomerAnswer := ⟨"Draft.", [], by decide⟩

theorem exists_ok {α : Type} {x : Except String α} (h : x.toOption.isSome = true) :
    ∃ a, x = .ok a := by
  cases x with
  | error message => cases h
  | ok a => exact ⟨a, rfl⟩

theorem amountDecides : AmountDecides (Workers.Sample.easierInput "refund-policy-v1")
    Workers.refundPolicyV1 twenty.toMoney where
  asked := rfl
  positive := by decide
  dollars := rfl
  covered := ⟨⟨50000, "USD"⟩, rfl, rfl, by decide⟩
  lowRisk := ⟨0, rfl, by decide⟩
  permitted := by decide
  destination := rfl
  photo := fun h => absurd h.1 (by decide)

end Sample

theorem amount_review_agrees_twenty : ∃ release policy decision review shown,
    verifyRefundPolicy Sample.binding RefundPolicy.Sample.releases "digest" = .ok policy ∧
    rules release = Workers.refundPolicyV1 ∧
    evaluateRefundPolicy (Workers.Sample.easierInput "refund-policy-v1") (rules release)
      Workers.Sample.decidedNow = .ok decision ∧
    renderCustomerAnswer Sample.draft .amountReview (some Sample.twenty) .fullOrder []
      (some policy) = some shown ∧ shown.message = review.message Sample.twenty policy ∧
    decision.effect = reviewEffect review := by
  obtain ⟨releases, hworker⟩ := Sample.exists_ok (by decide +kernel :
    (RefundPolicy.loadRefundPolicyCatalog
      (JS.parse RefundPolicy.Sample.releases)).toOption.isSome = true)
  have hrules : (RefundPolicy.loadRefundPolicyCatalog (JS.parse RefundPolicy.Sample.releases)
      >>= fun releases => RefundPolicy.getRefundPolicyRelease releases "refund-policy-v1").map
      rules = .ok Workers.refundPolicyV1 := by decide +kernel
  obtain ⟨policy, hagent⟩ := Sample.exists_ok (by decide +kernel :
    (verifyRefundPolicy Sample.binding RefundPolicy.Sample.releases
      "digest").toOption.isSome = true)
  rw [hworker] at hrules
  simp only [bind, Except.bind] at hrules
  cases hrelease : RefundPolicy.getRefundPolicyRelease releases "refund-policy-v1" with
  | error message =>
    rw [hrelease] at hrules
    cases hrules
  | ok release =>
    rw [hrelease] at hrules
    have hv1 : rules release = Workers.refundPolicyV1 := Except.ok.inj hrules
    obtain ⟨decision, hdecision⟩ := Workers.Sample.exists_decision (by decide +kernel :
      (evaluateRefundPolicy (Workers.Sample.easierInput "refund-policy-v1")
        Workers.refundPolicyV1 Workers.Sample.decidedNow).toOption.isSome = true)
    have hbound : RefundPolicy.getRefundPolicyRelease releases Sample.binding.policyVersion =
      .ok release := hrelease
    have hamount := hv1 ▸ Sample.amountDecides
    rw [← hv1] at hdecision
    obtain ⟨review, shown, -, hshown, hmessage, hopen, -⟩ :=
      amount_review_agrees hworker hbound hagent hamount hdecision
        Sample.draft (by decide : ProposalScope.fullOrder ≠ .unspecified)
    exact ⟨release, policy, decision, review, shown, hagent, hv1, hdecision, hshown, hmessage,
      hopen ⟨rfl, rfl, rfl, by decide, by decide⟩⟩

end CSO.System
