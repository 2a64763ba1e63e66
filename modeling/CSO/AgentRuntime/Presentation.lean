import CSO.AgentRuntime.PolicyCatalog
import CSO.Commerce
import Mathlib.Data.Nat.Digits.Defs

/-! The presentation that the application puts around an answer of the model. -/
namespace CSO.AgentRuntime

/-- An amount as the contract of the order lookup carries it. -/
structure Money extends CSO.Money where
  bounds : 0 ≤ amountMinor ∧ amountMinor ≤ jsonSafeIntegerMax

inductive AnswerPurpose
  | refundRequest
  | missingDetails
  | amountReview
  | providerTiming
  | policyQuestion
  deriving DecidableEq, Repr

inductive MissingField
  | orderReference
  | refundReason
  | refundScope
  | itemSelection
  deriving DecidableEq, Repr

inductive ProposalScope
  | fullOrder
  | selectedItems
  | unspecified
  deriving DecidableEq, Repr

structure KnowledgeCitation where
  knowledgeDocumentId : String
  chunkId : String
  deriving DecidableEq, Repr

/-- What the contract of an answer admits. -/
def AnswerContract (message : String) (citations : List KnowledgeCitation) : Prop :=
  1 ≤ message.length ∧ message.length ≤ 2000 ∧ citations.length ≤ 10 ∧ citations.Nodup

instance (message : String) (citations : List KnowledgeCitation) :
    Decidable (AnswerContract message citations) := inferInstanceAs (Decidable (_ ∧ _ ∧ _ ∧ _))

structure CustomerAnswer where
  message : String
  citations : List KnowledgeCitation
  contract : AnswerContract message citations

/-- `_public_answer`, `none` where the answer does not meet its contract. -/
def publicAnswer (message : String) (citations : List KnowledgeCitation) : Option CustomerAnswer :=
  if h : AnswerContract message citations then some ⟨message, citations, h⟩ else none

/-- The last three digits, a comma, and so on. The digits are in reverse. -/
def groupDigits : List Char → List Char
  | a :: b :: c :: d :: digits => a :: b :: c :: ',' :: groupDigits (d :: digits)
  | digits => digits

/-- The format `,` of a natural number. -/
def thousands (n : ℕ) : String :=
  String.ofList (groupDigits (Nat.toDigits 10 n).reverse).reverse

/-- The format `02d`. -/
def twoDigits (n : ℕ) : String :=
  String.ofList (if n < 10 then '0' :: Nat.toDigits 10 n else Nat.toDigits 10 n)

def formatRequestedAmount : Option Money → Option String
  | none => none
  | some amount =>
    if amount.currency ≠ "USD" then none
    else
      let minor := amount.amountMinor.toNat
      some ("USD " ++ thousands (minor / 100) ++ "." ++ twoDigits (minor % 100))

def formatPolicyAmount (amountMinor : ℤ) : String :=
  let minor := amountMinor.toNat
  if minor % 100 = 0 then "$" ++ thousands (minor / 100)
  else "$" ++ thousands (minor / 100) ++ "." ++ twoDigits (minor % 100)

def appendRequestedAmount (answer : CustomerAnswer) (amount : Option Money) :
    Option CustomerAnswer :=
  match formatRequestedAmount amount with
  | none => publicAnswer answer.message answer.citations
  | some displayAmount => publicAnswer
      (answer.message ++ "\n\nProposed refund: " ++ displayAmount ++ ".") answer.citations

def amountReviewContextRequired : String :=
  "I can explain the applicable amount-review path once the refund amount " ++
    "and request details are available."

/-- The branch that explains how an amount is reviewed. -/
inductive AmountReview
  | automatic
  | humanApproval
  | specialistReview
  deriving DecidableEq, Repr

def amountReview (requestedAmount : Option Money) (proposalScope : ProposalScope)
    (missingFields : List MissingField) (refundPolicy : Option VerifiedRefundPolicy) :
    Option (AmountReview × Money × VerifiedRefundPolicy) :=
  match refundPolicy, requestedAmount with
  | some policy, some requested =>
    if requested.amountMinor ≤ 0 ∨ requested.currency ≠ policy.currency ∨
        proposalScope = .unspecified ∨ missingFields ≠ [] then
      none
    else if policy.approvalMaximumMinor < requested.amountMinor then
      some (.specialistReview, requested, policy)
    else if policy.automaticMaximumMinor < requested.amountMinor then
      some (.humanApproval, requested, policy)
    else some (.automatic, requested, policy)
  | _, _ => none

/-- The message of a branch. -/
def AmountReview.message (review : AmountReview) (requested : Money)
    (policy : VerifiedRefundPolicy) : String :=
  let amount := formatPolicyAmount requested.amountMinor
  let automaticMaximum := formatPolicyAmount policy.automaticMaximumMinor
  let approvalMaximum := formatPolicyAmount policy.approvalMaximumMinor
  match review with
  | .specialistReview =>
    "Your requested refund of " ++ amount ++ " is above the " ++ approvalMaximum ++
      " specialist-review threshold, so it requires specialist review before " ++
      "it can be approved."
  | .humanApproval =>
    "Your requested refund of " ++ amount ++ " is above the " ++ automaticMaximum ++
      " automatic-approval limit and at or below the " ++ approvalMaximum ++
      " specialist-review threshold, so it requires " ++ "human approval."
  | .automatic =>
    "Your requested refund of " ++ amount ++ " is at or below the " ++ automaticMaximum ++
      " automatic-approval limit. Automatic approval " ++
      "is possible only after eligibility and evidence checks."

def renderCustomerAnswer (answer : CustomerAnswer) (purpose : AnswerPurpose)
    (requestedAmount : Option Money) (proposalScope : ProposalScope)
    (missingFields : List MissingField) (refundPolicy : Option VerifiedRefundPolicy) :
    Option CustomerAnswer :=
  if purpose ≠ .amountReview then
    (publicAnswer answer.message answer.citations).bind fun answer =>
      if purpose = .refundRequest then appendRequestedAmount answer requestedAmount
      else some answer
  else match amountReview requestedAmount proposalScope missingFields refundPolicy with
  | none => publicAnswer amountReviewContextRequired []
  | some (review, requested, policy) => publicAnswer (review.message requested policy) []

/-! An amount that is explained fits into an answer. -/

theorem length_groupDigits_le (digits : List Char) :
    (groupDigits digits).length ≤ 2 * digits.length := by
  induction digits using groupDigits.induct with
  | case1 a b c d digits ih =>
    rw [groupDigits]
    simp only [List.length_cons] at ih ⊢
    omega
  | case2 digits hfew =>
    rw [groupDigits]
    · omega
    · exact hfew

theorem length_thousands_le {n e : ℕ} (he : 0 < e) (h : n < 10 ^ e) :
    (thousands n).length ≤ 2 * e := by
  have hdigits := Nat.toDigits_length 10 n e he h
  have hgrouped := length_groupDigits_le (Nat.toDigits 10 n).reverse
  rw [List.length_reverse] at hgrouped
  rw [thousands, String.length_ofList, List.length_reverse]
  omega

theorem length_twoDigits_le {n : ℕ} (h : n < 100) : (twoDigits n).length ≤ 3 := by
  have hdigits := Nat.toDigits_length 10 n 2 (by decide) h
  rw [twoDigits, String.length_ofList]
  split_ifs
  · rw [List.length_cons]
    omega
  · omega

theorem length_formatPolicyAmount_le {amountMinor : ℤ} (h : amountMinor ≤ jsonSafeIntegerMax) :
    (formatPolicyAmount amountMinor).length ≤ 40 := by
  have hminor : amountMinor.toNat ≤ 9007199254740991 := by
    rw [jsonSafeIntegerMax] at h
    omega
  have hdollars : (thousands (amountMinor.toNat / 100)).length ≤ 2 * 14 :=
    length_thousands_le (by decide) (by omega)
  have hcents := length_twoDigits_le (Nat.mod_lt amountMinor.toNat (by decide : 0 < 100))
  have hdollar : "$".length = 1 := by decide
  have hpoint : ".".length = 1 := by decide
  rw [formatPolicyAmount]
  split_ifs
  · rw [String.length_append]
    omega
  · rw [String.length_append, String.length_append, String.length_append]
    omega

end CSO.AgentRuntime
