import CSO.AgentRuntime.Presentation
import CSO.Python.Regex

/-! The guards of the answer composer, and the rendering of a draft that passes them. -/
namespace CSO.AgentRuntime
open Python (Regex Unicode Cursor)
open Python.Regex

/-- What the guards read of an order. -/
structure OrderContext where
  reference : String
  orderId : String
  itemIds : List String
  deriving DecidableEq, Repr

structure CustomerEvidence where
  knowledgeDocumentId : String
  chunkId : String
  content : String
  deriving DecidableEq, Repr

inductive RefundAnswerRejectionCode
  | citationNotRetrieved
  | conflictingIdentifier
  | moneyTextRejected
  | deliveryAgeTextRejected
  | finalAnswerContractInvalid
  deriving DecidableEq, Repr

def deliveryPolicyQualification : String :=
  "This is policy information, not confirmation that your request qualifies. " ++
    "Your delivery timing has not been verified."

/-! The patterns, in lower case as they are compared. -/

def isValue (c : Char) : Bool := isAlnum c || c ∈ ['.', '_', ':', '-']

def identifierMention : Regex := cat [
  boundary, group 1 (words ["order", "item"]), boundary, spaces,
  opt (cat [group 2 (words ["reference", "number", "id", "code"]), boundary, spaces]),
  opt (cat [lit "is", boundary, spaces]), opt (chars ":#"), spaces, opt (chars "\"'‘’“”"),
  group 3 (seq alnum (star (set isValue)))]

def durationAfterMention : Regex := cat [
  plus space, optPhrase (lit "business"),
  plurals ["second", "minute", "hour", "day", "week", "month", "year"], boundary]

def moneyWords : Regex := cat [
  boundary,
  oneOf [plurals ["dollar", "cent", "euro", "pound"], lit "yen", plurals ["rupee"], lit "yuan",
    plurals ["dinar"]],
  boundary]

def currencyCodes : Regex := words ["usd", "eur", "gbp", "jpy", "inr", "cad", "aud", "chf", "cny",
  "kwd", "nzd", "aed", "sar", "sgd", "hkd", "zar", "bhd", "omr"]

def isMark (members : List Char) (c : Char) : Bool := c ∈ members

section

variable (u : Unicode)

/-- `[\d...]` -/
def digitsAnd (p : Char → Bool) : Regex := set fun c => (u.decimal c).isSome || p c

def currencyAmount : Regex := cat [
  notBehind isAlnum,
  oneOf [
    cat [currencyCodes, spaces, opt (chars "-+"), u.digit, star (digitsAnd u (isMark ['.', ','])),
      notAhead alnum],
    cat [u.digit, star (digitsAnd u fun c => isMark ['.', ','] c || Python.isSpace c),
      currencyCodes, notAhead alnum]]]

def amountNouns : Regex := words ["amount", "total", "balance", "price"]

def unlabelledAmount : Regex := oneOf [
  cat [boundary, amountNouns, boundary,
    star (seq (plus space)
      (words ["is", "of", "for", "would", "be", "was", "requested", "proposed", "refund", "credit"])),
    spaces, opt (chars ":="), spaces, u.digit],
  cat [boundary, u.digit, star (digitsAnd u fun c => isMark ['.', ','] c || Python.isSpace c),
    star (seq (plus space) (words ["as", "the", "a", "proposed", "requested", "refund", "credit"])),
    plus space, amountNouns, boundary]]

def unlabelledRefund : Regex := cat [
  boundary, lit "refund", plus space,
  oneOf [words ["is", "of", "was", "for"], phrase ["would", "be"]],
  spaces, opt (chars ":="), spaces, u.digit]

def requests : Regex := oneOf [words ["provide", "share", "confirm", "enter", "submit"],
  phrase ["tell", "us"], phrase ["let", "us", "know"]]

def notMarks : Regex := notChars ".!?"

def deliveryDateRequest : Regex := oneOf [
  cat [boundary, optPhrase (lit "please"), requests, boundary, upTo any 80, boundary,
    phrase ["delivery", "date"], boundary],
  cat [boundary, phrase ["delivery", "date"], boundary, upTo any 80, boundary,
    optPhrase (lit "please"), requests, boundary],
  cat [boundary, words ["what", "when"], boundary, upTo notMarks 80, boundary,
    oneOf [phrase ["delivery", "date"], lit "delivered"], boundary, star notMarks, chars "?"]]

def upToThreeDigits : Regex := seq u.digit (upTo u.digit 2)

def units : Regex := plurals ["day", "week", "month"]

def basis : Regex := words ["calendar", "business"]

/-- A number of days and how they are counted, up to the delivery. -/
def deliveryDistance : Regex := cat [
  upToThreeDigits u, plus space, optPhrase basis, units, plus space,
  words ["before", "of", "after", "from"], plus space, lit "delivery", boundary]

def deliveryWindowMention : Regex := oneOf [
  cat [boundary, lit "within", plus space, optPhrase (lit "the"), deliveryDistance u],
  cat [boundary, deliveryDistance u],
  cat [boundary, upToThreeDigits u, spaces, opt (chars "-"), spaces,
    words ["day", "week", "month"], plus space,
    words ["delivery", "request", "refund", "return"], plus space,
    words ["window", "period", "deadline"], boundary]]

/-- Groups: 1 duration, 2 basis, 3 unit, 4 relation. -/
def supportedDeliveryWindow : Regex := cat [
  boundary, lit "within", plus space, optPhrase (lit "the"), group 1 (upToThreeDigits u),
  plus space, optPhrase (group 2 basis), group 3 units, plus space,
  group 4 (words ["of", "after", "from"]), plus space, lit "delivery", boundary]

def personalizedDeliveryTiming : Regex := cat [
  boundary, phrase ["your", "order"], boundary, upTo notMarks 40, boundary, lit "delivered",
  boundary, upTo notMarks 40, boundary, upToThreeDigits u, plus space, optPhrase basis, units,
  plus space, lit "ago", boundary]

end

def generalPolicyFrame : Regex :=
  cat [boundary, optPhrase (lit "published"), lit "policy", boundary]

def negatedPolicyClaim : Regex := oneOf [
  cat [boundary,
    words ["does", "do", "did", "is", "are", "was", "were", "may", "must", "can", "could", "will",
      "would", "should"],
    plus space, lit "not", boundary],
  cat [boundary, words ["cannot", "can't", "won't"], boundary]]

def qualifies : Regex := words ["qualify", "qualifies", "qualified"]

def eligible : Regex := words ["eligible", "eligibility"]

def owned : Regex := words ["your", "this"]

def optRefund : Regex := optPhrase (lit "refund")

/-- `(?:(?:does|did)\s+not\s+(?:meet|satisfy)` -/
def unmet : Regex :=
  cat [words ["does", "did"], plus space, lit "not", plus space, words ["meet", "satisfy"]]

def personalizedEligibilityDecision : Regex := oneOf [
  cat [boundary, owned, plus space, optRefund,
    words ["request", "order", "item", "purchase", "delivery"], boundary, upTo notMarks 80,
    boundary,
    oneOf [qualifies, eligible, words ["inside", "outside", "within", "window", "deadline"],
      plurals ["meet", "fall"]],
    boundary],
  cat [boundary, lit "the", plus space, optRefund, lit "request", boundary, upTo notMarks 80,
    boundary,
    oneOf [
      cat [unmet, boundary, upTo notMarks 40, boundary, eligible, boundary],
      cat [lit "is", plus space, optPhrase (lit "not"), lit "eligible", boundary],
      cat [qualifies, boundary],
      cat [plurals ["fail"], boundary, upTo notMarks 40, boundary, eligible, boundary]]],
  cat [boundary, lit "you", plus space, words ["qualify", "qualified"], boundary],
  cat [boundary, lit "you", plus space,
    words ["are", "remain", "fall", "qualify", "qualified", "qualif", "meet"], boundary, upTo notMarks 80,
    boundary, words ["eligible", "inside", "outside", "within", "window", "deadline"], boundary],
  cat [boundary, words ["we", "i"], plus space, words ["confirmed", "verified", "determined"],
    boundary, upTo notMarks 80, boundary, owned, plus space, optRefund,
    words ["request", "order", "item", "purchase", "delivery"], boundary],
  cat [boundary, lit "it", plus space, words ["is", "was"], plus space, optPhrase (lit "not"),
    lit "eligible", boundary]]

def personalizedPronounEligibilityDenial : Regex := cat [
  boundary, owned, plus space, optRefund, words ["request", "order", "item", "purchase"], boundary,
  upTo notMarks 240, boundary, lit "it", plus space, oneOf [unmet, plurals ["fail"]], boundary,
  upTo notMarks 40, boundary, eligible, boundary]

def isSentenceEnd (c : Char) : Bool := c ∈ ['.', '!', '?']

def boundedEligibilityUncertainty : Regex := cat [
  oneOf [atStart, seq (behind isSentenceEnd) (plus (chars "\t\r\n "))],
  oneOf [lit "your request has not been assessed for eligibility",
    seq (lit "your request's eligibility has not been ") (words ["verified", "determined"])],
  chr '.', oneOf [ahead space, atEnd]]

inductive DeliveryPolicyScope
  | damaged
  | incorrect
  | missing
  | unopened
  | nonFinalSale
  | physicalGoods
  | returned
  | inspected
  deriving DecidableEq, Repr

namespace DeliveryPolicyScope

def all : List DeliveryPolicyScope :=
  [damaged, incorrect, missing, unopened, nonFinalSale, physicalGoods, returned, inspected]

/-- A hyphen or white space, or nothing. -/
def joint : Regex := opt (set fun c => c == '-' || Python.isSpace c)

def pattern : DeliveryPolicyScope → Regex
  | damaged => cat [boundary, words ["damage", "damaged"], boundary]
  | incorrect => cat [boundary, words ["incorrect", "wrong"], boundary]
  | missing => cat [boundary, lit "missing", boundary]
  | unopened => cat [boundary, lit "unopened", boundary]
  | nonFinalSale => cat [boundary, lit "non", joint, lit "final", joint, lit "sale", boundary]
  | physicalGoods => cat [boundary, lit "physical", plus space, plurals ["good"], boundary]
  | returned => cat [boundary, words ["returned", "return"], boundary]
  | inspected => cat [boundary, words ["inspected", "inspection"], boundary]

end DeliveryPolicyScope

def incorrectOrMissingScope : List DeliveryPolicyScope := [.incorrect, .missing]

def explicitIncorrectOrMissing : Regex := oneOf [
  cat [boundary, words ["incorrect", "wrong"], plus space, plurals ["item"], plus space, lit "or",
    plus space, optPhrase (words ["an", "a"]), plurals ["item"], plus space, words ["is", "are"],
    plus space, lit "missing", boundary],
  cat [boundary, words ["incorrect", "wrong"], plus space, lit "or", plus space, lit "missing",
    plus space, plurals ["item"], boundary],
  cat [boundary, lit "missing", plus space, plurals ["item"], plus space, lit "or", plus space,
    optPhrase (words ["an", "a"]), words ["incorrect", "wrong"], plus space, plurals ["item"],
    boundary]]

/-- `(?<=[.!?])\s+` -/
def sentenceBreak : Regex := seq (behind isSentenceEnd) (plus space)

/-- `^(\s*(?:[-*]\s+)?)` -/
def sentenceOpening : Regex :=
  seq atStart (group 1 (seq spaces (opt (seq (chars "-*") (plus space)))))

/-! The guards. -/

/-- `re.sub(r"[*`]", "", text)` -/
def stripMarkup (text : List Char) : List Char := text.filter fun c => c != '*' && c != '\x60'

def identifierLabelConnectors : List (List Char) := ["and".toList, "or".toList]

section

variable (u : Unicode)

def matchesExpectedIdentifier (value expected : List Char) : Bool :=
  let value := u.casefold value
  let expected := u.casefold expected
  value = expected ||
    1 < value.length && value.getLast?.any (isMark ['.', ':']) && value.dropLast = expected

/-- `str.isdigit` -/
def isDigits (text : List Char) : Bool := !text.isEmpty && text.all u.isDigit

/-- `str.rstrip(".")` -/
def rstripDots (text : List Char) : List Char := (text.reverse.dropWhile (· == '.')).reverse

/-- The mention names what the order does not. -/
def conflicts (orderContext : OrderContext) (m : Cursor) : Bool :=
  let kind := (m.group 1).getD []
  let label := m.group 2
  let value := (m.group 3).getD []
  let normalizedValue := u.casefold value
  if u.casefold kind = "order".toList then
    if label.isSome && normalizedValue ∈ identifierLabelConnectors then false
    else if label.isNone && isDigits u normalizedValue &&
        (durationAfterMention.matchAt u.isWord m.before m.rest).isSome then false
    else
      let isIdentifier := label.isSome || normalizedValue.any u.isDigit ||
        normalizedValue = u.casefold orderContext.orderId.toList
      isIdentifier &&
        !matchesExpectedIdentifier u value (u.casefold orderContext.reference.toList)
  else rstripDots normalizedValue ∈ orderContext.itemIds.map fun itemId => u.casefold itemId.toList

def validateCustomerAnswerIdentifiers (message : String) (orderContext : OrderContext) :
    Except RefundAnswerRejectionCode Unit :=
  if (identifierMention.finditer u.isWord (stripMarkup message.toList)).any
      (conflicts u orderContext) then
    .error .conflictingIdentifier
  else .ok ()

/-- What is left of a mention where money is looked for. -/
def hideOrderReference (orderReference : List Char) (found : List Char) (m : Cursor) : List Char :=
  let kind := (m.group 1).getD []
  let value := (m.group 3).getD []
  if u.casefold kind = "order".toList && matchesExpectedIdentifier u value orderReference then
    "order.".toList
  else found

def validateModelMoneyText (message : String) (orderReference : String) :
    Except RefundAnswerRejectionCode Unit :=
  let text := u.nfkc (stripMarkup message.toList)
  let text := identifierMention.sub u.isWord (hideOrderReference u orderReference.toList) text
  if text.any u.isCurrency || moneyWords.search u.isWord text ||
      (currencyAmount u).search u.isWord text || (unlabelledAmount u).search u.isWord text ||
      (unlabelledRefund u).search u.isWord text then
    .error .moneyTextRejected
  else .ok ()

/-- The text without the sentences that only say what is uncertain, and whether it had one. -/
def stripBoundedEligibilityUncertainty (message : List Char) : List Char × Bool :=
  let normalizedMessage := u.nfkc message
  (Python.strip (boundedEligibilityUncertainty.sub u.isWord (fun _ _ => [' ']) normalizedMessage),
    boundedEligibilityUncertainty.search u.isWord normalizedMessage)

def validatePersonalizedEligibilityText (message : String) :
    Except RefundAnswerRejectionCode Unit :=
  let text := stripMarkup (stripBoundedEligibilityUncertainty u message.toList).1
  if personalizedEligibilityDecision.search u.isWord text ||
      personalizedPronounEligibilityDenial.search u.isWord text then
    .error .deliveryAgeTextRejected
  else .ok ()

structure DeliveryWindowClaim where
  duration : ℕ
  basis : List Char
  unit : List Char
  scope : List DeliveryPolicyScope
  deriving DecidableEq, Repr

def deliveryPolicyScope (text : List Char) : List DeliveryPolicyScope :=
  DeliveryPolicyScope.all.filter fun name => name.pattern.search u.isWord text

def sentences (text : List Char) : List (List Char) :=
  let (first, more) := sentenceBreak.split u.isWord text
  first :: more.map Prod.snd

/-- `.rstrip("s")` -/
def rstripPlural (unit : List Char) : List Char := (unit.reverse.dropWhile (· == 's')).reverse

def deliveryWindowClaims (text : List Char) : List DeliveryWindowClaim :=
  (sentences u text).flatMap fun sentence =>
    if negatedPolicyClaim.search u.isWord sentence then []
    else ((supportedDeliveryWindow u).finditer u.isWord sentence).map fun m => {
      duration := u.int ((m.group 1).getD [])
      basis := u.casefold ((m.group 2).getD [])
      unit := rstripPlural (u.casefold ((m.group 3).getD []))
      scope := deliveryPolicyScope u sentence }

/-- The claim for one of the two reasons that a sentence joins. -/
def DeliveryWindowClaim.only (claim : DeliveryWindowClaim) (reason : DeliveryPolicyScope) :
    DeliveryWindowClaim :=
  { claim with scope := DeliveryPolicyScope.all.filter fun name =>
      name = reason || name ∈ claim.scope && name ∉ incorrectOrMissingScope }

def deliveryWindowClaimsWithExplicitAlternatives (text : List Char) : List DeliveryWindowClaim :=
  deliveryWindowClaims u text ++ (sentences u text).flatMap fun sentence =>
    if explicitIncorrectOrMissing.search u.isWord sentence then
      (deliveryWindowClaims u sentence).flatMap fun claim =>
        if incorrectOrMissingScope ⊆ claim.scope then [claim.only .incorrect, claim.only .missing]
        else []
    else []

/-- The evidence that a citation is found under: the last one. -/
def citedEvidence (knowledgeEvidence : List CustomerEvidence) (citation : KnowledgeCitation) :
    Option CustomerEvidence :=
  knowledgeEvidence.reverse.find? fun evidence =>
    evidence.knowledgeDocumentId = citation.knowledgeDocumentId ∧
      evidence.chunkId = citation.chunkId

/-- Whether the answer needs the qualification of the delivery policy. -/
def validateDeliveryPolicyText (answer : CustomerAnswer)
    (knowledgeEvidence : List CustomerEvidence) : Except RefundAnswerRejectionCode Bool :=
  let (text, hasBoundedUncertainty) :=
    stripBoundedEligibilityUncertainty u answer.message.toList
  let text := stripMarkup text
  if deliveryDateRequest.search u.isWord text ||
      (personalizedDeliveryTiming u).search u.isWord text then
    .error .deliveryAgeTextRejected
  else
    let windowMentions := (deliveryWindowMention u).finditer u.isWord text
    if windowMentions.isEmpty then .ok hasBoundedUncertainty
    else
      let answerClaims := deliveryWindowClaims u text
      if answerClaims.isEmpty || answerClaims.length ≠ windowMentions.length ||
          (sentences u text).any fun sentence =>
            (deliveryWindowMention u).search u.isWord sentence &&
              negatedPolicyClaim.search u.isWord sentence then
        .error .deliveryAgeTextRejected
      else
        let citedClaims := answer.citations.flatMap fun citation =>
          ((citedEvidence knowledgeEvidence citation).map fun evidence =>
            deliveryWindowClaimsWithExplicitAlternatives u
              (u.nfkc (stripMarkup evidence.content.toList))).getD []
        if answerClaims.any fun claim => claim ∉ citedClaims then .error .deliveryAgeTextRejected
        else .ok true

/-! What the application writes into an answer. -/

def policyFrame : String := "According to the published policy, "

/-- The frame stands after white space and a bullet. -/
def insertFrame (sentence : List Char) : List Char :=
  match sentenceOpening.matchAt u.isWord none sentence with
  | none => sentence
  | some m => sentence.take (sentence.length - m.rest.length) ++ policyFrame.toList ++ m.rest

def frameSentence (sentence : List Char) : List Char :=
  let validationSentence := stripMarkup sentence
  if (deliveryWindowMention u).search u.isWord validationSentence &&
      !generalPolicyFrame.search u.isWord validationSentence then
    insertFrame u sentence
  else sentence

def framed (normalizedMessage : List Char) : List Char :=
  let (first, more) := sentenceBreak.split u.isWord normalizedMessage
  frameSentence u first ++ more.flatMap fun part => part.1 ++ frameSentence u part.2

def appendDeliveryPolicyFrames (answer : CustomerAnswer) : Option CustomerAnswer :=
  publicAnswer (String.ofList (framed u (u.nfkc answer.message.toList))) answer.citations

def appendDeliveryPolicyQualification (answer : CustomerAnswer) : Option CustomerAnswer :=
  let (message, _) := stripBoundedEligibilityUncertainty u answer.message.toList
  publicAnswer
    (if message.isEmpty then deliveryPolicyQualification
      else String.ofList message ++ "\n\n" ++ deliveryPolicyQualification)
    answer.citations

structure DraftCustomerAnswer extends CustomerAnswer where
  purpose : AnswerPurpose

/-- What the rendering takes from the proposal. -/
structure ProposedRefund where
  requestedAmount : Option Money
  scope : ProposalScope
  missingFields : List MissingField

/-- The answer, framed and qualified where it needs it. -/
def qualified (answer : CustomerAnswer) (needsQualification : Bool) :
    Except RefundAnswerRejectionCode CustomerAnswer :=
  if needsQualification then
    (((appendDeliveryPolicyFrames u answer).bind (appendDeliveryPolicyQualification u)).elim
      (.error .finalAnswerContractInvalid) .ok)
  else .ok answer

def renderAnswer (answer : DraftCustomerAnswer) (orderContext : OrderContext)
    (knowledgeEvidence : List CustomerEvidence) (refundProposal : ProposedRefund)
    (refundPolicy : Option VerifiedRefundPolicy) :
    Except RefundAnswerRejectionCode CustomerAnswer := do
  if answer.citations.any fun citation => (citedEvidence knowledgeEvidence citation).isNone then
    throw .citationNotRetrieved
  validateCustomerAnswerIdentifiers u answer.message orderContext
  validateModelMoneyText u answer.message orderContext.reference
  validatePersonalizedEligibilityText u answer.message
  let needsDeliveryPolicyQualification ←
    validateDeliveryPolicyText u answer.toCustomerAnswer knowledgeEvidence
  let qualifiedAnswer ← qualified u answer.toCustomerAnswer needsDeliveryPolicyQualification
  (renderCustomerAnswer qualifiedAnswer answer.purpose refundProposal.requestedAmount
    refundProposal.scope refundProposal.missingFields refundPolicy).elim
      (.error .finalAnswerContractInvalid) .ok

end

end CSO.AgentRuntime
