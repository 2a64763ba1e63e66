import CSO.Python.Dicts
import Mathlib.Algebra.Order.Field.Rat
import Mathlib.Data.Prod.Lex
import Mathlib.Data.String.Basic

/-! What a run uses of a provider: the counters of its calls, their report and its cost. -/
namespace CSO.EvaluationRunner.Usage
open Python (dictGet)

inductive UsageComponent
  | answer | queryEmbedding | judge | judgeEmbedding
  deriving DecidableEq, Repr

def UsageComponent.value : UsageComponent → String
  | .answer => "answer"
  | .queryEmbedding => "query_embedding"
  | .judge => "judge"
  | .judgeEmbedding => "judge_embedding"

theorem UsageComponent.value_injective : Function.Injective UsageComponent.value := by
  intro component component' h
  cases component <;> cases component' <;> first | rfl | exact absurd h (by decide)

/-- What a response may hold: a mapping or an object is what is read of it by name, and what is
neither that nor a number is read in the same way. -/
inductive Value
  | none
  | bool (value : Bool)
  | int (value : ℤ)
  | other
  | object (read : String → Value)

/-- `_read_value` -/
def readValue : Value → String → Value
  | .object read, name => read name
  | _, _ => .none

/-- `_first_value` -/
def firstValue (value : Value) : List String → Value
  | [] => .none
  | name :: names =>
    match readValue value name with
    | .none => firstValue value names
    | result => result

/-- `_optional_int` -/
def optionalInt (value : Value) (names : List String) : Option ℕ :=
  match firstValue value names with
  | .int raw => if raw < 0 then none else some raw.toNat
  | _ => none

/-- Usage as it is parsed, which adds up. -/
structure ParsedUsage where
  inputTokens : ℕ
  outputTokens : ℕ
  cachedTokens : Option ℕ
  reasoningTokens : Option ℕ
  totalTokens : ℕ
  total_eq : totalTokens = inputTokens + outputTokens
  cached_le : ∀ cached, cachedTokens = some cached → cached ≤ inputTokens
  reasoning_le : ∀ reasoning, reasoningTokens = some reasoning → reasoning ≤ outputTokens

/-- A count is more than another, when there is one. -/
def Exceeds (count : Option ℕ) (bound : ℕ) : Prop := ∃ n ∈ count, bound < n

instance (count : Option ℕ) (bound : ℕ) : Decidable (Exceeds count bound) :=
  match count with
  | none => isFalse nofun
  | some n => decidable_of_iff (bound < n)
      ⟨fun h => ⟨n, rfl, h⟩, fun ⟨_, hn, h⟩ => by cases hn; exact h⟩

theorem le_of_not_exceeds {count : Option ℕ} {bound : ℕ} (h : ¬Exceeds count bound) (n : ℕ)
    (hn : count = some n) : n ≤ bound := Nat.le_of_not_lt fun hlt => h ⟨n, hn, hlt⟩

/-- `_parse_usage` -/
def parseUsage (usage : Value) : Option ParsedUsage :=
  match usage with
  | .none => none
  | usage =>
    match optionalInt usage ["prompt_tokens", "input_tokens"], optionalInt usage ["total_tokens"] with
    | some inputTokens, some totalTokens =>
      -- The difference is cut off at 0, and a total below the input is no sum then.
      let outputTokens := (optionalInt usage ["completion_tokens", "output_tokens"]).getD
        (totalTokens - inputTokens)
      let cachedTokens := optionalInt
        (firstValue usage ["prompt_tokens_details", "input_tokens_details"]) ["cached_tokens"]
      let reasoningTokens := optionalInt
        (firstValue usage ["completion_tokens_details", "output_tokens_details"])
        ["reasoning_tokens"]
      if htotal : totalTokens = inputTokens + outputTokens then
        if hexceeds : Exceeds cachedTokens inputTokens ∨ Exceeds reasoningTokens outputTokens then none
        else
          some ⟨inputTokens, outputTokens, cachedTokens, reasoningTokens, totalTokens, htotal,
            le_of_not_exceeds fun h => hexceeds (.inl h), le_of_not_exceeds fun h => hexceeds (.inr h)⟩
      else none
    | _, _ => none

/-- A provider component and a model. -/
abbrev UsageKey := UsageComponent × String

/-- `_MutableUsage` -/
structure Counters where
  attemptedCalls : ℕ
  succeededCalls : ℕ
  failedCalls : ℕ
  measuredCalls : ℕ
  inputTokens : ℕ
  outputTokens : ℕ
  cachedInputTokens : ℕ
  reasoningOutputTokens : ℕ
  totalTokens : ℕ
  complete : Bool
  cachedComplete : Bool
  reasoningComplete : Bool
  deriving DecidableEq, Repr

def Counters.fresh : Counters := ⟨0, 0, 0, 0, 0, 0, 0, 0, 0, true, true, true⟩

inductive Outcome
  | registered
  | succeeded (response : Value)
  | failed

/-- `register`, `record_success` or `record_failure` for a component and a model. -/
structure Call where
  key : UsageKey
  outcome : Outcome

/-- What a call is found to have used. -/
def Outcome.usage? : Outcome → Option ParsedUsage
  | .succeeded response => parseUsage (readValue response "usage")
  | _ => none

def Outcome.Attempted : Outcome → Prop
  | .registered => False
  | _ => True

instance (outcome : Outcome) : Decidable outcome.Attempted :=
  match outcome with
  | .registered => isFalse id
  | .succeeded _ => isTrue trivial
  | .failed => isTrue trivial

namespace Counters

def addUsage (counters : Counters) (parsed : ParsedUsage) : Counters :=
  { counters with
    measuredCalls := counters.measuredCalls + 1
    inputTokens := counters.inputTokens + parsed.inputTokens
    outputTokens := counters.outputTokens + parsed.outputTokens
    cachedInputTokens := counters.cachedInputTokens + parsed.cachedTokens.getD 0
    cachedComplete := counters.cachedComplete && parsed.cachedTokens.isSome
    reasoningOutputTokens := counters.reasoningOutputTokens + parsed.reasoningTokens.getD 0
    reasoningComplete := counters.reasoningComplete && parsed.reasoningTokens.isSome
    totalTokens := counters.totalTokens + parsed.totalTokens }

/-- The counters after a call for their component and model. -/
def step (counters : Counters) : Outcome → Counters
  | .registered => counters
  | .failed =>
    { counters with
      attemptedCalls := counters.attemptedCalls + 1
      failedCalls := counters.failedCalls + 1
      complete := false }
  | .succeeded response =>
    let counters :=
      { counters with
        attemptedCalls := counters.attemptedCalls + 1
        succeededCalls := counters.succeededCalls + 1 }
    match parseUsage (readValue response "usage") with
    | none => { counters with complete := false }
    | some parsed => counters.addUsage parsed

end Counters

/-- `UsageRecorder`: the counters by component and model, in the order they came up. -/
abbrev UsageRecorder := List (UsageKey × Counters)

/-- The entry of a key is changed, and made first when there is none. -/
def changeEntry (key : UsageKey) (change : Counters → Counters) : UsageRecorder → UsageRecorder
  | [] => [(key, change Counters.fresh)]
  | entry :: usage =>
    if entry.1 = key then (key, change entry.2) :: usage else entry :: changeEntry key change usage

def record (usage : UsageRecorder) (call : Call) : UsageRecorder :=
  changeEntry call.key (·.step call.outcome) usage

def recordAll (calls : List Call) : UsageRecorder := calls.foldl record []

structure ComponentUsage where
  component : UsageComponent
  provider : String
  model : String
  attemptedCalls : ℕ
  succeededCalls : ℕ
  failedCalls : ℕ
  measuredCalls : ℕ
  inputTokens : Option ℕ
  outputTokens : Option ℕ
  cachedInputTokens : Option ℕ
  reasoningOutputTokens : Option ℕ
  totalTokens : Option ℕ
  deriving DecidableEq, Repr

/-- `_component` -/
def componentOf (entry : UsageKey × Counters) : ComponentUsage :=
  let (key, counters) := entry
  let known := counters.complete && decide (counters.measuredCalls = counters.succeededCalls)
  { component := key.1
    provider := "openai"
    model := key.2
    attemptedCalls := counters.attemptedCalls
    succeededCalls := counters.succeededCalls
    failedCalls := counters.failedCalls
    measuredCalls := counters.measuredCalls
    inputTokens := if known then some counters.inputTokens else none
    outputTokens := if known then some counters.outputTokens else none
    cachedInputTokens := if known && counters.cachedComplete then some counters.cachedInputTokens
      else none
    reasoningOutputTokens := if known && counters.reasoningComplete then
      some counters.reasoningOutputTokens else none
    totalTokens := if known then some counters.totalTokens else none }

structure TokenRate where
  provider : String
  model : String
  inputUsdPerMillionTokens : ℚ
  cachedInputUsdPerMillionTokens : ℚ
  outputUsdPerMillionTokens : ℚ
  provider_ne : provider ≠ ""
  model_ne : model ≠ ""
  input_nonneg : 0 ≤ inputUsdPerMillionTokens
  cachedInput_nonneg : 0 ≤ cachedInputUsdPerMillionTokens
  output_nonneg : 0 ≤ outputUsdPerMillionTokens

structure PriceSchedule where
  version : String
  currency : String
  effectiveDate : String
  rates : List TokenRate
  version_ne : version ≠ ""
  currency_eq : currency = "USD"
  rates_ne : rates ≠ []
  rates_nodup : (rates.map fun rate => (rate.provider, rate.model)).Nodup

def PriceSchedule.rate? (schedule : PriceSchedule) (provider model : String) : Option TokenRate :=
  dictGet (schedule.rates.map fun rate => ((rate.provider, rate.model), rate)) (provider, model)

/-- What the counted tokens of a component cost. -/
def TokenRate.cost (rate : TokenRate) (inputTokens cachedTokens outputTokens : ℕ) : ℚ :=
  ((inputTokens : ℚ) - cachedTokens) * rate.inputUsdPerMillionTokens / 1000000 +
    cachedTokens * rate.cachedInputUsdPerMillionTokens / 1000000 +
    outputTokens * rate.outputUsdPerMillionTokens / 1000000

/-- One turn of `_estimate_cost`. -/
def componentCost (schedule : PriceSchedule) (component : ComponentUsage) : Option ℚ :=
  if component.attemptedCalls = 0 then some 0
  else
    match schedule.rate? component.provider component.model, component.inputTokens,
      component.outputTokens with
    | some rate, some inputTokens, some outputTokens =>
      match component.cachedInputTokens with
      | none =>
        if rate.inputUsdPerMillionTokens ≠ rate.cachedInputUsdPerMillionTokens then none
        else some (rate.cost inputTokens 0 outputTokens)
      | some cachedTokens => some (rate.cost inputTokens cachedTokens outputTokens)
    | _, _, _ => none

/-- The sum of some values, when none is missing. -/
def sumKnown {M : Type} [AddMonoid M] (values : List (Option M)) : Option M :=
  if values.any Option.isNone then none else some (values.filterMap id).sum

/-- `_estimate_cost` -/
def estimateCost (components : List ComponentUsage) (schedule : PriceSchedule) : Option ℚ :=
  sumKnown (components.map (componentCost schedule))

/-- `_sum_optional` -/
def sumOptional (components : List ComponentUsage) (field : ComponentUsage → Option ℕ) : Option ℕ :=
  sumKnown ((components.filter (0 < ·.attemptedCalls)).map field)

inductive MeasurementStatus
  | complete | partly | unavailable | failed
  deriving DecidableEq, Repr

structure EvaluationUsageReport where
  runId : String
  evaluationVersion : String
  runSucceeded : Bool
  measurementStatus : MeasurementStatus
  components : List ComponentUsage
  inputTokens : Option ℕ
  outputTokens : Option ℕ
  cachedInputTokens : Option ℕ
  reasoningOutputTokens : Option ℕ
  totalTokens : Option ℕ
  estimatedCostUsd : Option ℚ
  pricingScheduleVersion : Option String
  pricingCurrency : Option String
  pricingEffectiveDate : Option String
  deriving DecidableEq, Repr

def sortKey (component : ComponentUsage) : String ×ₗ String :=
  toLex (component.component.value, component.model)

def sortComponents (components : List ComponentUsage) : List ComponentUsage :=
  components.insertionSort (sortKey · ≤ sortKey ·)

def attemptedCalls (components : List ComponentUsage) : ℕ :=
  (components.map ComponentUsage.attemptedCalls).sum

def allMeasured (components : List ComponentUsage) : Bool :=
  components.all fun item =>
    decide (item.measuredCalls = item.succeededCalls) && decide (item.failedCalls = 0)

def measurementStatusOf (components : List ComponentUsage) : MeasurementStatus :=
  if attemptedCalls components = 0 then .unavailable
  else if allMeasured components then .complete
  else if components.any fun item => decide (item.measuredCalls ≠ 0) then .partly
  else if components.any fun item => decide (item.failedCalls ≠ 0) then .failed
  else .unavailable

/-- The report on some components. -/
def reportOf (components : List ComponentUsage) (runId evaluationVersion : String)
    (runSucceeded : Bool) (schedule : Option PriceSchedule) : EvaluationUsageReport :=
  let totalsKnown := decide (0 < attemptedCalls components) && allMeasured components
  { runId := runId
    evaluationVersion := evaluationVersion
    runSucceeded := runSucceeded
    measurementStatus := measurementStatusOf components
    components := components
    inputTokens := if totalsKnown then sumOptional components (·.inputTokens) else none
    outputTokens := if totalsKnown then sumOptional components (·.outputTokens) else none
    cachedInputTokens := if totalsKnown then sumOptional components (·.cachedInputTokens) else none
    reasoningOutputTokens :=
      if totalsKnown then sumOptional components (·.reasoningOutputTokens) else none
    totalTokens := if totalsKnown then sumOptional components (·.totalTokens) else none
    estimatedCostUsd := if totalsKnown then schedule.bind (estimateCost components) else none
    pricingScheduleVersion := schedule.map PriceSchedule.version
    pricingCurrency := schedule.map PriceSchedule.currency
    pricingEffectiveDate := schedule.map PriceSchedule.effectiveDate }

/-- `build_report`, with what the models of components and report refuse. -/
def buildReport (usage : UsageRecorder) (runId evaluationVersion : String) (runSucceeded : Bool)
    (schedule : Option PriceSchedule) : Except String EvaluationUsageReport :=
  let components := sortComponents (usage.map componentOf)
  let report := reportOf components runId evaluationVersion runSucceeded schedule
  if components.any (·.model = "") then .error "ComponentUsage"
  else if runId = "" ∨ evaluationVersion = "" ∨ report.estimatedCostUsd.any (· < 0) then
    .error "EvaluationUsageReport"
  else .ok report

end CSO.EvaluationRunner.Usage
