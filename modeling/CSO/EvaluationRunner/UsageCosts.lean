import CSO.EvaluationRunner.UsageReports

/-! What the calls cost. -/
namespace CSO.EvaluationRunner.Usage

section

variable {calls : List Call}

theorem TokenRate.cost_nonneg (rate : TokenRate) {inputTokens cachedTokens : ℕ}
    (hcached : cachedTokens ≤ inputTokens) (outputTokens : ℕ) :
    0 ≤ rate.cost inputTokens cachedTokens outputTokens := by
  have huncached : (0 : ℚ) ≤ (inputTokens : ℚ) - cachedTokens :=
    sub_nonneg.mpr (Nat.cast_le.mpr hcached)
  have hinput := mul_nonneg huncached rate.input_nonneg
  have hcost := mul_nonneg (Nat.cast_nonneg cachedTokens : (0 : ℚ) ≤ cachedTokens) rate.cachedInput_nonneg
  have houtput := mul_nonneg (Nat.cast_nonneg outputTokens : (0 : ℚ) ≤ outputTokens) rate.output_nonneg
  rw [TokenRate.cost]
  positivity

theorem TokenRate.cost_add (rate : TokenRate) (input cached output input' cached' output' : ℕ) :
    rate.cost (input + input') (cached + cached') (output + output') =
      rate.cost input cached output + rate.cost input' cached' output' := by
  rw [TokenRate.cost, TokenRate.cost, TokenRate.cost]
  push_cast
  ring

/-- The cached tokens do not matter when they cost what the others cost. -/
theorem TokenRate.cost_flat {rate : TokenRate}
    (h : rate.inputUsdPerMillionTokens = rate.cachedInputUsdPerMillionTokens)
    (input cached output : ℕ) : rate.cost input 0 output = rate.cost input cached output := by
  rw [TokenRate.cost, TokenRate.cost, h]
  push_cast
  ring

/-- The exact cost of a call. -/
def ParsedUsage.cost (rate : TokenRate) (parsed : ParsedUsage) : ℚ :=
  rate.cost parsed.inputTokens (parsed.cachedTokens.getD 0) parsed.outputTokens

/-- The exact cost of a call at the rate of its model, which is 0 when there is none of them. -/
def Call.cost (schedule : PriceSchedule) (call : Call) : ℚ :=
  match schedule.rate? "openai" call.key.2, call.outcome.usage? with
  | some rate, some parsed => parsed.cost rate
  | _, _ => 0

def entryCost (schedule : PriceSchedule) (key : UsageKey) (counters : Counters) : ℚ :=
  match schedule.rate? "openai" key.2 with
  | some rate => rate.cost counters.inputTokens counters.cachedInputTokens counters.outputTokens
  | none => 0

theorem TokenRate.cost_zero (rate : TokenRate) : rate.cost 0 0 0 = 0 := by
  rw [TokenRate.cost]
  push_cast
  ring

theorem entryCost_fresh (schedule : PriceSchedule) (key : UsageKey) :
    entryCost schedule key Counters.fresh = 0 := by
  rw [entryCost]
  cases schedule.rate? "openai" key.2 with
  | none => rfl
  | some rate => exact rate.cost_zero

theorem entryCost_step (schedule : PriceSchedule) (call : Call) (counters : Counters) :
    entryCost schedule call.key (counters.step call.outcome) =
      entryCost schedule call.key counters + call.cost schedule := by
  rw [entryCost, entryCost, Call.cost]
  cases schedule.rate? "openai" call.key.2 with
  | none => exact (add_zero 0).symm
  | some rate =>
    cases call.outcome with
    | registered => exact (add_zero _).symm
    | failed => exact (add_zero _).symm
    | succeeded response =>
      rw [step_succeeded, Outcome.usage?]
      cases parseUsage (readValue response "usage") with
      | none => exact (add_zero _).symm
      | some parsed => exact rate.cost_add _ _ _ _ _ _

theorem Call.cost_nonneg (schedule : PriceSchedule) (call : Call) : 0 ≤ call.cost schedule := by
  rw [Call.cost]
  cases schedule.rate? "openai" call.key.2 with
  | none => exact le_refl 0
  | some rate =>
    cases call.outcome.usage? with
    | none => exact le_refl 0
    | some parsed =>
      refine rate.cost_nonneg ?_ _
      cases hcached : parsed.cachedTokens with
      | none => exact Nat.zero_le _
      | some cached => exact parsed.cached_le cached hcached

/-- What an estimate takes of a component. -/
theorem componentCost_eq_some {schedule : PriceSchedule} {entry : UsageKey × Counters} {cost : ℚ}
    (hsound : entry.2.Sound) (h : componentCost schedule (componentOf entry) = some cost) :
    cost = entryCost schedule entry.1 entry.2 ∧
      (entry.2.attemptedCalls ≠ 0 → ∃ rate, schedule.rate? "openai" entry.1.2 = some rate ∧
        (entry.2.cachedComplete = false →
          rate.inputUsdPerMillionTokens = rate.cachedInputUsdPerMillionTokens)) := by
  rw [componentCost] at h
  by_cases hidle : entry.2.attemptedCalls = 0
  · have hcomponent : (componentOf entry).attemptedCalls = 0 := hidle
    rw [if_pos hcomponent] at h
    refine ⟨?_, fun hattempted => absurd hidle hattempted⟩
    rw [hsound.idle hidle, entryCost_fresh]
    exact (Option.some.inj h).symm
  · have hcomponent : (componentOf entry).attemptedCalls ≠ 0 := hidle
    rw [if_neg hcomponent] at h
    have hprovider : (componentOf entry).provider = "openai" := rfl
    have hmodel : (componentOf entry).model = entry.1.2 := rfl
    rw [hprovider, hmodel] at h
    cases hrate : schedule.rate? "openai" entry.1.2 with
    | none =>
      rw [hrate] at h
      cases h
    | some rate =>
      rw [hrate] at h
      rw [entryCost, hrate]
      have hinput : (componentOf entry).inputTokens = if entry.2.complete &&
        decide (entry.2.measuredCalls = entry.2.succeededCalls) then some entry.2.inputTokens
          else none := rfl
      have houtput : (componentOf entry).outputTokens = if entry.2.complete &&
        decide (entry.2.measuredCalls = entry.2.succeededCalls) then some entry.2.outputTokens
          else none := rfl
      have hcached : (componentOf entry).cachedInputTokens = if entry.2.complete &&
        decide (entry.2.measuredCalls = entry.2.succeededCalls) && entry.2.cachedComplete then
          some entry.2.cachedInputTokens else none := rfl
      rw [hinput, houtput, hcached] at h
      cases hknown : entry.2.complete &&
        decide (entry.2.measuredCalls = entry.2.succeededCalls) with
      | false =>
        rw [hknown] at h
        cases h
      | true =>
        rw [hknown] at h
        cases hflag : entry.2.cachedComplete with
        | true =>
          rw [hflag] at h
          exact ⟨(Option.some.inj h).symm, fun _ => ⟨rate, rfl, nofun⟩⟩
        | false =>
          rw [hflag] at h
          have h : (if rate.inputUsdPerMillionTokens ≠ rate.cachedInputUsdPerMillionTokens then none
            else some (rate.cost entry.2.inputTokens 0 entry.2.outputTokens)) = some cost := h
          by_cases hflat : rate.inputUsdPerMillionTokens = rate.cachedInputUsdPerMillionTokens
          · rw [if_neg (not_not_intro hflat)] at h
            rw [← Option.some.inj h]
            exact ⟨rate.cost_flat hflat _ _ _, fun _ => ⟨rate, rfl, fun _ => hflat⟩⟩
          · rw [if_pos hflat] at h
            cases h

/-- An estimate leaves no call out. -/
theorem estimateCost_eq_some {schedule : PriceSchedule} {cost : ℚ}
    (h : estimateCost (componentsOf calls) schedule = some cost) :
    cost = (calls.map (Call.cost schedule)).sum ∧
      ∀ call ∈ calls, call.outcome.Attempted →
        ∃ rate, schedule.rate? "openai" call.key.2 = some rate ∧
          ∀ parsed, call.outcome.usage? = some parsed → parsed.cachedTokens = none →
            rate.inputUsdPerMillionTokens = rate.cachedInputUsdPerMillionTokens := by
  rw [estimateCost, sumKnown_perm ((componentsOf_perm calls).map _), List.map_map] at h
  obtain ⟨hall, hsum⟩ := sumKnown_eq_some h
  have hentries : ∀ entry ∈ recordAll calls, ∃ cost,
      componentCost schedule (componentOf entry) = some cost := fun entry hentry =>
    Option.isSome_iff_exists.mp (hall _ (List.mem_map.mpr ⟨entry, hentry, rfl⟩))
  have hsound : ∀ entry ∈ recordAll calls, entry.2.Sound := by
    intro entry hentry
    rw [(mem_recordAll.mp hentry).2]
    exact countersOf_sound calls entry.1
  constructor
  · rw [hsum, ← sum_recordAll (entryCost schedule) (Call.cost schedule) (entryCost_fresh schedule)
      (entryCost_step schedule) calls, List.map_map]
    refine congrArg List.sum (List.map_congr_left fun entry hentry => ?_)
    obtain ⟨found, hfound⟩ := hentries entry hentry
    rw [← (componentCost_eq_some (hsound entry hentry) hfound).1]
    show (componentCost schedule (componentOf entry)).getD 0 = found
    rw [hfound]
    rfl
  · intro call hcall hattempted
    have hentry : (call.key, countersOf calls call.key) ∈ recordAll calls :=
      mem_recordAll.mpr ⟨⟨call, hcall, rfl⟩, rfl⟩
    obtain ⟨found, hfound⟩ := hentries _ hentry
    have hactive : (countersOf calls call.key).attemptedCalls ≠ 0 := fun hzero =>
      attemptedCalls_eq_zero.mp hzero call hcall rfl hattempted
    obtain ⟨rate, hrate, hflat⟩ := (componentCost_eq_some (hsound _ hentry) hfound).2 hactive
    refine ⟨rate, hrate, fun parsed hparsed hnone => hflat ?_⟩
    rw [← Bool.not_eq_true, cachedComplete_iff]
    intro hcomplete
    have hsome := hcomplete call hcall rfl parsed hparsed
    rw [hnone] at hsome
    cases hsome

/-- What a report has to say of the calls. -/
structure EvaluationUsageReport.Accounts (report : EvaluationUsageReport) (calls : List Call)
    (schedule : Option PriceSchedule) : Prop where
  complete_iff : report.measurementStatus = .complete ↔ MeasuredCompletely calls
  absent : ¬MeasuredCompletely calls → report.inputTokens = none ∧ report.outputTokens = none ∧
    report.cachedInputTokens = none ∧ report.reasoningOutputTokens = none ∧
    report.totalTokens = none ∧ report.estimatedCostUsd = none
  input : MeasuredCompletely calls →
    report.inputTokens = some ((usagesOf calls).map (·.inputTokens)).sum
  output : MeasuredCompletely calls →
    report.outputTokens = some ((usagesOf calls).map (·.outputTokens)).sum
  total : MeasuredCompletely calls →
    report.totalTokens = some ((usagesOf calls).map (·.totalTokens)).sum
  cached : MeasuredCompletely calls →
    report.cachedInputTokens = sumKnown ((usagesOf calls).map (·.cachedTokens))
  reasoning : MeasuredCompletely calls →
    report.reasoningOutputTokens = sumKnown ((usagesOf calls).map (·.reasoningTokens))
  total_eq : ∀ input ∈ report.inputTokens, ∀ output ∈ report.outputTokens,
    ∀ total ∈ report.totalTokens, total = input + output
  cached_le : ∀ cached ∈ report.cachedInputTokens, ∀ input ∈ report.inputTokens, cached ≤ input
  reasoning_le : ∀ reasoning ∈ report.reasoningOutputTokens, ∀ output ∈ report.outputTokens,
    reasoning ≤ output
  cost_nonneg : ∀ cost ∈ report.estimatedCostUsd, 0 ≤ cost
  cost_eq : ∀ cost ∈ report.estimatedCostUsd, ∃ prices ∈ schedule,
    cost = (calls.map (Call.cost prices)).sum ∧ ∀ call ∈ calls, call.outcome.Attempted →
      ∃ rate parsed, prices.rate? "openai" call.key.2 = some rate ∧
        call.outcome.usage? = some parsed ∧ call.cost prices = parsed.cost rate ∧
          (parsed.cachedTokens = none →
            rate.inputUsdPerMillionTokens = rate.cachedInputUsdPerMillionTokens)

/-- A sum of parts is at most the sum of the wholes. -/
theorem sumKnown_le {count : ParsedUsage → Option ℕ} {bound : ParsedUsage → ℕ}
    (hle : ∀ parsed n, count parsed = some n → n ≤ bound parsed) {usages : List ParsedUsage}
    {total : ℕ} (h : sumKnown (usages.map count) = some total) :
    total ≤ (usages.map bound).sum := by
  rw [(sumKnown_eq_some h).2, List.map_map]
  refine List.sum_le_sum fun parsed _ => ?_
  show (count parsed).getD 0 ≤ bound parsed
  cases hcount : count parsed with
  | none => exact Nat.zero_le _
  | some n => exact hle parsed n hcount

theorem sum_totalTokens (usages : List ParsedUsage) : (usages.map (·.totalTokens)).sum =
    (usages.map (·.inputTokens)).sum + (usages.map (·.outputTokens)).sum := by
  rw [← List.sum_map_add]
  exact congrArg List.sum (List.map_congr_left fun parsed _ => parsed.total_eq)

theorem reportOf_accounts (calls : List Call) (runId evaluationVersion : String)
    (runSucceeded : Bool) (schedule : Option PriceSchedule) :
    (reportOf (componentsOf calls) runId evaluationVersion runSucceeded schedule).Accounts calls
      schedule := by
  by_cases hmeasured : MeasuredCompletely calls
  · have hknown := totalsKnown_iff.mpr hmeasured
    have hinput : sumOptional (componentsOf calls) (·.inputTokens) =
        some ((usagesOf calls).map (·.inputTokens)).sum :=
      @sumOptional_known calls _ Counters.inputTokens _
        (fun entry hentry => if_pos (known_of_measured hmeasured.2 hentry)) rfl
        (counter_step _ _ (fun _ _ _ _ _ => rfl) fun _ _ => rfl)
    have houtput : sumOptional (componentsOf calls) (·.outputTokens) =
        some ((usagesOf calls).map (·.outputTokens)).sum :=
      @sumOptional_known calls _ Counters.outputTokens _
        (fun entry hentry => if_pos (known_of_measured hmeasured.2 hentry)) rfl
        (counter_step _ _ (fun _ _ _ _ _ => rfl) fun _ _ => rfl)
    have htotal : sumOptional (componentsOf calls) (·.totalTokens) =
        some ((usagesOf calls).map (·.totalTokens)).sum :=
      @sumOptional_known calls _ Counters.totalTokens _
        (fun entry hentry => if_pos (known_of_measured hmeasured.2 hentry)) rfl
        (counter_step _ _ (fun _ _ _ _ _ => rfl) fun _ _ => rfl)
    have hcached : sumOptional (componentsOf calls) (·.cachedInputTokens) =
        sumKnown ((usagesOf calls).map (·.cachedTokens)) :=
      @sumOptional_count calls hmeasured.2 _ Counters.cachedInputTokens Counters.cachedComplete _
        (fun _ => rfl) (fun _ => cachedComplete_iff) rfl
        (counter_step _ _ (fun _ _ _ _ _ => rfl) fun _ _ => rfl)
    have hreasoning : sumOptional (componentsOf calls) (·.reasoningOutputTokens) =
        sumKnown ((usagesOf calls).map (·.reasoningTokens)) :=
      @sumOptional_count calls hmeasured.2 _ Counters.reasoningOutputTokens
        Counters.reasoningComplete _ (fun _ => rfl) (fun _ => reasoningComplete_iff) rfl
        (counter_step _ _ (fun _ _ _ _ _ => rfl) fun _ _ => rfl)
    have hcost : ∀ cost ∈ (if decide (0 < attemptedCalls (componentsOf calls)) &&
        allMeasured (componentsOf calls) then schedule.bind (estimateCost (componentsOf calls))
          else none), ∃ prices ∈ schedule, estimateCost (componentsOf calls) prices = some cost := by
      intro cost hmem
      rw [if_pos hknown] at hmem
      exact Option.bind_eq_some_iff.mp hmem
    constructor
    · exact measurementStatusOf_complete
    · exact fun hnot => absurd hmeasured hnot
    · exact fun _ => (if_pos hknown).trans hinput
    · exact fun _ => (if_pos hknown).trans houtput
    · exact fun _ => (if_pos hknown).trans htotal
    · exact fun _ => (if_pos hknown).trans hcached
    · exact fun _ => (if_pos hknown).trans hreasoning
    · intro input hin output hout total htot
      have hin := hin.symm.trans ((if_pos hknown).trans hinput)
      have hout := hout.symm.trans ((if_pos hknown).trans houtput)
      have htot := htot.symm.trans ((if_pos hknown).trans htotal)
      rw [Option.some.inj hin, Option.some.inj hout, Option.some.inj htot, sum_totalTokens]
    · intro cached hmem input hin
      have hin := hin.symm.trans ((if_pos hknown).trans hinput)
      have hmem := ((if_pos hknown).trans hcached).symm.trans hmem
      rw [Option.some.inj hin]
      exact sumKnown_le (fun parsed => parsed.cached_le) hmem
    · intro reasoning hmem output hout
      have hout := hout.symm.trans ((if_pos hknown).trans houtput)
      have hmem := ((if_pos hknown).trans hreasoning).symm.trans hmem
      rw [Option.some.inj hout]
      exact sumKnown_le (fun parsed => parsed.reasoning_le) hmem
    · intro cost hmem
      obtain ⟨prices, -, hestimate⟩ := hcost cost hmem
      rw [(estimateCost_eq_some hestimate).1]
      refine List.sum_nonneg fun value hvalue => ?_
      obtain ⟨call, -, rfl⟩ := List.mem_map.mp hvalue
      exact call.cost_nonneg prices
    · intro cost hmem
      obtain ⟨prices, hprices, hestimate⟩ := hcost cost hmem
      obtain ⟨hsum, hcalls⟩ := estimateCost_eq_some hestimate
      refine ⟨prices, hprices, hsum, fun call hcall hattempted => ?_⟩
      obtain ⟨rate, hrate, hflat⟩ := hcalls call hcall hattempted
      obtain ⟨parsed, hparsed⟩ := hmeasured.2 call hcall hattempted
      refine ⟨rate, parsed, hrate, hparsed, ?_, hflat parsed hparsed⟩
      rw [Call.cost, hrate, hparsed]
  · have hunknown := Bool.eq_false_iff.mpr fun h => hmeasured (totalsKnown_iff.mp h)
    have habsent {α : Type} (value : Option α) :
        (if decide (0 < attemptedCalls (componentsOf calls)) && allMeasured (componentsOf calls)
          then value else none) = none := by
      rw [hunknown]
      rfl
    have hnothing {α : Type} {value : Option α} {found : α} (h : found ∈ 
        if decide (0 < attemptedCalls (componentsOf calls)) && allMeasured (componentsOf calls)
          then value else none) : False := by
      rw [habsent] at h
      cases h
    constructor
    · exact measurementStatusOf_complete
    · exact fun _ => ⟨habsent _, habsent _, habsent _, habsent _, habsent _, habsent _⟩
    · exact fun h => absurd h hmeasured
    · exact fun h => absurd h hmeasured
    · exact fun h => absurd h hmeasured
    · exact fun h => absurd h hmeasured
    · exact fun h => absurd h hmeasured
    · exact fun input hin => (hnothing hin).elim
    · exact fun cached hmem => (hnothing hmem).elim
    · exact fun reasoning hmem => (hnothing hmem).elim
    · exact fun cost hmem => (hnothing hmem).elim
    · exact fun cost hmem => (hnothing hmem).elim

theorem buildReport_eq (calls : List Call) (runId evaluationVersion : String) (runSucceeded : Bool)
    (schedule : Option PriceSchedule) :
    buildReport (recordAll calls) runId evaluationVersion runSucceeded schedule =
      if (componentsOf calls).any (·.model = "") then .error "ComponentUsage"
      else if runId = "" ∨ evaluationVersion = "" then .error "EvaluationUsageReport"
      else .ok (reportOf (componentsOf calls) runId evaluationVersion runSucceeded schedule) := by
  have haccounts := reportOf_accounts calls runId evaluationVersion runSucceeded schedule
  have hcost : (reportOf (componentsOf calls) runId evaluationVersion runSucceeded
      schedule).estimatedCostUsd.any (· < 0) = false := by
    cases hestimate : (reportOf (componentsOf calls) runId evaluationVersion runSucceeded
      schedule).estimatedCostUsd with
    | none => rfl
    | some cost => exact decide_eq_false (not_lt.mpr (haccounts.cost_nonneg cost hestimate))
  rw [buildReport, ← componentsOf, hcost]
  simp only [Bool.false_eq_true, or_false]

theorem model_missing : (componentsOf calls).any (·.model = "") = true ↔
    ∃ call ∈ calls, call.key.2 = "" := by
  rw [List.any_eq_true]
  constructor
  · rintro ⟨component, hmem, hmodel⟩
    obtain ⟨call, hcall, rfl⟩ := mem_componentsOf.mp hmem
    exact ⟨call, hcall, of_decide_eq_true hmodel⟩
  · rintro ⟨call, hcall, hmodel⟩
    exact ⟨_, mem_componentsOf.mpr ⟨call, hcall, rfl⟩, decide_eq_true hmodel⟩

end

/-- The report does not depend on the order of calls, there is one as soon as everything has a
name, and it says what the calls used and cost. -/
theorem buildReport_accounts (calls : List Call) (runId evaluationVersion : String)
    (runSucceeded : Bool) (schedule : Option PriceSchedule) :
    (∀ calls' : List Call, calls'.Perm calls →
        buildReport (recordAll calls') runId evaluationVersion runSucceeded schedule =
          buildReport (recordAll calls) runId evaluationVersion runSucceeded schedule) ∧
      ((∃ report, buildReport (recordAll calls) runId evaluationVersion runSucceeded schedule =
          .ok report) ↔
        runId ≠ "" ∧ evaluationVersion ≠ "" ∧ ∀ call ∈ calls, call.key.2 ≠ "") ∧
      ∀ report, buildReport (recordAll calls) runId evaluationVersion runSucceeded schedule =
        .ok report → report.Accounts calls schedule := by
  refine ⟨fun calls' hperm => ?_, ?_, fun report hreport => ?_⟩
  · have hcomponents : componentsOf calls' = componentsOf calls :=
      sortComponents_perm (recordAll_perm hperm) (nodup_recordAll calls)
    rw [buildReport_eq, buildReport_eq, hcomponents]
  · rw [buildReport_eq]
    generalize reportOf (componentsOf calls) runId evaluationVersion runSucceeded schedule = report
    by_cases hmodel : (componentsOf calls).any (·.model = "") = true
    · rw [if_pos hmodel]
      obtain ⟨call, hcall, hempty⟩ := model_missing.mp hmodel
      exact iff_of_false (fun ⟨_, hok⟩ => by cases hok)
        fun h => h.2.2 call hcall hempty
    · rw [if_neg hmodel]
      by_cases hnames : runId = "" ∨ evaluationVersion = ""
      · rw [if_pos hnames]
        exact iff_of_false (fun ⟨_, hok⟩ => by cases hok) fun h => hnames.elim h.1 h.2.1
      · rw [if_neg hnames]
        obtain ⟨hrun, hversion⟩ := not_or.mp hnames
        exact iff_of_true ⟨_, rfl⟩ ⟨hrun, hversion, fun call hcall hempty =>
          hmodel (model_missing.mpr ⟨call, hcall, hempty⟩)⟩
  · have haccounts := reportOf_accounts calls runId evaluationVersion runSucceeded schedule
    rw [buildReport_eq] at hreport
    generalize reportOf (componentsOf calls) runId evaluationVersion runSucceeded schedule = made
      at hreport haccounts
    split_ifs at hreport
    cases hreport
    exact haccounts

/-- A response of three input tokens, one of them cached, and two output tokens. -/
def smallResponse : Value :=
  .object fun name => if name = "usage" then .object fun name =>
    if name = "input_tokens" then .int 3
    else if name = "total_tokens" then .int 5
    else if name = "input_tokens_details" then .object fun _ => .int 1
    else .none
  else .none

theorem smallPrices_version : "v1" ≠ "" := by decide

def smallPrices : PriceSchedule where
  version := "v1"
  currency := "USD"
  effectiveDate := "2026-01-01"
  rates := [⟨"openai", "m", 1000000, 500000, 2000000, by decide, by decide, by decide, by decide,
    by decide⟩]
  version_ne := smallPrices_version
  currency_eq := rfl
  rates_ne := List.cons_ne_nil _ _
  rates_nodup := List.nodup_singleton _

theorem smallResponse_accounts : ∃ report,
    buildReport (recordAll [⟨(.answer, "m"), .registered⟩, ⟨(.answer, "m"), .succeeded smallResponse⟩])
        "run" "v1" true (some smallPrices) = .ok report ∧
      report.measurementStatus = .complete ∧ report.inputTokens = some 3 ∧
      report.outputTokens = some 2 ∧ report.estimatedCostUsd = some (13 / 2) := by
  obtain ⟨-, hreport, haccounts⟩ := buildReport_accounts
    [⟨(.answer, "m"), .registered⟩, ⟨(.answer, "m"), .succeeded smallResponse⟩] "run" "v1" true
    (some smallPrices)
  obtain ⟨report, hok⟩ := hreport.mpr ⟨by decide, by decide, by decide⟩
  have haccounts := haccounts report hok
  have hmeasured : MeasuredCompletely
      [⟨(.answer, "m"), .registered⟩, ⟨(.answer, "m"), .succeeded smallResponse⟩] := by
    refine ⟨⟨_, List.mem_cons_of_mem _ List.mem_cons_self, trivial⟩, fun call hcall => ?_⟩
    rcases List.mem_cons.mp hcall with rfl | hcall
    · exact False.elim
    · rw [List.mem_singleton.mp hcall]
      exact fun _ => ⟨_, rfl⟩
  refine ⟨report, hok, haccounts.complete_iff.mpr hmeasured, (haccounts.input hmeasured).trans rfl,
    (haccounts.output hmeasured).trans rfl, ?_⟩
  have hcost : (buildReport (recordAll [⟨(.answer, "m"), .registered⟩,
      ⟨(.answer, "m"), .succeeded smallResponse⟩]) "run" "v1" true
        (some smallPrices)).toOption.bind (·.estimatedCostUsd) = some (13 / 2) := by decide +kernel
  rw [hok] at hcost
  exact hcost

end CSO.EvaluationRunner.Usage
