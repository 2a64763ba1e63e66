import CSO.EvaluationRunner.UsageEntries
import Mathlib.Tactic.Ring
import Mathlib.Tactic.Positivity
import Mathlib.Tactic.Linarith
import Mathlib.Algebra.Order.BigOperators.Group.List

/-! What a report says of the calls that are recorded. -/
namespace CSO.EvaluationRunner.Usage

/-! Sums over calls. -/

section

variable {M : Type}

theorem sumKnown_of_forall [AddMonoid M] {values : List (Option M)}
    (h : ∀ value ∈ values, value.isSome) :
    sumKnown values = some (values.map (·.getD 0)).sum := by
  have hany : values.any Option.isNone = false := by
    refine List.any_eq_false.mpr fun value hvalue => ?_
    rw [← Option.not_isSome, h value hvalue]
    exact Bool.false_ne_true
  rw [sumKnown, if_neg (by rw [hany]; exact Bool.false_ne_true)]
  clear hany
  congr 1
  induction values with
  | nil => rfl
  | cons value values ih =>
    obtain ⟨found, hfound⟩ := Option.isSome_iff_exists.mp (h value List.mem_cons_self)
    have hid : id (some found) = some found := rfl
    rw [List.map_cons, List.sum_cons, hfound, List.filterMap_cons_some hid, List.sum_cons,
      ih fun other hother => h other (List.mem_cons_of_mem _ hother)]
    rfl

theorem sumKnown_of_none [AddMonoid M] {values : List (Option M)} (h : none ∈ values) :
    sumKnown values = none := by
  rw [sumKnown, if_pos (List.any_eq_true.mpr ⟨none, h, rfl⟩)]

theorem sumKnown_eq_some [AddMonoid M] {values : List (Option M)} {total : M}
    (h : sumKnown values = some total) :
    (∀ value ∈ values, value.isSome) ∧ total = (values.map (·.getD 0)).sum := by
  have hall : ∀ value ∈ values, value.isSome := by
    intro value hvalue
    by_contra hnone
    rw [Option.not_isSome_iff_eq_none.mp hnone] at hvalue
    rw [sumKnown_of_none hvalue] at h
    cases h
  refine ⟨hall, ?_⟩
  rw [sumKnown_of_forall hall] at h
  exact (Option.some.inj h).symm

variable [AddCommMonoid M] {usage : UsageRecorder} {key : UsageKey}

theorem sum_changeEntry (f : UsageKey → Counters → M) {change : Counters → Counters} {weight : M}
    (hfresh : f key Counters.fresh = 0)
    (hchange : ∀ counters, f key (change counters) = f key counters + weight) :
    ((changeEntry key change usage).map fun entry => f entry.1 entry.2).sum =
      (usage.map fun entry => f entry.1 entry.2).sum + weight := by
  induction usage with
  | nil => rw [changeEntry, List.map_singleton, List.sum_singleton, hchange, hfresh, List.map_nil,
      List.sum_nil]
  | cons entry usage ih =>
    rw [changeEntry]
    by_cases hentry : entry.1 = key
    · rw [if_pos hentry, List.map_cons, List.sum_cons, List.map_cons, List.sum_cons, hchange, hentry,
        add_right_comm]
    · rw [if_neg hentry, List.map_cons, List.sum_cons, List.map_cons, List.sum_cons, ih, add_assoc]

/-- What every call adds to its entry is what all of them add to the sum of entries. -/
theorem sum_recordAll (f : UsageKey → Counters → M) (weight : Call → M)
    (hfresh : ∀ key, f key Counters.fresh = 0)
    (hstep : ∀ call counters, f call.key (Counters.step counters call.outcome) =
      f call.key counters + weight call) (calls : List Call) :
    ((recordAll calls).map fun entry => f entry.1 entry.2).sum = (calls.map weight).sum := by
  induction calls using List.reverseRecOn with
  | nil => rfl
  | append_singleton calls call ih =>
    rw [recordAll_concat, record, sum_changeEntry f (hfresh _) (hstep call), ih, List.map_append,
      List.sum_append, List.map_singleton, List.sum_singleton]

end

/-- The usage of the calls that are found to have some. -/
def usagesOf (calls : List Call) : List ParsedUsage := calls.filterMap (·.outcome.usage?)

section

variable {calls : List Call} {key : UsageKey}

theorem mem_usagesOf {parsed : ParsedUsage} :
    parsed ∈ usagesOf calls ↔ ∃ call ∈ calls, call.outcome.usage? = some parsed :=
  List.mem_filterMap

theorem sum_usagesOf (count : ParsedUsage → ℕ) (calls : List Call) :
    (calls.map fun call => (call.outcome.usage?.map count).getD 0).sum =
      ((usagesOf calls).map count).sum := by
  induction calls with
  | nil => rfl
  | cons call calls ih =>
    rw [List.map_cons, List.sum_cons, ih, usagesOf, usagesOf, List.filterMap_cons]
    cases call.outcome.usage? with
    | none => exact zero_add _
    | some parsed =>
      rw [List.map_cons, List.sum_cons]
      rfl

/-! What a call does to the counters. -/

theorem countersOf_concat (calls : List Call) (call : Call) (key : UsageKey) :
    countersOf (calls ++ [call]) key =
      if call.key = key then (countersOf calls key).step call.outcome else countersOf calls key := by
  rw [← entryOf_recordAll, recordAll_concat, record, entryOf_changeEntry, entryOf_recordAll]
  by_cases hkey : call.key = key
  · rw [if_pos hkey, if_pos hkey, hkey]
  · rw [if_neg hkey, if_neg hkey, entryOf_recordAll]

/-- What every call of a key has to keep. -/
theorem holds_countersOf (holds : Counters → Prop) (keeps : Outcome → Prop)
    (hfresh : holds Counters.fresh)
    (hstep : ∀ counters outcome, holds (Counters.step counters outcome) ↔
      holds counters ∧ keeps outcome) :
    holds (countersOf calls key) ↔ ∀ call ∈ calls, call.key = key → keeps call.outcome := by
  induction calls using List.reverseRecOn with
  | nil => exact iff_of_true hfresh fun _ h => absurd h List.not_mem_nil
  | append_singleton calls call ih =>
    rw [countersOf_concat]
    by_cases hkey : call.key = key
    · rw [if_pos hkey, hstep, ih]
      constructor
      · rintro ⟨hold, hnew⟩ other hother hkey'
        rcases List.mem_append.mp hother with hmem | hmem
        · exact hold other hmem hkey'
        · rw [List.mem_singleton.mp hmem]
          exact hnew
      · intro h
        exact ⟨fun other hother => h other (List.mem_append_left _ hother),
          h call (List.mem_append_right _ (List.mem_singleton_self _)) hkey⟩
    · rw [if_neg hkey, ih]
      constructor
      · intro h other hother hkey'
        rcases List.mem_append.mp hother with hmem | hmem
        · exact h other hmem hkey'
        · rw [List.mem_singleton.mp hmem] at hkey'
          exact absurd hkey' hkey
      · exact fun h other hother => h other (List.mem_append_left _ hother)

theorem step_succeeded (counters : Counters) (response : Value) :
    counters.step (.succeeded response) =
      match parseUsage (readValue response "usage") with
      | none =>
        { counters with
          attemptedCalls := counters.attemptedCalls + 1
          succeededCalls := counters.succeededCalls + 1
          complete := false }
      | some parsed =>
        { counters.addUsage parsed with
          attemptedCalls := counters.attemptedCalls + 1
          succeededCalls := counters.succeededCalls + 1 } := by
  rw [Counters.step]
  cases parseUsage (readValue response "usage") <;> rfl

/-- What a call adds to a count of tokens. -/
theorem counter_step (counter : Counters → ℕ) (count : ParsedUsage → ℕ)
    (hcalls : ∀ (counters : Counters) attempted succeeded failed complete, counter
      { counters with
        attemptedCalls := attempted
        succeededCalls := succeeded
        failedCalls := failed
        complete := complete } = counter counters)
    (hadd : ∀ counters parsed, counter (Counters.addUsage counters parsed) =
      counter counters + count parsed) (counters : Counters) (outcome : Outcome) :
    counter (counters.step outcome) = counter counters + (outcome.usage?.map count).getD 0 := by
  cases outcome with
  | registered => rfl
  | failed => exact hcalls counters _ _ _ _
  | succeeded response =>
    rw [step_succeeded, Outcome.usage?]
    cases parseUsage (readValue response "usage") with
    | none => exact hcalls counters _ _ _ _
    | some parsed => exact (hcalls (counters.addUsage parsed) _ _ _ _).trans (hadd counters parsed)

def Outcome.Measured (outcome : Outcome) : Prop :=
  outcome.Attempted → ∃ parsed, outcome.usage? = some parsed

theorem complete_iff : (countersOf calls key).complete = true ↔
    ∀ call ∈ calls, call.key = key → call.outcome.Measured := by
  refine holds_countersOf (·.complete = true) Outcome.Measured rfl fun counters outcome => ?_
  cases outcome with
  | registered => exact (and_iff_left (show Outcome.registered.Measured from False.elim)).symm
  | failed =>
    refine iff_of_false Bool.false_ne_true fun h => ?_
    obtain ⟨parsed, hparsed⟩ := h.2 trivial
    cases hparsed
  | succeeded response =>
    rw [step_succeeded]
    cases hparsed : parseUsage (readValue response "usage") with
    | none =>
      refine iff_of_false Bool.false_ne_true fun h => ?_
      obtain ⟨parsed, hsome⟩ := h.2 trivial
      rw [Outcome.usage?, hparsed] at hsome
      cases hsome
    | some parsed => exact (and_iff_left fun _ => ⟨parsed, hparsed⟩).symm

theorem attemptedCalls_eq_zero : (countersOf calls key).attemptedCalls = 0 ↔
    ∀ call ∈ calls, call.key = key → ¬call.outcome.Attempted := by
  refine holds_countersOf (·.attemptedCalls = 0) (¬Outcome.Attempted ·) rfl
    fun counters outcome => ?_
  cases outcome with
  | registered => exact (and_iff_left id).symm
  | failed => exact iff_of_false (Nat.succ_ne_zero _) fun h => h.2 trivial
  | succeeded response =>
    refine iff_of_false ?_ fun h => h.2 trivial
    rw [step_succeeded]
    cases parseUsage (readValue response "usage") with
    | none => exact Nat.succ_ne_zero _
    | some parsed => exact Nat.succ_ne_zero _

/-- A flag that every usage keeps or not. -/
theorem flag_iff (flag : Counters → Bool) (count : ParsedUsage → Option ℕ)
    (hfresh : flag Counters.fresh = true)
    (hfailed : ∀ counters : Counters, flag (counters.step .failed) = flag counters)
    (hsucceeded : ∀ counters response, flag (Counters.step counters (.succeeded response)) =
      match parseUsage (readValue response "usage") with
      | none => flag counters
      | some parsed => flag counters && (count parsed).isSome) :
    flag (countersOf calls key) = true ↔ ∀ call ∈ calls, call.key = key →
      ∀ parsed, call.outcome.usage? = some parsed → (count parsed).isSome := by
  refine holds_countersOf (flag · = true)
    (fun outcome => ∀ parsed, outcome.usage? = some parsed → (count parsed).isSome) hfresh
    fun counters outcome => ?_
  cases outcome with
  | registered => exact (and_iff_left nofun).symm
  | failed =>
    rw [hfailed]
    exact (and_iff_left nofun).symm
  | succeeded response =>
    rw [hsucceeded, Outcome.usage?]
    cases parseUsage (readValue response "usage") with
    | none => exact (and_iff_left nofun).symm
    | some parsed =>
      dsimp only
      rw [Bool.and_eq_true]
      refine and_congr_right fun _ => ⟨fun h other heq => ?_, fun h => h parsed rfl⟩
      rw [← Option.some.inj heq]
      exact h

theorem cachedComplete_iff : (countersOf calls key).cachedComplete = true ↔ ∀ call ∈ calls,
    call.key = key → ∀ parsed, call.outcome.usage? = some parsed → parsed.cachedTokens.isSome := by
  refine flag_iff Counters.cachedComplete ParsedUsage.cachedTokens rfl (fun _ => rfl)
    fun counters response => ?_
  rw [step_succeeded]
  cases parseUsage (readValue response "usage") <;> rfl

theorem reasoningComplete_iff : (countersOf calls key).reasoningComplete = true ↔ ∀ call ∈ calls,
    call.key = key → ∀ parsed, call.outcome.usage? = some parsed →
      parsed.reasoningTokens.isSome := by
  refine flag_iff Counters.reasoningComplete ParsedUsage.reasoningTokens rfl (fun _ => rfl)
    fun counters response => ?_
  rw [step_succeeded]
  cases parseUsage (readValue response "usage") <;> rfl

/-- What holds of the counters of any calls. -/
structure Counters.Sound (counters : Counters) : Prop where
  measured_le : counters.measuredCalls ≤ counters.succeededCalls
  complete_iff : counters.complete = true ↔
    counters.measuredCalls = counters.succeededCalls ∧ counters.failedCalls = 0
  idle : counters.attemptedCalls = 0 → counters = Counters.fresh

theorem Counters.Sound.step {counters : Counters} (h : counters.Sound) (outcome : Outcome) :
    (counters.step outcome).Sound := by
  have hle := h.measured_le
  cases outcome with
  | registered => exact h
  | failed =>
    refine ⟨hle, iff_of_false Bool.false_ne_true fun hmeasured => ?_,
      fun hidle => absurd hidle (Nat.succ_ne_zero _)⟩
    exact absurd hmeasured.2 (Nat.succ_ne_zero _)
  | succeeded response =>
    rw [step_succeeded]
    cases parseUsage (readValue response "usage") with
    | none =>
      refine ⟨hle.trans (Nat.le_succ _), iff_of_false Bool.false_ne_true fun hmeasured => ?_,
        fun hidle => absurd hidle (Nat.succ_ne_zero _)⟩
      have hcalls : counters.measuredCalls = counters.succeededCalls + 1 := hmeasured.1
      omega
    | some parsed =>
      refine ⟨Nat.succ_le_succ hle, ?_, fun hidle => absurd hidle (Nat.succ_ne_zero _)⟩
      show counters.complete = true ↔
        counters.measuredCalls + 1 = counters.succeededCalls + 1 ∧ counters.failedCalls = 0
      rw [h.complete_iff, Nat.succ_inj]

theorem countersOf_sound (calls : List Call) (key : UsageKey) : (countersOf calls key).Sound := by
  induction calls using List.reverseRecOn with
  | nil => exact ⟨le_refl 0, iff_of_true rfl ⟨rfl, rfl⟩, fun _ => rfl⟩
  | append_singleton calls call ih =>
    rw [countersOf_concat]
    by_cases hkey : call.key = key
    · rw [if_pos hkey]
      exact ih.step call.outcome
    · rw [if_neg hkey]
      exact ih

end

end CSO.EvaluationRunner.Usage
