import CSO.EvaluationRunner.UsageTotals

/-! The report on the calls that are recorded. -/
namespace CSO.EvaluationRunner.Usage

section

variable {M : Type}

theorem sumKnown_perm [AddCommMonoid M] {values values' : List (Option M)}
    (h : values.Perm values') : sumKnown values = sumKnown values' := by
  have hany : values.any Option.isNone = values'.any Option.isNone := by
    rw [Bool.eq_iff_iff, List.any_eq_true, List.any_eq_true]
    exact exists_congr fun value => and_congr_left fun _ => h.mem_iff
  rw [sumKnown, sumKnown, hany, (h.filterMap id).sum_eq]

theorem sumKnown_map_some [AddMonoid M] {α : Type} (values : List α) (f : α → M) :
    sumKnown (values.map fun value => some (f value)) = some (values.map f).sum := by
  have hsome : ∀ value ∈ values.map fun value => some (f value), value.isSome := by
    intro value hvalue
    obtain ⟨found, -, rfl⟩ := List.mem_map.mp hvalue
    rfl
  rw [sumKnown_of_forall hsome, List.map_map]
  rfl

theorem sum_map_filter [AddMonoid M] {α : Type} {values : List α} {f : α → M} {p : α → Bool}
    (h : ∀ value ∈ values, p value = false → f value = 0) :
    ((values.filter p).map f).sum = (values.map f).sum := by
  induction values with
  | nil => rfl
  | cons value values ih =>
    have hrest := ih fun other hother => h other (List.mem_cons_of_mem _ hother)
    cases hvalue : p value with
    | true => rw [List.filter_cons_of_pos hvalue, List.map_cons, List.sum_cons, hrest,
        List.map_cons, List.sum_cons]
    | false =>
      rw [List.filter_cons_of_neg (by rw [hvalue]; exact Bool.false_ne_true), List.map_cons,
        List.sum_cons, h value List.mem_cons_self hvalue, zero_add, hrest]

end

/-- The components of the report on some calls. -/
def componentsOf (calls : List Call) : List ComponentUsage :=
  sortComponents ((recordAll calls).map componentOf)

section

variable {calls : List Call}

theorem componentsOf_perm (calls : List Call) :
    (componentsOf calls).Perm ((recordAll calls).map componentOf) := List.perm_insertionSort _ _

theorem mem_componentsOf {component : ComponentUsage} : component ∈ componentsOf calls ↔
    ∃ call ∈ calls, component = componentOf (call.key, countersOf calls call.key) := by
  rw [(componentsOf_perm calls).mem_iff, List.mem_map]
  constructor
  · rintro ⟨entry, hentry, rfl⟩
    obtain ⟨⟨call, hcall, hkey⟩, hcounters⟩ := mem_recordAll.mp hentry
    refine ⟨call, hcall, ?_⟩
    rw [hkey, ← hcounters]
  · rintro ⟨call, hcall, rfl⟩
    exact ⟨_, mem_recordAll.mpr ⟨⟨call, hcall, rfl⟩, rfl⟩, rfl⟩

/-- Some call was attempted and every attempted call is measured. -/
def MeasuredCompletely (calls : List Call) : Prop :=
  (∃ call ∈ calls, call.outcome.Attempted) ∧ ∀ call ∈ calls, call.outcome.Measured

theorem allMeasured_iff : allMeasured (componentsOf calls) = true ↔
    ∀ call ∈ calls, call.outcome.Measured := by
  rw [allMeasured, List.all_eq_true]
  have hcomponent (key : UsageKey) :
      (decide ((countersOf calls key).measuredCalls = (countersOf calls key).succeededCalls) &&
        decide ((countersOf calls key).failedCalls = 0)) = true ↔
        ∀ call ∈ calls, call.key = key → call.outcome.Measured := by
    rw [Bool.and_eq_true, decide_eq_true_iff, decide_eq_true_iff,
      ← (countersOf_sound calls key).complete_iff, complete_iff]
  constructor
  · intro h call hcall
    have hmem := mem_componentsOf.mpr ⟨call, hcall, rfl⟩
    exact (hcomponent call.key).mp (h _ hmem) call hcall rfl
  · intro h component hmem
    obtain ⟨call, -, rfl⟩ := mem_componentsOf.mp hmem
    exact (hcomponent call.key).mpr fun other hother _ => h other hother

theorem attemptedCalls_pos : 0 < attemptedCalls (componentsOf calls) ↔
    ∃ call ∈ calls, call.outcome.Attempted := by
  rw [attemptedCalls, List.sum_pos_iff_exists_pos_nat]
  constructor
  · rintro ⟨count, hcount, hpos⟩
    obtain ⟨component, hmem, rfl⟩ := List.mem_map.mp hcount
    obtain ⟨call, -, rfl⟩ := mem_componentsOf.mp hmem
    by_contra hnone
    have hzero : (countersOf calls call.key).attemptedCalls = 0 :=
      attemptedCalls_eq_zero.mpr fun other hother _ hattempted => hnone ⟨other, hother, hattempted⟩
    have hattempted : 0 < (countersOf calls call.key).attemptedCalls := hpos
    omega
  · rintro ⟨call, hcall, hattempted⟩
    refine ⟨(countersOf calls call.key).attemptedCalls,
      List.mem_map.mpr ⟨_, mem_componentsOf.mpr ⟨call, hcall, rfl⟩, rfl⟩, ?_⟩
    by_contra hzero
    exact attemptedCalls_eq_zero.mp (Nat.eq_zero_of_not_pos hzero) call hcall rfl hattempted

theorem totalsKnown_iff :
    (decide (0 < attemptedCalls (componentsOf calls)) && allMeasured (componentsOf calls)) = true ↔
      MeasuredCompletely calls := by
  rw [Bool.and_eq_true, decide_eq_true_iff, attemptedCalls_pos, allMeasured_iff]
  rfl

theorem measurementStatusOf_complete :
    measurementStatusOf (componentsOf calls) = .complete ↔ MeasuredCompletely calls := by
  rw [← totalsKnown_iff, measurementStatusOf]
  by_cases hattempted : attemptedCalls (componentsOf calls) = 0
  · rw [if_pos hattempted, hattempted, decide_eq_false (lt_irrefl 0), Bool.false_and]
    exact iff_of_false nofun Bool.false_ne_true
  · rw [if_neg hattempted, decide_eq_true (Nat.pos_of_ne_zero hattempted), Bool.true_and]
    cases allMeasured (componentsOf calls) with
    | true => exact iff_of_true rfl rfl
    | false =>
      refine iff_of_false ?_ Bool.false_ne_true
      rw [if_neg Bool.false_ne_true]
      split_ifs <;> exact nofun

/-- A field that is known of every attempted component. -/
theorem sumOptional_known {field : ComponentUsage → Option ℕ} {counter : Counters → ℕ}
    {count : ParsedUsage → ℕ}
    (hfield : ∀ entry ∈ recordAll calls, field (componentOf entry) = some (counter entry.2))
    (hfresh : counter Counters.fresh = 0)
    (hstep : ∀ counters outcome, counter (Counters.step counters outcome) =
      counter counters + (outcome.usage?.map count).getD 0) :
    sumOptional (componentsOf calls) field = some ((usagesOf calls).map count).sum := by
  have hperm := ((componentsOf_perm calls).filter (0 < ·.attemptedCalls)).map field
  rw [sumOptional, sumKnown_perm hperm, List.filter_map, List.map_map]
  have hsome : ((recordAll calls).filter ((0 < ·.attemptedCalls) ∘ componentOf)).map
      (field ∘ componentOf) = ((recordAll calls).filter
        (decide <| 0 < ·.2.attemptedCalls)).map fun entry => some (counter entry.2) := by
    refine List.map_congr_left fun entry hentry => hfield entry (List.mem_of_mem_filter hentry)
  rw [hsome, sumKnown_map_some, sum_map_filter, ← sum_usagesOf]
  · exact congrArg some (sum_recordAll (fun _ => counter) _ (fun _ => hfresh)
      (fun call counters => hstep counters call.outcome) calls)
  · intro entry hentry hidle
    have hcounters := (mem_recordAll.mp hentry).2
    have hzero : entry.2.attemptedCalls = 0 := by
      have := of_decide_eq_false hidle
      omega
    rw [hcounters] at hzero ⊢
    rw [(countersOf_sound calls entry.1).idle hzero, hfresh]

/-- A field that is not known of some attempted component. -/
theorem sumOptional_unknown {field : ComponentUsage → Option ℕ} {call : Call} (hcall : call ∈ calls)
    (hattempted : call.outcome.Attempted)
    (hfield : field (componentOf (call.key, countersOf calls call.key)) = none) :
    sumOptional (componentsOf calls) field = none := by
  refine sumKnown_of_none (List.mem_map.mpr ⟨_, List.mem_filter.mpr
    ⟨mem_componentsOf.mpr ⟨call, hcall, rfl⟩, decide_eq_true ?_⟩, hfield⟩)
  show 0 < (countersOf calls call.key).attemptedCalls
  by_contra hzero
  exact attemptedCalls_eq_zero.mp (Nat.eq_zero_of_not_pos hzero) call hcall rfl hattempted

theorem known_of_measured (hmeasured : ∀ call ∈ calls, call.outcome.Measured)
    {entry : UsageKey × Counters} (hentry : entry ∈ recordAll calls) :
    (entry.2.complete && decide (entry.2.measuredCalls = entry.2.succeededCalls)) = true := by
  have hcounters := (mem_recordAll.mp hentry).2
  have hcomplete : entry.2.complete = true := by
    rw [hcounters, complete_iff]
    exact fun call hcall _ => hmeasured call hcall
  rw [hcomplete, Bool.true_and, decide_eq_true_iff]
  have hsound := countersOf_sound calls entry.1
  rw [← hcounters] at hsound
  exact (hsound.complete_iff.mp hcomplete).1

/-- A count that some calls may not have. -/
theorem sumOptional_count (hmeasured : ∀ call ∈ calls, call.outcome.Measured)
    {field : ComponentUsage → Option ℕ} {counter : Counters → ℕ} {flag : Counters → Bool}
    {count : ParsedUsage → Option ℕ}
    (hfield : ∀ entry : UsageKey × Counters, field (componentOf entry) =
      if entry.2.complete && decide (entry.2.measuredCalls = entry.2.succeededCalls) && flag entry.2
        then some (counter entry.2) else none)
    (hflag : ∀ key, flag (countersOf calls key) = true ↔ ∀ call ∈ calls, call.key = key →
      ∀ parsed, call.outcome.usage? = some parsed → (count parsed).isSome)
    (hfresh : counter Counters.fresh = 0)
    (hstep : ∀ counters outcome, counter (Counters.step counters outcome) =
      counter counters + (outcome.usage?.map fun parsed => (count parsed).getD 0).getD 0) :
    sumOptional (componentsOf calls) field = sumKnown ((usagesOf calls).map count) := by
  by_cases hknown : ∀ parsed ∈ usagesOf calls, (count parsed).isSome
  · have hvalues : ∀ value ∈ (usagesOf calls).map count, value.isSome := by
      intro value hvalue
      obtain ⟨parsed, hparsed, rfl⟩ := List.mem_map.mp hvalue
      exact hknown parsed hparsed
    rw [sumKnown_of_forall hvalues, List.map_map]
    refine sumOptional_known (fun entry hentry => ?_) hfresh hstep
    have hset : flag entry.2 = true := by
      rw [(mem_recordAll.mp hentry).2, hflag]
      exact fun call hcall _ parsed hparsed => hknown parsed (mem_usagesOf.mpr ⟨call, hcall, hparsed⟩)
    rw [hfield, known_of_measured hmeasured hentry, hset]
    rfl
  · push Not at hknown
    obtain ⟨parsed, hparsed, hnone⟩ := hknown
    obtain ⟨call, hcall, husage⟩ := mem_usagesOf.mp hparsed
    have hmissing : none ∈ (usagesOf calls).map count :=
      List.mem_map.mpr ⟨parsed, hparsed, Option.not_isSome_iff_eq_none.mp hnone⟩
    rw [sumKnown_of_none hmissing]
    have hattempted : call.outcome.Attempted := by
      cases houtcome : call.outcome with
      | registered =>
        rw [houtcome] at husage
        cases husage
      | succeeded response => trivial
      | failed => trivial
    refine sumOptional_unknown hcall hattempted ?_
    have hunset : flag (countersOf calls call.key) = false := by
      rw [← Bool.not_eq_true, hflag]
      exact fun h => hnone (h call hcall rfl parsed husage)
    rw [hfield, hunset, Bool.and_false]
    rfl

end

end CSO.EvaluationRunner.Usage
