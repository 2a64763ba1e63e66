import CSO.EvaluationRunner.Usage
import Mathlib.Algebra.BigOperators.Group.List.Basic
import Mathlib.Data.List.Induction

/-! What the entries of a recorder hold of the calls. -/
namespace CSO.EvaluationRunner.Usage

section

variable {usage : UsageRecorder} {calls : List Call} {counters : Counters} {key : UsageKey}

def keys (usage : UsageRecorder) : List UsageKey := usage.map Prod.fst

/-- The counters of a key, which are those of no call when it did not come up. -/
def entryOf : UsageRecorder → UsageKey → Counters
  | [], _ => Counters.fresh
  | entry :: usage, key => if entry.1 = key then entry.2 else entryOf usage key

theorem entryOf_of_mem (hnodup : (keys usage).Nodup) (h : (key, counters) ∈ usage) :
    entryOf usage key = counters := by
  induction usage with
  | nil => cases h
  | cons entry usage ih =>
    rw [keys, List.map_cons, List.nodup_cons] at hnodup
    rw [entryOf]
    rcases List.mem_cons.mp h with heq | hmem
    · rw [← heq, if_pos rfl]
    · have hne : entry.1 ≠ key := fun heq => hnodup.1 (heq ▸ List.mem_map.mpr ⟨_, hmem, rfl⟩)
      rw [if_neg hne]
      exact ih hnodup.2 hmem

theorem entryOf_changeEntry (change : Counters → Counters) (other : UsageKey) :
    entryOf (changeEntry key change usage) other =
      if key = other then change (entryOf usage key) else entryOf usage other := by
  induction usage with
  | nil => rfl
  | cons entry usage ih =>
    rw [changeEntry]
    by_cases hentry : entry.1 = key
    · rw [if_pos hentry, entryOf, entryOf, entryOf, hentry, if_pos rfl]
      by_cases hother : key = other
      · rw [if_pos hother, if_pos hother]
      · rw [if_neg hother, if_neg hother, if_neg hother]
    · rw [if_neg hentry, entryOf, entryOf, entryOf, if_neg hentry, ih]
      by_cases hother : key = other
      · rw [if_pos hother, if_pos hother, ← hother, if_neg hentry]
      · rw [if_neg hother, if_neg hother]

theorem mem_keys_changeEntry (change : Counters → Counters) (other : UsageKey) :
    other ∈ keys (changeEntry key change usage) ↔ other = key ∨ other ∈ keys usage := by
  induction usage with
  | nil => rw [changeEntry, keys, keys, List.map_singleton, List.mem_singleton, List.map_nil,
      or_iff_left List.not_mem_nil]
  | cons entry usage ih =>
    rw [changeEntry]
    by_cases hentry : entry.1 = key
    · rw [if_pos hentry, keys, keys, List.map_cons, List.map_cons, List.mem_cons, List.mem_cons,
        hentry, ← or_assoc, or_self]
    · rw [if_neg hentry, keys, keys, List.map_cons, List.map_cons, List.mem_cons, List.mem_cons]
      rw [keys, keys] at ih
      rw [ih, or_left_comm]

theorem nodup_changeEntry (change : Counters → Counters) (h : (keys usage).Nodup) :
    (keys (changeEntry key change usage)).Nodup := by
  induction usage with
  | nil => exact List.nodup_singleton _
  | cons entry usage ih =>
    rw [keys, List.map_cons, List.nodup_cons] at h
    rw [changeEntry]
    by_cases hentry : entry.1 = key
    · rw [if_pos hentry, keys, List.map_cons, List.nodup_cons, ← hentry]
      exact h
    · rw [if_neg hentry, keys, List.map_cons, List.nodup_cons]
      refine ⟨fun hmem => ?_, ih h.2⟩
      rcases (mem_keys_changeEntry change entry.1).mp hmem with heq | hmem
      · exact hentry heq
      · exact h.1 hmem

/-- The counters after the calls of a key. -/
def countersOf (calls : List Call) (key : UsageKey) : Counters :=
  (calls.filter (·.key = key)).foldl (fun counters call => counters.step call.outcome)
    Counters.fresh

theorem recordAll_concat (calls : List Call) (call : Call) :
    recordAll (calls ++ [call]) = record (recordAll calls) call := by
  rw [recordAll, List.foldl_append]
  rfl

theorem nodup_recordAll (calls : List Call) : (keys (recordAll calls)).Nodup := by
  induction calls using List.reverseRecOn with
  | nil => exact List.nodup_nil
  | append_singleton calls call ih =>
    rw [recordAll_concat]
    exact nodup_changeEntry _ ih

theorem mem_keys_recordAll (calls : List Call) (key : UsageKey) :
    key ∈ keys (recordAll calls) ↔ ∃ call ∈ calls, call.key = key := by
  induction calls using List.reverseRecOn with
  | nil => exact iff_of_false List.not_mem_nil fun ⟨_, h, _⟩ => absurd h List.not_mem_nil
  | append_singleton calls call ih =>
    rw [recordAll_concat, record, mem_keys_changeEntry, ih]
    constructor
    · rintro (rfl | ⟨other, hother, hkey⟩)
      · exact ⟨call, List.mem_append_right _ (List.mem_singleton_self _), rfl⟩
      · exact ⟨other, List.mem_append_left _ hother, hkey⟩
    · rintro ⟨other, hother, hkey⟩
      rcases List.mem_append.mp hother with hold | hnew
      · exact .inr ⟨other, hold, hkey⟩
      · rw [List.mem_singleton.mp hnew] at hkey
        exact .inl hkey.symm

theorem entryOf_recordAll (calls : List Call) (key : UsageKey) :
    entryOf (recordAll calls) key = countersOf calls key := by
  induction calls using List.reverseRecOn with
  | nil => rfl
  | append_singleton calls call ih =>
    rw [recordAll_concat, record, entryOf_changeEntry, countersOf, List.filter_append,
      List.foldl_append]
    by_cases hkey : call.key = key
    · rw [if_pos hkey, hkey, ih, List.filter_cons_of_pos (by simpa using hkey), List.filter_nil]
      rfl
    · rw [if_neg hkey, ih, List.filter_cons_of_neg (by simpa using hkey), List.filter_nil]
      rfl

theorem mem_recordAll {entry : UsageKey × Counters} : entry ∈ recordAll calls ↔
    (∃ call ∈ calls, call.key = entry.1) ∧ entry.2 = countersOf calls entry.1 := by
  rw [← mem_keys_recordAll]
  constructor
  · intro h
    refine ⟨List.mem_map_of_mem h, ?_⟩
    rw [← entryOf_recordAll]
    exact (entryOf_of_mem (nodup_recordAll calls) h).symm
  · rintro ⟨hkey, hcounters⟩
    obtain ⟨other, hother, heq⟩ := List.mem_map.mp hkey
    have hentry : entryOf (recordAll calls) other.1 = other.2 :=
      entryOf_of_mem (nodup_recordAll calls) hother
    rw [heq, entryOf_recordAll, ← hcounters] at hentry
    have hpair : other = entry := Prod.ext heq hentry.symm
    exact hpair ▸ hother

/-! The order of calls does not matter. -/

theorem step_comm (counters : Counters) (outcome outcome' : Outcome) :
    (counters.step outcome).step outcome' = (counters.step outcome').step outcome := by
  have hadd (a b c : ℕ) : a + b + c = a + c + b := by omega
  have hand (a b c : Bool) : (a && b && c) = (a && c && b) := Bool.and_right_comm a b c
  cases outcome with
  | registered => rfl
  | failed =>
    cases outcome' with
    | registered => rfl
    | failed => rfl
    | succeeded response =>
      rw [Counters.step, Counters.step, Counters.step, Counters.step]
      cases parseUsage (readValue response "usage") <;> rfl
  | succeeded response =>
    cases outcome' with
    | registered => rfl
    | failed =>
      rw [Counters.step, Counters.step, Counters.step, Counters.step]
      cases parseUsage (readValue response "usage") <;> rfl
    | succeeded response' =>
      rw [Counters.step, Counters.step, Counters.step, Counters.step]
      cases parseUsage (readValue response "usage") with
      | none => cases parseUsage (readValue response' "usage") <;> rfl
      | some parsed =>
        cases parseUsage (readValue response' "usage") with
        | none => rfl
        | some parsed' =>
          simp only [Counters.addUsage, Counters.mk.injEq, true_and]
          exact ⟨hadd _ _ _, hadd _ _ _, hadd _ _ _, hadd _ _ _, hadd _ _ _, hand _ _ _,
            hand _ _ _⟩

theorem countersOf_perm {calls' : List Call} (h : calls'.Perm calls) (key : UsageKey) :
    countersOf calls' key = countersOf calls key := by
  have hcomm : RightCommutative fun (counters : Counters) (call : Call) =>
      counters.step call.outcome := ⟨fun counters call call' => step_comm counters _ _⟩
  exact (h.filter _).foldl_eq _

theorem nodup_of_keys (h : (keys usage).Nodup) : usage.Nodup := List.Nodup.of_map _ h

theorem recordAll_perm {calls' : List Call} (h : calls'.Perm calls) :
    (recordAll calls').Perm (recordAll calls) := by
  refine (List.perm_ext_iff_of_nodup (nodup_of_keys (nodup_recordAll _))
    (nodup_of_keys (nodup_recordAll _))).mpr fun entry => ?_
  rw [mem_recordAll, mem_recordAll, countersOf_perm h]
  refine and_congr_left fun _ => ?_
  constructor
  · rintro ⟨call, hcall, hkey⟩
    exact ⟨call, h.mem_iff.mp hcall, hkey⟩
  · rintro ⟨call, hcall, hkey⟩
    exact ⟨call, h.mem_iff.mpr hcall, hkey⟩

theorem sortKey_componentOf (entry : UsageKey × Counters) :
    sortKey (componentOf entry) = toLex (entry.1.1.value, entry.1.2) := rfl

/-- Components come in one order only. -/
theorem sortComponents_perm {usage' : UsageRecorder} (h : usage'.Perm usage)
    (hnodup : (keys usage).Nodup) :
    sortComponents (usage'.map componentOf) = sortComponents (usage.map componentOf) := by
  have hperm : (sortComponents (usage'.map componentOf)).Perm
      (sortComponents (usage.map componentOf)) :=
    (List.perm_insertionSort _ _).trans
      ((h.map componentOf).trans (List.perm_insertionSort _ _).symm)
  have : Std.Total fun component component' : ComponentUsage =>
      sortKey component ≤ sortKey component' := ⟨fun a b => le_total _ _⟩
  have : IsTrans ComponentUsage fun component component' =>
      sortKey component ≤ sortKey component' := ⟨fun _ _ _ hab hbc => hab.trans hbc⟩
  refine hperm.eq_of_pairwise ?_ (List.pairwise_insertionSort _ _) (List.pairwise_insertionSort _ _)
  intro component component' hmem hmem' hle hge
  have hmem := (List.mem_insertionSort _).mp hmem
  have hmem' := (List.mem_insertionSort _).mp hmem'
  obtain ⟨entry, hentry, rfl⟩ := List.mem_map.mp hmem
  obtain ⟨entry', hentry', rfl⟩ := List.mem_map.mp hmem'
  have hkey := Prod.mk.inj (toLex.injective (le_antisymm hle hge))
  have hsame : entry.1 = entry'.1 :=
    Prod.ext (UsageComponent.value_injective hkey.1) hkey.2
  rw [List.inj_on_of_nodup_map hnodup (h.mem_iff.mp hentry) hentry' hsame]

end

end CSO.EvaluationRunner.Usage
