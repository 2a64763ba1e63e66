import CSO.Transition.Machine

/-! Runs that make progress until they reach a goal. -/
namespace CSO.Transition

/-- A measure of the progress that is left. Events that make progress lower it and no event
raises it, in the states of an invariant and on the steps that are permitted. -/
structure Measure {σ ε : Type*} (M : Machine σ ε) (progress : ε → Bool) (I : σ → Prop)
    (P : σ → ε → σ → Prop) where
  measure : σ → ℕ
  keeps : ∀ s e t, I s → M.step s e = some t → P s e t → I t
  lowers : ∀ s e t, I s → M.step s e = some t → P s e t →
    measure t + (if progress e then 1 else 0) ≤ measure s

namespace Measure
variable {σ ε : Type*} {M : Machine σ ε} {progress : ε → Bool} {I : σ → Prop}
  {P : σ → ε → σ → Prop} (μ : Measure M progress I P) {s t : σ} {es : List ε}
include μ

/-- The measure bounds the progress of every run. -/
theorem bounds (h : I s) (hP : M.Along P s es) (hr : M.run s es = some t) :
    I t ∧ μ.measure t + es.countP progress ≤ μ.measure s := by
  induction es generalizing s with
  | nil =>
    cases Option.some.inj hr
    exact ⟨h, Nat.le_of_eq (by simp)⟩
  | cons e es ih =>
    obtain ⟨a, ha, hr⟩ := Machine.run_cons.mp hr
    obtain ⟨hp, hP⟩ := hP a ha
    obtain ⟨ht, hle⟩ := ih (μ.keeps s e a h ha hp) hP hr
    have hstep := μ.lowers s e a h ha hp
    refine ⟨ht, ?_⟩
    rw [List.countP_cons]
    omega

/-- When progress can be made wherever the goal has not been reached, it can be reached. -/
theorem reaches {G : σ → Prop}
    (hcan : ∀ s, I s → ¬G s →
      ∃ es t, M.run s es = some t ∧ M.Along P s es ∧ 0 < es.countP progress) (h : I s) :
    ∃ es t, M.run s es = some t ∧ M.Along P s es ∧ G t := by
  generalize hn : μ.measure s = n
  induction n using Nat.strongRecOn generalizing s with
  | _ n ih =>
    by_cases hgoal : G s
    · exact ⟨[], s, rfl, trivial, hgoal⟩
    · obtain ⟨es, a, ha, hP, hpos⟩ := hcan s h hgoal
      obtain ⟨hI, hle⟩ := μ.bounds h hP ha
      obtain ⟨fs, t, ht, hQ, hdone⟩ := ih (μ.measure a) (by omega) hI rfl
      exact ⟨es ++ fs, t, Machine.run_append.mpr ⟨a, ha, ht⟩,
        (Machine.along_append ha).mpr ⟨hP, hQ⟩, hdone⟩

end Measure
end CSO.Transition
