import Mathlib.Data.List.Basic
import Mathlib.Logic.Function.Basic

/-! Machines with partial steps: runs, properties of the steps of a run, and the
invariants of every reachable state. -/
namespace CSO.Transition

/-- An event without a successor is not enabled in that state. -/
structure Machine (σ ε : Type*) where
  step : σ → ε → Option σ

namespace Machine
variable {σ ε : Type*} (M : Machine σ ε)

def run (s : σ) : List ε → Option σ
  | [] => some s
  | e :: es => (M.step s e).bind fun t => run t es

/-- Every step that the run takes satisfies `P`. -/
def Along (P : σ → ε → σ → Prop) (s : σ) : List ε → Prop
  | [] => True
  | e :: es => ∀ t, M.step s e = some t → P s e t ∧ Along P t es

/-- A state that some run from an initial state ends in. -/
def Reachable (init : σ → Prop) (s : σ) : Prop :=
  ∃ s₀ es, init s₀ ∧ M.run s₀ es = some s

@[simp] theorem run_nil (s : σ) : M.run s [] = some s := rfl

@[simp] theorem along_nil (P : σ → ε → σ → Prop) (s : σ) : M.Along P s [] := trivial

variable {M} {s t u : σ} {e : ε} {es fs : List ε} {init I J : σ → Prop} {P Q : σ → ε → σ → Prop}

theorem run_cons : M.run s (e :: es) = some u ↔ ∃ t, M.step s e = some t ∧ M.run t es = some u :=
  Option.bind_eq_some_iff

/-- A run that ends in a state with a decidable property, by evaluation. -/
theorem exists_run {p : σ → Prop} [DecidablePred p] (h : (M.run s es).any (p ·) = true) :
    ∃ t, M.run s es = some t ∧ p t := by
  obtain ⟨t, ht, hp⟩ := (Option.any_eq_true _ _).mp h
  exact ⟨t, ht, of_decide_eq_true hp⟩

theorem run_append :
    M.run s (es ++ fs) = some u ↔ ∃ t, M.run s es = some t ∧ M.run t fs = some u := by
  induction es generalizing s with
  | nil => simp
  | cons e es ih =>
    simp only [List.cons_append, run_cons, ih]
    constructor
    · rintro ⟨a, ha, b, hb, hu⟩
      exact ⟨b, ⟨a, ha, hb⟩, hu⟩
    · rintro ⟨b, ⟨a, ha, hb⟩, hu⟩
      exact ⟨a, ha, b, hb, hu⟩

theorem run_singleton : M.run s [e] = some t ↔ M.step s e = some t := by
  simp [run_cons]

theorem reachable_init (h : init s) : M.Reachable init s := ⟨s, [], h, rfl⟩

theorem Reachable.run (h : M.Reachable init s) (hr : M.run s es = some t) :
    M.Reachable init t := by
  obtain ⟨s₀, fs, h₀, hs⟩ := h
  exact ⟨s₀, fs ++ es, h₀, run_append.mpr ⟨s, hs, hr⟩⟩

theorem Reachable.step (h : M.Reachable init s) (hs : M.step s e = some t) :
    M.Reachable init t := h.run (run_singleton.mpr hs)

/-- What every step preserves, every run preserves. -/
theorem run_invariant (hI : ∀ s e t, I s → M.step s e = some t → I t)
    (h : I s) (hr : M.run s es = some t) : I t := by
  induction es generalizing s with
  | nil => exact Option.some.inj hr ▸ h
  | cons e es ih =>
    obtain ⟨a, ha, hr⟩ := run_cons.mp hr
    exact ih (hI s e a h ha) hr

theorem Reachable.invariant (hr : M.Reachable init s) (h₀ : ∀ s, init s → I s)
    (hI : ∀ s e t, I s → M.step s e = some t → I t) : I s := by
  obtain ⟨s₀, es, hi, hs⟩ := hr
  exact run_invariant hI (h₀ s₀ hi) hs

/-- An invariant of the runs whose steps all satisfy `P`. -/
theorem run_invariant_along (hI : ∀ s e t, I s → M.step s e = some t → P s e t → I t)
    (h : I s) (hP : M.Along P s es) (hr : M.run s es = some t) : I t := by
  induction es generalizing s with
  | nil => exact Option.some.inj hr ▸ h
  | cons e es ih =>
    obtain ⟨a, ha, hr⟩ := run_cons.mp hr
    obtain ⟨hp, hP⟩ := hP a ha
    exact ih (hI s e a h ha hp) hP hr

theorem along_cons_of_step (h : M.step s e = some t) :
    M.Along P s (e :: es) ↔ P s e t ∧ M.Along P t es := by
  simp only [Along, h, Option.some.injEq, forall_eq']

theorem along_of_forall (h : ∀ e ∈ es, ∀ s t, P s e t) : M.Along P s es := by
  induction es generalizing s with
  | nil => trivial
  | cons e es ih =>
    intro t _
    exact ⟨h e List.mem_cons_self s t, ih fun f hf => h f (List.mem_cons_of_mem e hf)⟩

theorem along_and :
    M.Along (fun s e t => P s e t ∧ Q s e t) s es ↔ M.Along P s es ∧ M.Along Q s es := by
  induction es generalizing s with
  | nil => simp
  | cons e es ih =>
    constructor
    · intro h
      exact ⟨fun t ht => ⟨(h t ht).1.1, (ih.mp (h t ht).2).1⟩,
        fun t ht => ⟨(h t ht).1.2, (ih.mp (h t ht).2).2⟩⟩
    · rintro ⟨hP, hQ⟩ t ht
      exact ⟨⟨(hP t ht).1, (hQ t ht).1⟩, ih.mpr ⟨(hP t ht).2, (hQ t ht).2⟩⟩

theorem along_append (hr : M.run s es = some t) :
    M.Along P s (es ++ fs) ↔ M.Along P s es ∧ M.Along P t fs := by
  induction es generalizing s with
  | nil => simp [Option.some.inj hr]
  | cons e es ih =>
    obtain ⟨a, ha, hr⟩ := run_cons.mp hr
    rw [List.cons_append, along_cons_of_step ha, along_cons_of_step ha, ih hr, and_assoc]

/-- A property of single steps holds along every run from a state of an invariant. -/
theorem along_of_invariant (hI : ∀ s e t, I s → M.step s e = some t → I t)
    (hP : ∀ s e t, I s → M.step s e = some t → P s e t) (h : I s) : M.Along P s es := by
  induction es generalizing s with
  | nil => trivial
  | cons e es ih => exact fun t ht => ⟨hP s e t h ht, ih (hI s e t h ht)⟩

/-- Along a run whose steps satisfy `P`, what they preserve yields `Q` for each of them. -/
theorem along_of_along (hI : ∀ s e t, I s → M.step s e = some t → P s e t → I t)
    (hQ : ∀ s e t, I s → M.step s e = some t → P s e t → Q s e t) (h : I s)
    (hP : M.Along P s es) : M.Along Q s es := by
  induction es generalizing s with
  | nil => trivial
  | cons e es ih =>
    intro t ht
    obtain ⟨hp, hrest⟩ := hP t ht
    exact ⟨hQ s e t h ht hp, ih (hI s e t h ht hp) hrest⟩

/-- Two properties of single steps that agree on the states of an invariant agree along
every run. -/
theorem along_congr (hI : ∀ s e t, I s → M.step s e = some t → I t)
    (hPQ : ∀ s e t, I s → M.step s e = some t → (P s e t ↔ Q s e t)) (h : I s) :
    M.Along P s es ↔ M.Along Q s es := by
  induction es generalizing s with
  | nil => exact Iff.rfl
  | cons e es ih =>
    refine forall₂_congr fun t ht => ?_
    rw [hPQ s e t h ht, ih (hI s e t h ht)]

/-- Any one step of such a run satisfies the property. -/
theorem Along.step (hP : M.Along P s (es ++ e :: fs)) (hr : M.run s es = some t)
    (hs : M.step t e = some u) : P t e u :=
  (((along_append hr).mp hP).2 u hs).1

/-- A relation that every step respects relates the two ends of every run. -/
theorem run_rel {R : σ → σ → Prop} (hrefl : ∀ s, R s s) (htrans : ∀ s t u, R s t → R t u → R s u)
    (hI : ∀ s e t, I s → M.step s e = some t → I t)
    (hR : ∀ s e t, I s → M.step s e = some t → R s t)
    (h : I s) (hr : M.run s es = some t) : R s t := by
  induction es generalizing s with
  | nil => exact Option.some.inj hr ▸ hrefl s
  | cons e es ih =>
    obtain ⟨a, ha, hr⟩ := run_cons.mp hr
    exact htrans s a t (hR s e a h ha) (ih (hI s e a h ha) hr)

end Machine

/-- Every step of `N` is, seen through `abs`, a run of `M` on the events `label` gives it. -/
structure Refinement {τ φ σ ε : Type*} (N : Machine τ φ) (M : Machine σ ε) where
  abs : τ → σ
  label : τ → φ → List ε
  step : ∀ t f t', N.step t f = some t' → M.run (abs t) (label t f) = some (abs t')

namespace Refinement
variable {τ φ σ ε : Type*} {N : Machine τ φ} {M : Machine σ ε} (R : Refinement N M)

theorem run {t t' : τ} {fs : List φ} (h : N.run t fs = some t') :
    ∃ es, M.run (R.abs t) es = some (R.abs t') := by
  induction fs generalizing t with
  | nil => exact ⟨[], congrArg (some ∘ R.abs) (Option.some.inj h)⟩
  | cons f fs ih =>
    obtain ⟨a, ha, hr⟩ := Machine.run_cons.mp h
    obtain ⟨es, hes⟩ := ih hr
    exact ⟨_, Machine.run_append.mpr ⟨_, R.step t f a ha, hes⟩⟩

/-- Reachable states of the concrete machine are reachable states of the abstract one. -/
theorem reachable {init : τ → Prop} {init' : σ → Prop} (h₀ : ∀ t, init t → init' (R.abs t))
    {t : τ} (h : N.Reachable init t) : M.Reachable init' (R.abs t) := by
  obtain ⟨t₀, fs, hi, hr⟩ := h
  obtain ⟨es, hes⟩ := R.run hr
  exact ⟨R.abs t₀, es, h₀ t₀ hi, hes⟩

end Refinement

/-- Copies of a machine side by side. An event belongs to one of them. -/
def Machine.family {σ ε κ : Type*} [DecidableEq κ] (M : Machine σ ε) (place : ε → κ) :
    Machine (κ → σ) ε where
  step s e := (M.step (s (place e)) e).map (Function.update s (place e))

/-- Each copy runs by itself. -/
def Refinement.ofFamily {σ ε κ : Type*} [DecidableEq κ] (M : Machine σ ε) (place : ε → κ) (k : κ) :
    Refinement (M.family place) M where
  abs s := s k
  label _ e := if place e = k then [e] else []
  step s e s' h := by
    obtain ⟨t, ht, rfl⟩ := Option.map_eq_some_iff.mp h
    by_cases hk : place e = k
    · subst hk
      rw [if_pos rfl, Function.update_self]
      exact Machine.run_singleton.mpr ht
    · rw [if_neg hk, Function.update_of_ne (Ne.symm hk)]
      rfl

end CSO.Transition
