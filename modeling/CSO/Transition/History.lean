import Mathlib.Data.List.Basic

/-! Histories, newest event first, and the delivery of waiting messages. -/
namespace CSO.Transition
variable {σ ε μ : Type*}

/-- Every event satisfies `P` together with the events before it. -/
def Always (P : ε → List ε → Prop) : List ε → Prop
  | [] => True
  | e :: past => P e past ∧ Always P past

@[simp] theorem always_nil (P : ε → List ε → Prop) : Always P [] := trivial

@[simp] theorem always_cons (P : ε → List ε → Prop) (e : ε) (past : List ε) :
    Always P (e :: past) ↔ P e past ∧ Always P past := Iff.rfl

theorem always_iff {P : ε → List ε → Prop} {h : List ε} :
    Always P h ↔ ∀ later e past, h = later ++ e :: past → P e past := by
  induction h with
  | nil => simp
  | cons a h ih =>
    rw [always_cons, ih]
    constructor
    · rintro ⟨ha, hp⟩ later e past heq
      cases later with
      | nil => cases heq; exact ha
      | cons b later => cases heq; exact hp later e past rfl
    · intro hall
      exact ⟨hall [] a h rfl, fun later e past heq => hall (a :: later) e past (by simp [heq])⟩

/-- Hand the waiting messages over in order of arrival. A message nobody handles stays. -/
def dispatch (handle : σ → μ → Option σ) : σ → List μ → σ × List μ
  | s, [] => (s, [])
  | s, m :: ms =>
    match handle s m with
    | some t => dispatch handle t ms
    | none => ((dispatch handle s ms).1, m :: (dispatch handle s ms).2)

/-- What the handled messages keep, delivery keeps. -/
theorem dispatch_invariant_of_mem {handle : σ → μ → Option σ} {I : σ → Prop} {ms : List μ}
    (hI : ∀ s m t, m ∈ ms → I s → handle s m = some t → I t) (s : σ) (h : I s) :
    I (dispatch handle s ms).1 := by
  induction ms generalizing s with
  | nil => exact h
  | cons m ms ih =>
    have hrest : ∀ s m' t, m' ∈ ms → I s → handle s m' = some t → I t :=
      fun s m' t hm' => hI s m' t (List.mem_cons_of_mem m hm')
    unfold dispatch
    cases hm : handle s m with
    | some t => exact ih hrest t (hI s m t List.mem_cons_self h hm)
    | none => exact ih hrest s h

theorem dispatch_invariant {handle : σ → μ → Option σ} {I : σ → Prop}
    (hI : ∀ s m t, I s → handle s m = some t → I t) (ms : List μ) (s : σ) (h : I s) :
    I (dispatch handle s ms).1 :=
  dispatch_invariant_of_mem (fun s m t _ => hI s m t) s h

/-- What no handled message changes, delivery does not change. -/
theorem dispatch_eq {handle : σ → μ → Option σ} {α : Type*} (f : σ → α)
    (hf : ∀ s m t, handle s m = some t → f t = f s) (ms : List μ) (s : σ) :
    f (dispatch handle s ms).1 = f s :=
  dispatch_invariant (I := fun t => f t = f s) (fun a m t h ht => (hf a m t ht).trans h) ms s rfl

theorem dispatch_rest_sublist (handle : σ → μ → Option σ) (ms : List μ) (s : σ) :
    (dispatch handle s ms).2.Sublist ms := by
  induction ms generalizing s with
  | nil => exact List.Sublist.refl _
  | cons m ms ih =>
    unfold dispatch
    cases handle s m with
    | some t => exact (ih t).cons m
    | none => exact (ih s).cons_cons m

end CSO.Transition
