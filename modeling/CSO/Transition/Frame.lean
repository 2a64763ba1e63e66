import CSO.Transition.Transaction

/-! What statements leave as it was, and what a transaction made of them leaves. -/
namespace CSO.Transition
variable {σ ε α β δ ρ : Type} {f : σ → δ}

/-- Where the statements go through, `f` of the store is what it was. -/
def Leaves (f : σ → δ) (work : EStateM ε σ α) : Prop :=
  ∀ s a t, work.run s = .ok a t → f t = f s

namespace Leaves

theorem pure (a : α) : Leaves f (pure a : EStateM ε σ α) := by
  intro s b t h
  rw [(pure_ok.mp h).2]

theorem throw (e : ε) : Leaves f (throw e : EStateM ε σ α) := fun _ _ _ h => absurd h throw_ok

theorem bind {x : EStateM ε σ α} {g : α → EStateM ε σ β} (hx : Leaves f x)
    (hg : ∀ a, Leaves f (g a)) : Leaves f (x >>= g) := by
  intro s b u h
  obtain ⟨a, t, ht, hu⟩ := bind_ok.mp h
  rw [hg a t b u hu, hx s a t ht]

theorem transaction {work : EStateM ε σ α} (h : Leaves f work) :
    Leaves f (transaction work) := fun s a t ht => h s a t (transaction_ok.mp ht)

theorem throwIf (c : Prop) [Decidable c] (e : ε) :
    Leaves f (throwIf c e : EStateM ε σ Unit) := by
  intro s a t h
  rw [(throwIf_ok.mp h).2]

theorem required (o : Option α) (e : ε) : Leaves f (required o e : EStateM ε σ α) := by
  intro s a t h
  rw [(required_ok.mp h).2]

theorem read (g : σ → α) :
    Leaves f ((get : EStateM ε σ σ) >>= fun v => Pure.pure (g v)) := by
  intro s a t h
  rw [(read_ok.mp h).2]

theorem get : Leaves f (get : EStateM ε σ σ) := by
  intro s a t h
  rw [(get_ok.mp h).2]

theorem ite {c : Prop} [Decidable c] {x y : EStateM ε σ α} (hx : Leaves f x) (hy : Leaves f y) :
    Leaves f (if c then x else y) := by
  split
  · exact hx
  · exact hy

theorem forM {body : ρ → EStateM ε σ Unit} (h : ∀ row, Leaves f (body row)) (rows : List ρ) :
    Leaves f (forM rows body) := by
  induction rows with
  | nil =>
    rw [List.forM_nil]
    exact pure _
  | cons row rows ih =>
    rw [List.forM_cons]
    exact bind (h row) fun _ => ih

/-- What is seen of the store before is seen after. -/
theorem run {work : EStateM ε σ α} (h : Leaves f work) {s t : σ} {a : α}
    (ht : work.run s = .ok a t) : f t = f s := h s a t ht

end Leaves
end CSO.Transition
