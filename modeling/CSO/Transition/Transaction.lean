import Mathlib

/-! Transactions over a store: statements that see each other's writes and may throw. Without
the rollback the writes before an error stay. -/
namespace CSO.Transition
variable {σ ε α β : Type}

/-- `BEGIN`, the statements and `COMMIT`, or `ROLLBACK` where one of them throws. -/
def transaction (work : EStateM ε σ α) : EStateM ε σ α := fun s =>
  match work.run s with
  | .ok a t => .ok a t
  | .error e _ => .error e s

def throwIf (c : Prop) [Decidable c] (e : ε) : EStateM ε σ Unit := if c then throw e else pure ()

/-- The value of an option, or the error. -/
def required (o : Option α) (e : ε) : EStateM ε σ α :=
  match o with
  | some a => pure a
  | none => throw e

/-- The store after the statements, whether they throw or not. -/
def storeAfter (work : EStateM ε σ α) (s : σ) : σ :=
  match work.run s with
  | .ok _ t => t
  | .error _ t => t

variable {s t u : σ} {a b : α} {e e' : ε}

theorem run_transaction (work : EStateM ε σ α) (s : σ) : (transaction work).run s =
    match work.run s with
    | .ok a t => .ok a t
    | .error e _ => .error e s := rfl

/-- Whatever throws leaves the store as it was. -/
theorem transaction_error {work : EStateM ε σ α} (h : (transaction work).run s = .error e t) :
    t = s := by
  rw [run_transaction] at h
  cases hw : work.run s with
  | ok a v => simp [hw] at h
  | error e' v =>
    simp only [hw, EStateM.Result.error.injEq] at h
    exact h.2.symm

@[simp] theorem transaction_ok {work : EStateM ε σ α} :
    (transaction work).run s = .ok a t ↔ work.run s = .ok a t := by
  rw [run_transaction]
  cases work.run s <;> simp

theorem storeAfter_transaction (work : EStateM ε σ α) (s : σ) :
    storeAfter (transaction work) s = s ∨
      ∃ a, (transaction work).run s = .ok a (storeAfter (transaction work) s) := by
  unfold storeAfter
  cases h : (transaction work).run s with
  | ok a t => exact Or.inr ⟨a, rfl⟩
  | error e t => exact Or.inl (transaction_error h)

@[simp] theorem pure_ok : (pure a : EStateM ε σ α).run s = .ok b t ↔ a = b ∧ s = t := by
  simp [EStateM.run, pure, EStateM.pure]

@[simp] theorem throw_ok : ¬(throw e : EStateM ε σ α).run s = .ok a t := by
  simp [EStateM.run, throw, throwThe, MonadExceptOf.throw, EStateM.throw]

@[simp] theorem bind_ok {x : EStateM ε σ α} {f : α → EStateM ε σ β} {b : β} :
    (x >>= f).run s = .ok b u ↔ ∃ a t, x.run s = .ok a t ∧ (f a).run t = .ok b u := by
  simp only [EStateM.run, bind, EStateM.bind]
  cases x s <;> simp

theorem bind_of_ok {x : EStateM ε σ α} {f : α → EStateM ε σ β} (h : x.run s = .ok a t) :
    (x >>= f).run s = (f a).run t := by
  rw [EStateM.run_bind, h]

theorem bind_of_error {x : EStateM ε σ α} {f : α → EStateM ε σ β} (h : x.run s = .error e t) :
    (x >>= f).run s = .error e t := by
  rw [EStateM.run_bind, h]

theorem bind_error {x : EStateM ε σ α} {f : α → EStateM ε σ β} :
    (x >>= f).run s = .error e u ↔
      x.run s = .error e u ∨ ∃ a t, x.run s = .ok a t ∧ (f a).run t = .error e u := by
  simp only [EStateM.run, bind, EStateM.bind]
  cases x s <;> simp

/-- A transaction throws what its statements throw. -/
theorem of_transaction_error {work : EStateM ε σ α} (h : (transaction work).run s = .error e t) :
    ∃ u, work.run s = .error e u := by
  rw [run_transaction] at h
  cases hw : work.run s with
  | ok a v => simp [hw] at h
  | error e' v =>
    simp only [hw, EStateM.Result.error.injEq] at h
    exact ⟨v, by rw [h.1]⟩

theorem run_transaction_error {work : EStateM ε σ α} (h : work.run s = .error e t) :
    (transaction work).run s = .error e s := by
  rw [run_transaction, h]

/-- Nothing throws after the last statement. -/
theorem bind_pure_error {x : EStateM ε σ α} {f : α → β} :
    (x >>= fun v => pure (f v)).run s = .error e t ↔ x.run s = .error e t := by
  simp only [EStateM.run, bind, EStateM.bind, pure, EStateM.pure]
  cases x s <;> simp

@[simp] theorem get_ok {r : σ} : (get : EStateM ε σ σ).run s = .ok r t ↔ s = r ∧ s = t := by
  simp [EStateM.run, get, getThe, MonadStateOf.get, EStateM.get]

@[simp] theorem set_ok {r : σ} {i : PUnit} :
    (set r : EStateM ε σ PUnit).run s = .ok i t ↔ r = t := by
  simp [EStateM.run, set, EStateM.set]

theorem pure_error : ¬(pure a : EStateM ε σ α).run s = .error e t := by
  simp [EStateM.run, pure, EStateM.pure]

theorem read_error {f : σ → α} :
    ¬((get : EStateM ε σ σ) >>= fun v => pure (f v)).run s = .error e t := by
  simp [EStateM.run, bind, EStateM.bind, get, getThe, MonadStateOf.get, EStateM.get, pure,
    EStateM.pure]

theorem required_error {o : Option α} (h : (required o e : EStateM ε σ α).run s = .error e' t) :
    e = e' := by
  cases o with
  | some a => exact absurd h pure_error
  | none =>
    cases h
    rfl

theorem read_ok {f : σ → α} :
    ((get : EStateM ε σ σ) >>= fun v => pure (f v)).run s = .ok a t ↔ f s = a ∧ s = t := by
  simp only [bind_ok, get_ok, pure_ok]
  constructor
  · rintro ⟨r, v, ⟨rfl, rfl⟩, h⟩
    exact h
  · intro h
    exact ⟨s, s, ⟨rfl, rfl⟩, h⟩

@[simp] theorem throwIf_ok {c : Prop} [Decidable c] {i : Unit} :
    (throwIf c e : EStateM ε σ Unit).run s = .ok i t ↔ ¬c ∧ s = t := by
  unfold throwIf
  by_cases hc : c <;> simp [hc]

@[simp] theorem throwIf_error {c : Prop} [Decidable c] :
    (throwIf c e : EStateM ε σ Unit).run s = .error e' t ↔ c ∧ e = e' ∧ s = t := by
  unfold throwIf
  by_cases hc : c <;> simp [hc, EStateM.run, throw, throwThe, MonadExceptOf.throw, EStateM.throw,
    pure, EStateM.pure]

@[simp] theorem required_ok {o : Option α} :
    (required o e : EStateM ε σ α).run s = .ok a t ↔ o = some a ∧ s = t := by
  cases o <;> simp [required]

@[simp] theorem ite_ok {c : Prop} [Decidable c] {x y : EStateM ε σ α} :
    (if c then x else y).run s = .ok a t ↔ c ∧ x.run s = .ok a t ∨ ¬c ∧ y.run s = .ok a t := by
  by_cases hc : c <;> simp [hc]

/-- A loop over rows with distinct keys, each of which the body handles by changing only what
is seen under its key. -/
theorem forM_pointwise {ρ κ δ : Type} {body : ρ → EStateM ε σ Unit} (view : σ → κ → δ)
    {key : ρ → κ} {R : κ → δ → δ → Prop} {rows : List ρ} (hn : (rows.map key).Nodup)
    (hbody : ∀ row ∈ rows, ∀ v w, view v (key row) = view s (key row) →
      (body row).run v = .ok () w →
      (∀ k, k ≠ key row → view w k = view v k) ∧ R (key row) (view v (key row)) (view w (key row)))
    (h : (forM rows body).run s = .ok () t) (k : κ) :
    (k ∉ rows.map key → view t k = view s k) ∧ (k ∈ rows.map key → R k (view s k) (view t k)) := by
  suffices hgen : ∀ v, (∀ row ∈ rows, view v (key row) = view s (key row)) →
      (forM rows body).run v = .ok () t →
      (k ∉ rows.map key → view t k = view v k) ∧ (k ∈ rows.map key → R k (view v k) (view t k)) from
    hgen s (fun _ _ => rfl) h
  clear h
  induction rows with
  | nil =>
    intro v _ h
    rw [List.forM_nil, pure_ok] at h
    simp [h.2]
  | cons row rows ih =>
    intro v hv h
    rw [List.forM_cons, bind_ok] at h
    obtain ⟨⟨⟩, w, hw, h⟩ := h
    rw [List.map_cons, List.nodup_cons] at hn
    obtain ⟨hother, hrow⟩ := hbody row List.mem_cons_self v w (hv row List.mem_cons_self) hw
    have hrest : ∀ r ∈ rows, view w (key r) = view s (key r) := by
      intro r hr
      have hne : key r ≠ key row := fun heq => hn.1 (heq ▸ List.mem_map_of_mem hr)
      rw [hother _ hne]
      exact hv r (List.mem_cons_of_mem row hr)
    obtain ⟨hout, hin⟩ := ih hn.2 (fun r hr => hbody r (List.mem_cons_of_mem row hr)) w hrest h
    rw [List.map_cons, List.mem_cons]
    by_cases hk : k = key row
    · subst hk
      have ht := hout hn.1
      exact ⟨fun hnot => absurd (Or.inl rfl) hnot, fun _ => ht ▸ hrow⟩
    · rw [← hother k hk]
      simp only [hk, false_or]
      exact ⟨hout, hin⟩

end CSO.Transition
