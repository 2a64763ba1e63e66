import Mathlib.Data.List.Forall2

/-! Computations that give a value or fail. -/
namespace CSO.Results

variable {ε α β : Type}

/-- A sequence succeeds where its steps do. -/
theorem bind_eq_ok {x : Except ε α} {f : α → Except ε β} {b : β} :
    (x >>= f) = .ok b ↔ ∃ a, x = .ok a ∧ f a = .ok b := by
  cases x with
  | error e => exact iff_of_false nofun fun ⟨_, h, _⟩ => nomatch h
  | ok a =>
    constructor
    · intro h
      exact ⟨a, rfl, h⟩
    · rintro ⟨a', heq, h⟩
      cases heq
      exact h

/-- A list of computations succeeds where each of them does. -/
theorem mapM_eq_ok {f : α → Except ε β} {items : List α} {values : List β} :
    items.mapM f = .ok values ↔ List.Forall₂ (fun item value => f item = .ok value) items values := by
  induction items generalizing values with
  | nil =>
    rw [List.mapM_nil, List.forall₂_nil_left_iff]
    constructor
    · intro h
      cases h
      rfl
    · rintro rfl
      rfl
  | cons item items ih =>
    rw [List.mapM_cons, List.forall₂_cons_left_iff]
    constructor
    · intro h
      obtain ⟨value, hvalue, h⟩ := bind_eq_ok.mp h
      obtain ⟨rest, hrest, h⟩ := bind_eq_ok.mp h
      cases h
      exact ⟨value, rest, hvalue, ih.mp hrest, rfl⟩
    · rintro ⟨value, rest, hvalue, hrest, rfl⟩
      exact bind_eq_ok.mpr ⟨value, hvalue, bind_eq_ok.mpr ⟨rest, ih.mpr hrest, rfl⟩⟩

theorem mapM_ok_of_forall {f : α → Except ε β} {items : List α}
    (h : ∀ item ∈ items, ∃ value, f item = .ok value) : ∃ values, items.mapM f = .ok values := by
  induction items with
  | nil => exact ⟨[], rfl⟩
  | cons item items ih =>
    obtain ⟨value, hvalue⟩ := h item List.mem_cons_self
    obtain ⟨values, hvalues⟩ := ih fun x hx => h x (List.mem_cons_of_mem item hx)
    exact ⟨value :: values, mapM_eq_ok.mpr (.cons hvalue (mapM_eq_ok.mp hvalues))⟩

/-- Computations that give the same up to a function give so on lists. -/
theorem mapM_map_result {γ : Type} {f : α → Except ε β} {f' : α → Except ε γ} {g : β → γ}
    (h : ∀ item, f' item = (f item).map g) (items : List α) :
    items.mapM f' = (items.mapM f).map (List.map g) := by
  induction items with
  | nil => rfl
  | cons item items ih =>
    rw [List.mapM_cons, List.mapM_cons, h item, ih]
    cases f item with
    | error e => rfl
    | ok value =>
      cases items.mapM f with
      | error e => rfl
      | ok values => rfl

/-- What all values have in common with their items is theirs in order. -/
theorem map_of_forall₂ {γ : Type} {R : α → β → Prop} {f : α → γ} {g : β → γ} {items : List α}
    {values : List β} (h : List.Forall₂ R items values) (hR : ∀ a b, R a b → g b = f a) :
    values.map g = items.map f := by
  induction h with
  | nil => rfl
  | cons hhead _ ih => rw [List.map_cons, List.map_cons, hR _ _ hhead, ih]

theorem mem_of_forall₂ {R : α → β → Prop} {items : List α} {values : List β}
    (h : List.Forall₂ R items values) {value : β} (hvalue : value ∈ values) :
    ∃ item ∈ items, R item value := by
  induction h with
  | nil => cases hvalue
  | cons hhead _ ih =>
    rcases List.mem_cons.mp hvalue with rfl | hvalue
    · exact ⟨_, List.mem_cons_self, hhead⟩
    · obtain ⟨item, hitem, hR⟩ := ih hvalue
      exact ⟨item, List.mem_cons_of_mem _ hitem, hR⟩

theorem exists_of_forall₂ {R : α → β → Prop} {items : List α} {values : List β}
    (h : List.Forall₂ R items values) {item : α} (hitem : item ∈ items) :
    ∃ value ∈ values, R item value := by
  have hflip := mem_of_forall₂ h.flip hitem
  exact hflip

end CSO.Results
