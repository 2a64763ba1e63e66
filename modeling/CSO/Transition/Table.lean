import Mathlib.Data.List.Nodup

/-! Tables with a unique key: lookup, insertion of a fresh row and updates that keep the key. -/
namespace CSO.Transition

structure Table (ρ κ : Type*) (key : ρ → κ) where
  rows : List ρ
  unique : (rows.map key).Nodup

namespace Table
variable {ρ κ : Type*} {key : ρ → κ}

/-- Rows that a further unique column tells apart as well. -/
theorem eq_of_unique {α : Type*} {f : ρ → α} {rows : List ρ} (h : (rows.map f).Nodup) {a b : ρ}
    (ha : a ∈ rows) (hb : b ∈ rows) (hab : f a = f b) : a = b :=
  List.inj_on_of_nodup_map h ha hb hab

theorem nodup_concat {α : Type*} {f : ρ → α} {rows : List ρ} (h : (rows.map f).Nodup) {row : ρ}
    (hn : ∀ r ∈ rows, f r ≠ f row) : ((rows ++ [row]).map f).Nodup := by
  rw [List.map_append, List.nodup_append]
  refine ⟨h, by simp, ?_⟩
  intro a ha b hb
  obtain ⟨r, hr, rfl⟩ := List.mem_map.mp ha
  rw [List.map_singleton, List.mem_singleton] at hb
  exact hb ▸ hn r hr

/-- A column that an update keeps. -/
theorem map_update {α : Type*} {g : ρ → α} {f : ρ → ρ} (hg : ∀ row, g (f row) = g row)
    (p : ρ → Prop) [DecidablePred p] (rows : List ρ) :
    (rows.map fun row => if p row then f row else row).map g = rows.map g := by
  rw [List.map_map]
  apply List.map_congr_left
  intro row _
  rw [Function.comp_apply]
  split_ifs
  · exact hg row
  · rfl

/-- The only row with a property is what a filter leaves. -/
theorem filter_eq_singleton {rows : List ρ} (hn : rows.Nodup) {p : ρ → Bool} {row : ρ}
    (h : row ∈ rows) (hp : p row = true) (huniq : ∀ other ∈ rows, p other = true → other = row) :
    rows.filter p = [row] := by
  rw [← List.perm_singleton, List.perm_ext_iff_of_nodup (hn.filter p) (List.nodup_singleton row)]
  intro other
  rw [List.mem_filter, List.mem_singleton]
  constructor
  · intro ho
    exact huniq other ho.1 ho.2
  · intro ho
    exact ho ▸ ⟨h, hp⟩

variable [DecidableEq κ] (T : Table ρ κ key) (k k' : κ)

def empty : Table ρ κ key := ⟨[], List.nodup_nil⟩

def find? : Option ρ := T.rows.find? fun row => key row = k

theorem find?_eq_some {row : ρ} : T.find? k = some row ↔ row ∈ T.rows ∧ key row = k := by
  constructor
  · intro h
    exact ⟨List.mem_of_find?_eq_some h, by simpa using List.find?_some h⟩
  · rintro ⟨hm, rfl⟩
    cases hf : T.find? (key row) with
    | none => simpa using List.find?_eq_none.mp hf row hm
    | some other =>
      have ho := List.mem_of_find?_eq_some hf
      have hk : key other = key row := by simpa using List.find?_some hf
      rw [eq_of_unique T.unique ho hm hk]

theorem find?_eq_none : T.find? k = none ↔ ∀ row ∈ T.rows, key row ≠ k := by
  simp [find?]

theorem find?_of_mem {row : ρ} (h : row ∈ T.rows) : T.find? (key row) = some row :=
  (T.find?_eq_some (key row)).mpr ⟨h, rfl⟩

def insert (row : ρ) (h : T.find? (key row) = none) : Table ρ κ key where
  rows := T.rows ++ [row]
  unique := nodup_concat T.unique ((T.find?_eq_none _).mp h)

/-- The row under `k`, if there is one, replaced by its image. -/
def modify (f : ρ → ρ) (hf : ∀ row, key (f row) = key row) : Table ρ κ key where
  rows := T.rows.map fun row => if key row = k then f row else row
  unique := by
    rw [map_update hf]
    exact T.unique

@[simp] theorem mem_insert {row : ρ} {h : T.find? (key row) = none} {r : ρ} :
    r ∈ (T.insert row h).rows ↔ r ∈ T.rows ∨ r = row := by
  simp [insert]

theorem mem_modify {f : ρ → ρ} {hf : ∀ row, key (f row) = key row} {r : ρ} :
    r ∈ (T.modify k f hf).rows ↔ ∃ row ∈ T.rows, (if key row = k then f row else row) = r := by
  simp [modify]

theorem find?_insert (row : ρ) (h : T.find? (key row) = none) :
    (T.insert row h).find? k' = if key row = k' then some row else T.find? k' := by
  unfold find? insert
  simp only [List.find?_append, List.find?_singleton, decide_eq_true_eq]
  split_ifs with hk
  · rw [← hk, show T.rows.find? (fun r => decide (key r = key row)) = none from h, Option.none_or]
  · exact Option.or_none

theorem find?_modify (f : ρ → ρ) (hf : ∀ row, key (f row) = key row) :
    (T.modify k f hf).find? k' = if k' = k then (T.find? k).map f else T.find? k' := by
  unfold find? modify
  rw [List.find?_map]
  have hp : ((fun row => decide (key row = k')) ∘ fun row => if key row = k then f row else row) =
      fun row => decide (key row = k') := by
    funext row
    simp only [Function.comp_apply]
    split_ifs <;> simp [hf]
  rw [hp]
  split_ifs with hk
  · subst hk
    cases hr : T.rows.find? fun row => decide (key row = k') with
    | none => rfl
    | some row => simp [show key row = k' by simpa using List.find?_some hr]
  · cases hr : T.rows.find? fun row => decide (key row = k') with
    | none => rfl
    | some row =>
      have hrow : key row = k' := by simpa using List.find?_some hr
      simp [hrow, hk]

end Table
end CSO.Transition
