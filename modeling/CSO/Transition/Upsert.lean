import CSO.Transition.Table

/-! Tables that are written by key: a row takes the place of the one with its key. -/
namespace CSO.Transition.Table
variable {ρ κ : Type*} [DecidableEq κ] {key : ρ → κ} {T : Table ρ κ key} {row : ρ} {rows : List ρ}
  {k : κ}

/-- The rows with other keys, and this one. -/
def put (T : Table ρ κ key) (row : ρ) : Table ρ κ key where
  rows := (T.rows.filter fun r => key r ≠ key row) ++ [row]
  unique := by
    have hsub : ((T.rows.filter fun r => key r ≠ key row).map key).Sublist (T.rows.map key) :=
      List.filter_sublist.map key
    exact nodup_concat (T.unique.sublist hsub) fun r hr =>
      of_decide_eq_true (List.mem_filter.mp hr).2

def putAll (T : Table ρ κ key) (rows : List ρ) : Table ρ κ key := rows.foldl put T

theorem mem_put {r : ρ} : r ∈ (T.put row).rows ↔ (r ∈ T.rows ∧ key r ≠ key row) ∨ r = row := by
  simp [put]

theorem find?_put : (T.put row).find? k = if key row = k then some row else T.find? k := by
  split_ifs with hk
  · exact (find?_eq_some _ k).mpr ⟨mem_put.mpr (Or.inr rfl), hk⟩
  · ext r
    rw [find?_eq_some, find?_eq_some, mem_put]
    constructor
    · rintro ⟨⟨hr, -⟩ | rfl, hkey⟩
      · exact ⟨hr, hkey⟩
      · exact absurd hkey hk
    · rintro ⟨hr, rfl⟩
      exact ⟨Or.inl ⟨hr, Ne.symm hk⟩, rfl⟩

theorem putAll_append (T : Table ρ κ key) (rows rows' : List ρ) :
    T.putAll (rows ++ rows') = (T.putAll rows).putAll rows' := List.foldl_append

/-- The last row with a key is the one that stays. -/
theorem find?_putAll (T : Table ρ κ key) (rows : List ρ) : (T.putAll rows).find? k =
    (rows.reverse.find? fun row => key row = k).or (T.find? k) := by
  induction rows generalizing T with
  | nil => rfl
  | cons row rows ih =>
    rw [putAll, List.foldl_cons, ← putAll, ih, find?_put, List.reverse_cons, List.find?_append,
      Option.or_assoc, List.find?_singleton]
    by_cases hk : key row = k
    · simp only [hk, decide_true, if_true, Option.some_or]
    · simp only [hk, decide_false, if_false, Option.none_or, Bool.false_eq_true]

/-- A row stays if no later one has its key. -/
theorem find?_putAll_eq_some (T : Table ρ κ key) (before after : List ρ)
    (h : ∀ r ∈ after, key r ≠ key row) :
    (T.putAll (before ++ row :: after)).find? (key row) = some row := by
  rw [find?_putAll, List.reverse_append, List.reverse_cons, List.append_assoc, List.find?_append]
  have hnone : after.reverse.find? (fun r => decide (key r = key row)) = none := by
    rw [List.find?_eq_none]
    intro r hr
    simpa using h r (List.mem_reverse.mp hr)
  rw [hnone]
  simp

/-- A row of an empty table that has been written is the last one with its key. -/
theorem exists_of_find?_putAll (h : (putAll (empty : Table ρ κ key) rows).find? k = some row) :
    key row = k ∧ ∃ before after, rows = before ++ row :: after ∧ ∀ r ∈ after, key r ≠ k := by
  rw [find?_putAll, show (empty : Table ρ κ key).find? k = none from rfl, Option.or_none,
    List.find?_eq_some_iff_append] at h
  obtain ⟨hk, as, bs, hrows, has⟩ := h
  refine ⟨of_decide_eq_true hk, bs.reverse, as.reverse, ?_, fun r hr => ?_⟩
  · rw [← List.reverse_reverse rows, hrows, List.reverse_append, List.reverse_cons,
      List.append_assoc, List.singleton_append]
  · simpa using has r (List.mem_reverse.mp hr)

/-- A key that is written has one of the rows that are written. -/
theorem find?_putAll_mem (T : Table ρ κ key) (h : ∃ r ∈ rows, key r = k) :
    ∃ row ∈ rows, (T.putAll rows).find? k = some row := by
  rw [find?_putAll]
  cases hfind : rows.reverse.find? fun row => decide (key row = k) with
  | none =>
    obtain ⟨r, hr, hk⟩ := h
    exact absurd (decide_eq_true hk) (List.find?_eq_none.mp hfind r (List.mem_reverse.mpr hr))
  | some row => exact ⟨row, List.mem_reverse.mp (List.mem_of_find?_eq_some hfind), rfl⟩

end CSO.Transition.Table
