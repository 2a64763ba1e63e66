import Mathlib.Data.List.Nodup

/-! `Map`: entries in the order in which their keys were first set. -/
namespace CSO.JS

structure Map (κ α : Type) where
  entries : List (κ × α)
  unique : (entries.map Prod.fst).Nodup

namespace Map

variable {κ α : Type} [DecidableEq κ]

def empty : Map κ α := ⟨[], List.nodup_nil⟩

def get? (m : Map κ α) (key : κ) : Option α :=
  (m.entries.find? fun entry => entry.1 = key).map Prod.snd

def values (m : Map κ α) : List α := m.entries.map Prod.snd

theorem get?_eq_some {m : Map κ α} {key : κ} {value : α} :
    m.get? key = some value ↔ (key, value) ∈ m.entries := by
  rw [get?, Option.map_eq_some_iff]
  constructor
  · rintro ⟨entry, hfind, rfl⟩
    have hkey : entry.1 = key := by simpa using List.find?_some hfind
    rw [← hkey]
    exact List.mem_of_find?_eq_some hfind
  · intro hmem
    cases hfind : m.entries.find? fun entry => entry.1 = key with
    | none => exact absurd (decide_eq_true rfl) (List.find?_eq_none.mp hfind _ hmem)
    | some entry =>
      have hkey : entry.1 = key := by simpa using List.find?_some hfind
      have hentry := List.inj_on_of_nodup_map m.unique (List.mem_of_find?_eq_some hfind) hmem hkey
      exact ⟨entry, rfl, congrArg Prod.snd hentry⟩

theorem get?_eq_none {m : Map κ α} {key : κ} :
    m.get? key = none ↔ ∀ entry ∈ m.entries, entry.1 ≠ key := by
  rw [get?, Option.map_eq_none_iff, List.find?_eq_none]
  exact forall₂_congr fun entry _ => not_congr decide_eq_true_iff

/-- `set`: the entry of the key is replaced where it stands, or put in last. -/
def set (m : Map κ α) (key : κ) (value : α) : Map κ α :=
  if h : m.get? key = none then
    { entries := m.entries ++ [(key, value)]
      unique := by
        rw [List.map_append, List.map_singleton, List.nodup_append]
        refine ⟨m.unique, List.nodup_singleton _, fun other hother new hnew => ?_⟩
        obtain ⟨entry, hentry, rfl⟩ := List.mem_map.mp hother
        rw [List.mem_singleton.mp hnew]
        exact get?_eq_none.mp h entry hentry }
  else
    { entries := m.entries.map fun entry => if entry.1 = key then (key, value) else entry
      unique := by
        have hkeys : (m.entries.map fun entry => if entry.1 = key then (key, value) else entry).map
            Prod.fst = m.entries.map Prod.fst := by
          rw [List.map_map]
          refine List.map_congr_left fun entry _ => ?_
          show (if entry.1 = key then (key, value) else entry).1 = entry.1
          split_ifs with hkey
          · exact hkey.symm
          · rfl
        rw [hkeys]
        exact m.unique }

theorem entries_set_new {m : Map κ α} {key : κ} (h : m.get? key = none) (value : α) :
    (m.set key value).entries = m.entries ++ [(key, value)] := by rw [set, dif_pos h]

theorem entries_set_old {m : Map κ α} {key : κ} (h : m.get? key ≠ none) (value : α) :
    (m.set key value).entries =
      m.entries.map fun entry => if entry.1 = key then (key, value) else entry := by
  rw [set, dif_neg h]

theorem get?_set (m : Map κ α) (key other : κ) (value : α) :
    (m.set key value).get? other = if key = other then some value else m.get? other := by
  by_cases hnew : m.get? key = none
  · rw [get?, entries_set_new hnew, List.find?_append, List.find?_singleton]
    by_cases hkey : key = other
    · have hnone : m.entries.find? (fun entry => entry.1 = other) = none := by
        rw [hkey, get?, Option.map_eq_none_iff] at hnew
        exact hnew
      rw [hnone, if_pos hkey, if_pos (decide_eq_true hkey)]
      rfl
    · rw [if_neg hkey, if_neg (by simpa using hkey), Option.or_none]
      rfl
  · rw [get?, entries_set_old hnew, List.find?_map]
    have hkeys : ((fun entry : κ × α => decide (entry.1 = other)) ∘ fun entry =>
        if entry.1 = key then (key, value) else entry) = fun entry => decide (entry.1 = other) := by
      funext entry
      show decide ((if entry.1 = key then (key, value) else entry).1 = other) = _
      split_ifs with hentry
      · rw [hentry]
      · rfl
    rw [hkeys]
    cases hfind : m.entries.find? fun entry => decide (entry.1 = other) with
    | none =>
      have hne : key ≠ other := by
        rintro rfl
        exact hnew (by rw [get?, hfind]; rfl)
      rw [if_neg hne, get?, hfind]
      rfl
    | some entry =>
      have hentry : entry.1 = other := by simpa using List.find?_some hfind
      rw [Option.map_some, Option.map_some, hentry]
      by_cases hkey : key = other
      · rw [if_pos hkey.symm, if_pos hkey]
      · rw [if_neg (Ne.symm hkey), if_neg hkey, get?, hfind]
        rfl

/-- `delete` -/
def delete (m : Map κ α) (key : κ) : Map κ α where
  entries := m.entries.filter fun entry => entry.1 ≠ key
  unique := m.unique.sublist (List.filter_sublist.map Prod.fst)

end Map
end CSO.JS
