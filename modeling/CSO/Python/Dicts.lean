import Mathlib.Data.List.Dedup
import Mathlib.Data.List.Sort

/-! Dictionaries as their entries in the order they are put in, and keys in order. -/
namespace CSO.Python

variable {κ α : Type}

/-- `sorted` -/
def sorted [LinearOrder κ] (keys : List κ) : List κ := keys.insertionSort (· ≤ ·)

theorem mem_sorted [LinearOrder κ] {keys : List κ} {key : κ} : key ∈ sorted keys ↔ key ∈ keys :=
  List.mem_insertionSort _

/-- Keys come in one order only. -/
theorem sorted_eq_of_perm [LinearOrder κ] {keys keys' : List κ} (h : keys.Perm keys') :
    sorted keys = sorted keys' := by
  have hperm : (sorted keys).Perm (sorted keys') :=
    (List.perm_insertionSort _ keys).trans (h.trans (List.perm_insertionSort _ keys').symm)
  exact hperm.eq_of_sortedLE List.sortedLE_insertionSort List.sortedLE_insertionSort

section

variable [DecidableEq κ]

/-- The keys of a dictionary, each once. -/
def dictKeys (entries : List (κ × α)) : List κ := (entries.map Prod.fst).dedup

/-- The value of a key: what was put in last. -/
def dictGet (entries : List (κ × α)) (key : κ) : Option α := entries.reverse.lookup key

def SameKeys (keys keys' : List κ) : Prop := (∀ key ∈ keys, key ∈ keys') ∧ ∀ key ∈ keys', key ∈ keys

instance (keys keys' : List κ) : Decidable (SameKeys keys keys') :=
  inferInstanceAs (Decidable (_ ∧ _))

theorem SameKeys.symm {keys keys' : List κ} (h : SameKeys keys keys') : SameKeys keys' keys :=
  ⟨h.2, h.1⟩

theorem sameKeys_comm {keys keys' : List κ} : SameKeys keys keys' ↔ SameKeys keys' keys :=
  ⟨SameKeys.symm, SameKeys.symm⟩

theorem mem_dictKeys {entries : List (κ × α)} {key : κ} :
    key ∈ dictKeys entries ↔ ∃ value, (key, value) ∈ entries := by
  rw [dictKeys, List.mem_dedup, List.mem_map]
  constructor
  · rintro ⟨⟨k, value⟩, hmem, rfl⟩
    exact ⟨value, hmem⟩
  · rintro ⟨value, hmem⟩
    exact ⟨(key, value), hmem, rfl⟩

theorem lookup_of_mem {entries : List (κ × α)} (hnodup : (entries.map Prod.fst).Nodup) {key : κ}
    {value : α} (h : (key, value) ∈ entries) : entries.lookup key = some value := by
  induction entries with
  | nil => cases h
  | cons entry entries ih =>
    obtain ⟨k, v⟩ := entry
    rw [List.map_cons, List.nodup_cons] at hnodup
    rw [List.lookup_cons]
    rcases List.mem_cons.mp h with heq | hmem
    · cases heq
      rw [beq_self_eq_true]
    · have hne : (key == k) = false := by
        refine beq_eq_false_iff_ne.mpr fun heq => hnodup.1 ?_
        rw [← heq]
        exact List.mem_map.mpr ⟨(key, value), hmem, rfl⟩
      rw [hne]
      exact ih hnodup.2 hmem

theorem mem_of_lookup {entries : List (κ × α)} {key : κ} {value : α}
    (h : entries.lookup key = some value) : (key, value) ∈ entries := by
  induction entries with
  | nil => cases h
  | cons entry entries ih =>
    obtain ⟨k, v⟩ := entry
    rw [List.lookup_cons] at h
    cases hkey : key == k with
    | true =>
      rw [hkey] at h
      cases h
      rw [eq_of_beq hkey]
      exact List.mem_cons_self
    | false =>
      rw [hkey] at h
      exact List.mem_cons_of_mem _ (ih h)

theorem dictGet_of_mem {entries : List (κ × α)} (hnodup : (entries.map Prod.fst).Nodup) {key : κ}
    {value : α} (h : (key, value) ∈ entries) : dictGet entries key = some value := by
  refine lookup_of_mem ?_ (List.mem_reverse.mpr h)
  rw [List.map_reverse, List.nodup_reverse]
  exact hnodup

theorem mem_of_dictGet {entries : List (κ × α)} {key : κ} {value : α}
    (h : dictGet entries key = some value) : (key, value) ∈ entries :=
  List.mem_reverse.mp (mem_of_lookup h)

end

theorem sorted_eq_of_sameKeys [LinearOrder κ] {keys keys' : List κ} (h : SameKeys keys keys')
    (hnodup : keys.Nodup) (hnodup' : keys'.Nodup) : sorted keys = sorted keys' :=
  sorted_eq_of_perm ((List.perm_ext_iff_of_nodup hnodup hnodup').mpr fun key =>
    ⟨h.1 key, h.2 key⟩)

end CSO.Python
