import Mathlib.Data.List.Sort
import Mathlib.Data.List.Perm.Subperm
import Mathlib.Tactic

/-! Lists in the order of a key. -/
namespace CSO.Transition
variable {α K : Type*} [LinearOrder K] {key key' : α → K} {l l' : List α} {a : α}

def ranked (key : α → K) (l : List α) : List α := l.insertionSort fun a b => key a ≤ key b

/-- The place of an element with that key: how many come before it. -/
def place (key : α → K) (l : List α) (k : K) : ℕ := l.countP fun a => key a < k

theorem ranked_perm (key : α → K) (l : List α) : (ranked key l).Perm l := List.perm_insertionSort _ l

theorem ranked_pairwise (key : α → K) (l : List α) :
    (ranked key l).Pairwise fun a b => key a ≤ key b := by
  have htotal : Std.Total fun a b : α => key a ≤ key b := ⟨fun a b => le_total (key a) (key b)⟩
  have htrans : IsTrans α fun a b : α => key a ≤ key b := ⟨fun a b c => le_trans⟩
  exact List.pairwise_insertionSort _ l

theorem ranked_strict (h : (l.map key).Nodup) : (ranked key l).Pairwise fun a b => key a < key b := by
  have hnodup : ((ranked key l).map key).Nodup :=
    ((ranked_perm key l).map key).nodup_iff.mpr h
  have hne : (ranked key l).Pairwise fun a b => key a ≠ key b := List.pairwise_map.mp hnodup
  exact (ranked_pairwise key l).imp₂ (fun a b hle hne => lt_of_le_of_ne hle hne) hne

/-- With distinct keys the order of the input does not matter. -/
theorem ranked_eq_of_perm (h : (l.map key).Nodup) (hperm : l.Perm l') :
    ranked key l = ranked key l' := by
  have h' : (l'.map key).Nodup := (hperm.map key).nodup_iff.mp h
  refine List.Perm.eq_of_pairwise (fun a b _ _ hab hba => absurd hab hba.asymm) (ranked_strict h)
    (ranked_strict h') ?_
  exact (ranked_perm key l).trans (hperm.trans (ranked_perm key l').symm)

/-- In strict order every element stands at its place. -/
theorem getElem?_eq_some_iff_place (h : l.Pairwise fun a b => key a < key b) {n : ℕ} :
    l[n]? = some a ↔ a ∈ l ∧ place key l (key a) = n := by
  induction l generalizing n with
  | nil => simp
  | cons b l ih =>
    rw [List.pairwise_cons] at h
    rw [place, List.countP_cons]
    cases n with
    | zero =>
      rw [List.getElem?_cons_zero, Option.some.injEq]
      constructor
      · rintro rfl
        have hnone : l.countP (fun a => decide (key a < key b)) = 0 := by
          rw [List.countP_eq_zero]
          intro c hc
          simpa using (h.1 c hc).le
        exact ⟨List.mem_cons_self, by simp [hnone]⟩
      · rintro ⟨hmem, hplace⟩
        rcases List.mem_cons.mp hmem with rfl | hmem
        · rfl
        · simp [h.1 a hmem] at hplace
    | succ n =>
      rw [List.getElem?_cons_succ, ih h.2, place]
      constructor
      · rintro ⟨hmem, hplace⟩
        refine ⟨List.mem_cons_of_mem b hmem, ?_⟩
        rw [hplace, if_pos (by simpa using h.1 a hmem)]
      · rintro ⟨hmem, hplace⟩
        rcases List.mem_cons.mp hmem with rfl | hmem
        · have hnone : l.countP (fun c => decide (key c < key a)) = 0 := by
            rw [List.countP_eq_zero]
            intro c hc
            simpa using (h.1 c hc).le
          simp [hnone] at hplace
        · rw [if_pos (by simpa using h.1 a hmem)] at hplace
          exact ⟨hmem, by omega⟩

theorem place_perm (hperm : l.Perm l') (k : K) : place key l k = place key l' k :=
  hperm.countP_eq _

theorem place_ranked (key : α → K) (l : List α) (k : K) : place key (ranked key l) k = place key l k :=
  place_perm (ranked_perm key l) k

/-- An element that moves forward while the others stay or move back is not further down. -/
theorem place_le (hkey : key' a ≤ key a) (hothers : ∀ b ∈ l, b ≠ a → key b ≤ key' b) :
    place key' l (key' a) ≤ place key l (key a) := by
  refine List.countP_mono_left fun b hb hlt => ?_
  have hlt : key' b < key' a := by simpa using hlt
  have hne : b ≠ a := fun heq => absurd hlt (heq ▸ lt_irrefl _)
  simpa using (hothers b hb hne).trans_lt (hlt.trans_le hkey)

theorem ranked_map {β : Type*} {f : α → β} {keyOf : β → K} (h : ∀ a ∈ l, keyOf (f a) = key a) :
    (ranked key l).map f = ranked keyOf (l.map f) := by
  apply List.map_insertionSort
  intro a ha b hb
  rw [h a ha, h b hb]

/-! Elements with the same key keep their order. -/

variable [DecidableEq K]

theorem filter_ranked (key : α → K) (l : List α) (k : K) :
    (ranked key l).filter (fun a => key a = k) = l.filter fun a => key a = k := by
  have htotal : Std.Total fun a b : α => key a ≤ key b := ⟨fun a b => le_total (key a) (key b)⟩
  have htrans : IsTrans α fun a b : α => key a ≤ key b := ⟨fun a b c => le_trans⟩
  have hequal : (l.filter fun a => key a = k).Pairwise fun a b => key a ≤ key b := by
    refine List.pairwise_of_forall_mem_list fun a ha b hb => ?_
    have hka : key a = k := of_decide_eq_true (List.mem_filter.mp ha).2
    have hkb : key b = k := of_decide_eq_true (List.mem_filter.mp hb).2
    rw [hka, hkb]
  have hsub : (l.filter fun a => key a = k).Sublist (ranked key l) :=
    List.sublist_insertionSort hequal List.filter_sublist
  have hsub' := hsub.filter fun a => decide (key a = k)
  rw [List.filter_filter] at hsub'
  simp only [Bool.and_self] at hsub'
  refine (hsub'.eq_of_length ?_).symm
  exact ((ranked_perm key l).filter _).length_eq.symm

theorem eq_of_filter_eq {s t : List α} (hs : s.Pairwise fun a b => key a ≤ key b)
    (ht : t.Pairwise fun a b => key a ≤ key b)
    (h : ∀ k, (s.filter fun a => key a = k) = t.filter fun a => key a = k) : s = t := by
  induction s generalizing t with
  | nil =>
    cases t with
    | nil => rfl
    | cons b t => simpa using h (key b)
  | cons a s ih =>
    rw [List.pairwise_cons] at hs
    cases t with
    | nil => simpa using h (key a)
    | cons b t =>
      rw [List.pairwise_cons] at ht
      have hin : a ∈ (b :: t).filter fun c => key c = key a := by
        rw [← h (key a)]
        simp
      have hin' : b ∈ (a :: s).filter fun c => key c = key b := by
        rw [h (key b)]
        simp
      have hle : key b ≤ key a := by
        rcases List.mem_cons.mp (List.mem_filter.mp hin).1 with heq | hmem
        · rw [heq]
        · exact ht.1 a hmem
      have hle' : key a ≤ key b := by
        rcases List.mem_cons.mp (List.mem_filter.mp hin').1 with heq | hmem
        · rw [heq]
        · exact hs.1 b hmem
      have hkey : key a = key b := le_antisymm hle' hle
      have hhead := h (key a)
      rw [List.filter_cons_of_pos (by simp), List.filter_cons_of_pos (by simp [hkey])] at hhead
      obtain ⟨rfl, -⟩ := List.cons.inj hhead
      congr 1
      refine ih hs.2 ht.2 fun k => ?_
      have hrest := h k
      rw [List.filter_cons, List.filter_cons] at hrest
      split_ifs at hrest with hk
      · exact (List.cons.inj hrest).2
      · exact hrest

/-- The order of a list matters only among the elements with one key. -/
theorem ranked_eq_iff : ranked key l = ranked key l' ↔
    ∀ k, (l.filter fun a => key a = k) = l'.filter fun a => key a = k := by
  constructor
  · intro h k
    rw [← filter_ranked key l, h, filter_ranked]
  · intro h
    refine eq_of_filter_eq (ranked_pairwise key l) (ranked_pairwise key l') fun k => ?_
    rw [filter_ranked, filter_ranked, h]

end CSO.Transition
