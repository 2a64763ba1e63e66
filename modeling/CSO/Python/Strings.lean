import Mathlib.Data.List.Basic

/-! Texts put together from pieces, and taken apart again. -/
namespace CSO.Python

/-- A list is cut in one way at the first place of an element. -/
theorem append_cons_inj {α : Type} {a : α} {x y z w : List α} (hx : a ∉ x) (hz : a ∉ z)
    (h : x ++ a :: y = z ++ a :: w) : x = z ∧ y = w := by
  induction x generalizing z with
  | nil =>
    cases z with
    | nil => exact ⟨rfl, List.tail_eq_of_cons_eq h⟩
    | cons b z => exact absurd (List.head_eq_of_cons_eq h ▸ List.mem_cons_self) hz
  | cons b x ih =>
    cases z with
    | nil => exact absurd (List.head_eq_of_cons_eq h ▸ List.mem_cons_self) hx
    | cons c z =>
      have hhead : b = c := List.head_eq_of_cons_eq h
      have hrest := ih (fun hmem => hx (List.mem_cons_of_mem b hmem))
        (fun hmem => hz (List.mem_cons_of_mem c hmem)) (List.tail_eq_of_cons_eq h)
      exact ⟨by rw [hhead, hrest.1], hrest.2⟩

/-- And at its last place. -/
theorem append_last_inj {α : Type} {a : α} {x y z w : List α} (hy : a ∉ y) (hw : a ∉ w)
    (h : x ++ a :: y = z ++ a :: w) : x = z ∧ y = w := by
  have hreversed := congrArg List.reverse h
  rw [List.reverse_append, List.reverse_append, List.reverse_cons, List.reverse_cons,
    List.append_assoc, List.append_assoc, List.singleton_append, List.singleton_append] at hreversed
  have hparts := append_cons_inj (fun hmem => hy (List.mem_reverse.mp hmem))
    (fun hmem => hw (List.mem_reverse.mp hmem)) hreversed
  exact ⟨List.reverse_injective hparts.2, List.reverse_injective hparts.1⟩

/-- A number is written in digits. -/
theorem not_mem_toString {c : Char} (hc : c.isDigit = false) (n : ℕ) : c ∉ (toString n).toList := by
  intro hmem
  rw [Nat.toString_eq_ofList_toDigits, String.toList_ofList] at hmem
  rw [Nat.isDigit_of_mem_toDigits (by decide) (by decide) hmem] at hc
  exact Bool.false_ne_true hc.symm

theorem toString_injective : Function.Injective (toString : ℕ → String) := by
  intro n m h
  have hdigits : ∀ k : ℕ, Nat.ofDigitChars 10 (toString k).toList 0 = k := by
    intro k
    rw [Nat.toString_eq_ofList_toDigits, String.toList_ofList, Nat.ofDigitChars_ten_toDigits]
  rw [← hdigits n, h, hdigits m]

end CSO.Python
