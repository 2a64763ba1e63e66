import CSO.JS.Text

/-! The hexadecimal digest as an identifier. -/
namespace CSO.JS

theorem hexDigits_length (n width : ℕ) : (hexDigits n width).length = width := by
  simp [hexDigits]

theorem digitChar_isAlphanum {n : ℕ} (h : n < 16) : (Nat.digitChar n).isAlphanum = true := by
  have hall : ∀ m : Fin 16, (Nat.digitChar m).isAlphanum = true := by decide
  exact hall ⟨n, h⟩

theorem hexDigits_isAlphanum {n width : ℕ} {c : Char} (h : c ∈ hexDigits n width) :
    c.isAlphanum = true := by
  obtain ⟨i, -, rfl⟩ := List.mem_map.mp h
  exact digitChar_isAlphanum (Nat.mod_lt _ (by decide))

namespace Sha256

theorem round_length (state : List UInt32) (kw : UInt32 × UInt32) :
    (round state kw).length = state.length := by
  unfold round
  split <;> rfl

theorem foldl_round_length (kws : List (UInt32 × UInt32)) (state : List UInt32) :
    (kws.foldl round state).length = state.length := by
  induction kws generalizing state with
  | nil => rfl
  | cons kw kws ih => rw [List.foldl_cons, ih, round_length]

theorem compress_length (state block : List UInt32) :
    (compress state block).length = state.length := by
  rw [compress, List.length_map, List.length_zip, foldl_round_length, Nat.min_self]

theorem foldl_compress_length (blocks : List (List UInt32)) (state : List UInt32) :
    (blocks.foldl compress state).length = state.length := by
  induction blocks generalizing state with
  | nil => rfl
  | cons block blocks ih => rw [List.foldl_cons, ih, compress_length]

theorem hex_length (text : String) : (hex text).toList.length = 64 := by
  unfold hex
  rw [String.toList_ofList, List.length_flatMap]
  simp only [hexDigits_length, List.map_const', List.sum_replicate_nat]
  rw [foldl_compress_length]
  rfl

theorem hex_isAlphanum {text : String} {c : Char} (h : c ∈ (hex text).toList) :
    c.isAlphanum = true := by
  unfold hex at h
  rw [String.toList_ofList, List.mem_flatMap] at h
  obtain ⟨w, -, hc⟩ := h
  exact hexDigits_isAlphanum hc

end Sha256

/-- An identifier that a digest continues. -/
theorem isIdentifier_append_hex {limit : ℕ} {head text : String}
    (hhead : isIdentifier limit head = true) (hlength : head.toList.length + 64 ≤ limit) :
    isIdentifier limit (head ++ Sha256.hex text) = true := by
  unfold isIdentifier at hhead ⊢
  rw [String.toList_append]
  generalize head.toList = cs at hhead hlength
  cases cs with
  | nil => simp at hhead
  | cons c cs =>
    simp only [List.cons_append, Bool.and_eq_true, List.all_eq_true, decide_eq_true_eq,
      List.length_append, List.length_cons, Sha256.hex_length] at hhead hlength ⊢
    refine ⟨⟨hhead.1.1, ?_⟩, by omega⟩
    intro d hd
    rcases List.mem_append.mp hd with hin | hin
    · exact hhead.1.2 d hin
    · rw [Sha256.hex_isAlphanum hin, Bool.true_or]

end CSO.JS
