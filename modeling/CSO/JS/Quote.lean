import CSO.JS.Text
import Mathlib.Tactic.IntervalCases

/-! JSON strings read back: no text continues another one's quotation. -/
namespace CSO.JS

/-- The character that an escape sequence stands for, and what follows. -/
def unescape : List Char → Option (Char × List Char)
  | '\\' :: 'b' :: rest => some ('\x08', rest)
  | '\\' :: 'f' :: rest => some ('\x0c', rest)
  | '\\' :: 'n' :: rest => some ('\n', rest)
  | '\\' :: 'r' :: rest => some ('\r', rest)
  | '\\' :: 't' :: rest => some ('\t', rest)
  | '\\' :: 'u' :: _ :: _ :: a :: b :: rest =>
    some (Char.ofNat ((a.toNat - 48) * 16 + if b.isDigit then b.toNat - 48 else b.toNat - 87), rest)
  | '\\' :: c :: rest => some (c, rest)
  | c :: rest => some (c, rest)
  | [] => none

theorem unescape_escapeChar (c : Char) (rest : List Char) :
    unescape (escapeChar c ++ rest) = some (c, rest) := by
  unfold escapeChar
  split
  any_goals rfl
  rename_i hquote hbackslash _ _ _ _ _
  split_ifs with hcontrol
  · have hc : c = Char.ofNat c.toNat := (Char.ofNat_toNat c).symm
    generalize c.toNat = n at hc hcontrol
    subst hc
    interval_cases n <;> rfl
  · rw [List.singleton_append, unescape.eq_def]
    split <;> simp_all

/-- An escape sequence does not begin with a quotation mark. -/
theorem escapeChar_ne_quote (c : Char) (rest tail : List Char) :
    escapeChar c ++ rest ≠ '"' :: tail := by
  intro h
  have hread := unescape_escapeChar c rest
  rw [h] at hread
  obtain ⟨rfl, -⟩ := Prod.mk.inj (Option.some.inj hread)
  cases h

theorem escape_inj {left right : List Char} {x y : List Char}
    (h : left.flatMap escapeChar ++ '"' :: x = right.flatMap escapeChar ++ '"' :: y) :
    left = right ∧ x = y := by
  induction left generalizing right with
  | nil =>
    cases right with
    | nil => exact ⟨rfl, List.tail_eq_of_cons_eq h⟩
    | cons d right =>
      rw [List.flatMap_cons, List.append_assoc] at h
      exact absurd h.symm (escapeChar_ne_quote d _ _)
  | cons c left ih =>
    cases right with
    | nil =>
      rw [List.flatMap_cons, List.append_assoc] at h
      exact absurd h (escapeChar_ne_quote c _ _)
    | cons d right =>
      rw [List.flatMap_cons, List.flatMap_cons, List.append_assoc, List.append_assoc] at h
      have hread := congrArg unescape h
      rw [unescape_escapeChar, unescape_escapeChar] at hread
      obtain ⟨rfl, hrest⟩ := Prod.mk.inj (Option.some.inj hread)
      obtain ⟨rfl, hxy⟩ := ih hrest
      exact ⟨rfl, hxy⟩

theorem quote_append_inj {left right x y : String} (h : quote left ++ x = quote right ++ y) :
    left = right ∧ x = y := by
  have hlist := congrArg String.toList h
  simp only [quote, String.toList_append, String.toList_ofList, List.cons_append, List.append_assoc,
    List.cons.injEq, true_and, List.nil_append] at hlist
  obtain ⟨htext, hrest⟩ := escape_inj hlist
  exact ⟨String.toList_inj.mp htext, String.toList_inj.mp hrest⟩

/-- An object of two texts shows both. -/
theorem stringify_pair_inj {k l a b c d : String}
    (h : (Json.obj [(k, .str a), (l, .str b)]).stringify =
      (Json.obj [(k, .str c), (l, .str d)]).stringify) : a = c ∧ b = d := by
  simp only [Json.stringify, Json.stringifyFields, String.intercalate_cons_cons,
    String.intercalate_singleton, String.append_assoc, String.append_right_inj] at h
  obtain ⟨rfl, hrest⟩ := quote_append_inj h
  simp only [String.append_right_inj] at hrest
  exact ⟨rfl, (quote_append_inj hrest).1⟩

end CSO.JS
