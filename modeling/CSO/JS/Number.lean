import CSO.JS.Text
import Mathlib.Algebra.Order.Round
import Mathlib.Data.Int.Log
import Mathlib.Data.Rat.Floor
import Mathlib.Tactic.Linarith
import Mathlib.Tactic.NormNum

/-! Numbers as a JSON text writes them, and the doubles that `JSON.parse` makes of them. -/
namespace CSO.JS

/-- A sign, the digits before the point, those after it, and an exponent. -/
structure NumberLiteral where
  negative : Bool
  digits : ℕ
  fraction : Option (List (Fin 10))
  exponent : Option ℤ
  deriving DecidableEq, Repr

namespace NumberLiteral

/-- Digits after a point. -/
def fractionValue (digits : List (Fin 10)) : ℚ := digits.foldr (fun d value => (d + value) / 10) 0

/-- The number that the literal denotes. -/
def value (literal : NumberLiteral) : ℚ :=
  let magnitude := (literal.digits + fractionValue (literal.fraction.getD [])) *
    10 ^ literal.exponent.getD 0
  if literal.negative then -magnitude else magnitude

/-- Without a point and without an exponent. -/
def integer? (literal : NumberLiteral) : Option ℤ :=
  match literal.fraction, literal.exponent with
  | none, none => some (if literal.negative then -literal.digits else literal.digits)
  | _, _ => none

theorem value_of_integer {literal : NumberLiteral} {n : ℤ} (h : literal.integer? = some n) :
    literal.value = n := by
  obtain ⟨negative, digits, _ | fraction, _ | exponent⟩ := literal
  · obtain rfl : (if negative then -(digits : ℤ) else digits) = n := Option.some.inj h
    cases negative <;> simp [value, fractionValue]
  all_goals cases h

end NumberLiteral

/-- A double other than NaN. The sign of a zero is left out. -/
inductive Number
  | finite (value : ℚ)
  | infinite (negative : Bool)
  deriving DecidableEq, Repr

namespace Number

/-- The nearest integer, the even one of two. -/
def roundEven (q : ℚ) : ℤ :=
  if q - ⌊q⌋ < 1 / 2 then ⌊q⌋
  else if 1 / 2 < q - ⌊q⌋ then ⌊q⌋ + 1
  else ⌊q⌋ + ⌊q⌋ % 2

/-- The distance between the doubles around a value. -/
def ulp (q : ℚ) : ℚ := 2 ^ (max (Int.log 2 |q|) (-1022) - 52)

/-- The nearest double, if the exponent had no upper bound. -/
def round (q : ℚ) : ℚ := if q = 0 then 0 else roundEven (q / ulp q) * ulp q

def ofRat (q : ℚ) : Number :=
  if |round q| < 2 ^ 1024 then .finite (round q) else .infinite (decide (q < 0))

/-- What `JSON.parse` makes of a literal. -/
def ofLiteral (literal : NumberLiteral) : Number := ofRat literal.value

/-- The integer that `Number.isSafeInteger` accepts. -/
def safeInteger? : Number → Option ℤ
  | .finite q => if q.den = 1 ∧ q.num.natAbs ≤ 9007199254740991 then some q.num else none
  | .infinite _ => none

theorem roundEven_intCast (n : ℤ) : roundEven n = n := by simp [roundEven]

theorem le_roundEven {q : ℚ} {n : ℤ} (h : (n : ℚ) ≤ q) : n ≤ roundEven q := by
  have hfloor : n ≤ ⌊q⌋ := Int.le_floor.mpr h
  unfold roundEven
  split_ifs <;> omega

theorem roundEven_le {q : ℚ} {n : ℤ} (h : q ≤ n) : roundEven q ≤ n := by
  rcases eq_or_lt_of_le h with rfl | hlt
  · exact (roundEven_intCast n).le
  · have hfloor : ⌊q⌋ < n := Int.floor_lt.mpr hlt
    unfold roundEven
    split_ifs <;> omega

theorem ulp_pos (q : ℚ) : 0 < ulp q := zpow_pos (by norm_num) _

/-- Below `2 ^ 53` every integer is a double. -/
theorem round_intCast {n : ℤ} (h : n.natAbs < 2 ^ 53) : round n = n := by
  unfold round
  split_ifs with hzero
  · exact hzero.symm
  have hn : n ≠ 0 := fun heq => hzero (by rw [heq]; rfl)
  have habs : (0 : ℚ) < |(n : ℚ)| := abs_pos.mpr hzero
  have hone : (1 : ℚ) ≤ |(n : ℚ)| := by exact_mod_cast Int.one_le_abs hn
  have hlog₀ : 0 ≤ Int.log 2 |(n : ℚ)| := by
    rw [← Int.zpow_le_iff_le_log (by norm_num) habs]
    simpa using hone
  have hlog₁ : Int.log 2 |(n : ℚ)| < 53 := by
    rw [← Int.lt_zpow_iff_log_lt (by norm_num) habs]
    have hlt : |n| < 2 ^ 53 := by
      rw [Int.abs_eq_natAbs]
      omega
    exact_mod_cast hlt
  -- The distance divides one, so that the quotient is an integer.
  obtain ⟨k, hk⟩ : ∃ k : ℕ, (k : ℤ) = 52 - Int.log 2 |(n : ℚ)| :=
    ⟨(52 - Int.log 2 |(n : ℚ)|).toNat, by omega⟩
  have hulp : ulp n = ((2 : ℚ) ^ k)⁻¹ := by
    unfold ulp
    rw [max_eq_left (by omega), ← zpow_natCast, ← zpow_neg]
    congr 1
    omega
  have hquotient : (n : ℚ) / ulp n = ((n * 2 ^ k : ℤ) : ℚ) := by
    rw [hulp, div_inv_eq_mul]
    push_cast
    rfl
  rw [hquotient, roundEven_intCast, ← hquotient, div_mul_cancel₀ _ (ulp_pos _).ne']

/-- From `2 ^ 53` on no integer is read as a smaller one. -/
theorem two_pow_le_round {n : ℤ} (h : 2 ^ 53 ≤ n.natAbs) : (2 : ℚ) ^ 53 ≤ |round n| := by
  have hn : (n : ℚ) ≠ 0 := by
    intro heq
    have : n = 0 := by exact_mod_cast heq
    rw [this] at h
    norm_num at h
  have habs : (0 : ℚ) < |(n : ℚ)| := abs_pos.mpr hn
  have hlog : 53 ≤ Int.log 2 |(n : ℚ)| := by
    rw [← Int.zpow_le_iff_le_log (by norm_num) habs]
    have hle : (2 : ℤ) ^ 53 ≤ |n| := by
      rw [Int.abs_eq_natAbs]
      omega
    exact_mod_cast hle
  have hulp : ulp n * 2 ^ 52 = 2 ^ Int.log 2 |(n : ℚ)| := by
    unfold ulp
    rw [max_eq_left (by omega), ← zpow_natCast, ← zpow_add₀ (by norm_num)]
    congr 1
    push_cast
    omega
  have hquotient : (2 : ℚ) ^ 52 ≤ |(n : ℚ) / ulp n| := by
    rw [abs_div, abs_of_pos (ulp_pos _), le_div_iff₀ (ulp_pos _), mul_comm, hulp]
    exact Int.zpow_log_le_self (by norm_num) habs
  have hround : (2 : ℚ) ^ 52 ≤ |(roundEven (n / ulp n) : ℚ)| := by
    rcases le_abs.mp hquotient with hpos | hneg
    · have hle : (2 : ℤ) ^ 52 ≤ roundEven (n / ulp n) := le_roundEven (by exact_mod_cast hpos)
      exact le_trans (by exact_mod_cast hle) (le_abs_self _)
    · have hle : roundEven (n / ulp n) ≤ -2 ^ 52 :=
        roundEven_le (by push_cast; linarith)
      have hle' : (roundEven (n / ulp n) : ℚ) ≤ -2 ^ 52 := by exact_mod_cast hle
      exact le_abs.mpr (Or.inr (by linarith))
  rw [round, if_neg hn, abs_mul, abs_of_pos (ulp_pos _)]
  calc (2 : ℚ) ^ 53 ≤ 2 ^ Int.log 2 |(n : ℚ)| := by
        rw [← zpow_natCast]
        exact zpow_le_zpow_right₀ (by norm_num) hlog
    _ = 2 ^ 52 * ulp n := by rw [← hulp, mul_comm]
    _ ≤ |(roundEven (n / ulp n) : ℚ)| * ulp n := by gcongr; exact (ulp_pos _).le

/-- A literal that is written as an integer is read as that one, if it is safe, and otherwise as no
safe integer. -/
theorem safeInteger_ofLiteral {literal : NumberLiteral} {n : ℤ} (h : literal.integer? = some n) :
    (ofLiteral literal).safeInteger? =
      if n.natAbs ≤ 9007199254740991 then some n else none := by
  rw [ofLiteral, NumberLiteral.value_of_integer h, ofRat]
  by_cases hsafe : n.natAbs ≤ 9007199254740991
  · have hround : round n = n := round_intCast (by omega)
    have hfinite : |(n : ℚ)| < 2 ^ 1024 := by
      have hlt : |n| < 2 ^ 53 := by
        rw [Int.abs_eq_natAbs]
        omega
      calc |(n : ℚ)| < 2 ^ 53 := by exact_mod_cast hlt
        _ ≤ 2 ^ 1024 := pow_le_pow_right₀ (by norm_num) (by norm_num)
    rw [hround, if_pos hfinite, if_pos hsafe]
    simp [safeInteger?, hsafe]
  · rw [if_neg hsafe]
    split_ifs with hfinite
    · refine if_neg fun ⟨hden, hnum⟩ => ?_
      have hlarge : (2 : ℚ) ^ 53 ≤ |round n| := two_pow_le_round (by omega)
      rw [← Rat.den_eq_one_iff _ |>.mp hden] at hlarge
      have hle : (2 : ℤ) ^ 53 ≤ |(round n).num| := by exact_mod_cast hlarge
      rw [Int.abs_eq_natAbs] at hle
      omega
    · rfl

end Number

end CSO.JS
