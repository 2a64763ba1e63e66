import Mathlib.Tactic

/-! `Date.parse` and `Date.prototype.toISOString` of ECMAScript on time values in
milliseconds. `none` stands for NaN and for a RangeError. -/
namespace CSO.JS.Date

/-! Dates of the proleptic Gregorian calendar. Years start in March, so that the leap day is
the last day of its year, and 400 of them (an era) have 146097 days. -/

/-- Days of an era before the given day of one of its years. -/
def dayOfEra (year day : ℤ) : ℤ := year * 365 + year / 4 - year / 100 + day

/-- Year of the era and day of that year. -/
def yearOfEra (doe : ℤ) : ℤ × ℤ :=
  let century := min (doe / 36524) 3
  let doc := doe - century * 36524
  let year := min (doc % 1461 / 365) 3
  (100 * century + 4 * (doc / 1461) + year, doc % 1461 - year * 365)

theorem yearOfEra_spec (doe : ℤ) (h₀ : 0 ≤ doe) (h₁ : doe < 146097) :
    (0 ≤ (yearOfEra doe).1 ∧ (yearOfEra doe).1 < 400) ∧
      (0 ≤ (yearOfEra doe).2 ∧ (yearOfEra doe).2 ≤ 365) ∧
      dayOfEra (yearOfEra doe).1 (yearOfEra doe).2 = doe := by
  simp only [yearOfEra, dayOfEra]
  obtain ⟨c, hc⟩ : ∃ c, c = min (doe / 36524) 3 := ⟨_, rfl⟩
  rw [← hc]
  have hc₀ : 0 ≤ c ∧ c ≤ 3 := by omega
  obtain ⟨d, hd⟩ : ∃ d, d = doe - c * 36524 := ⟨_, rfl⟩
  have hd₀ : 0 ≤ d ∧ d ≤ 36524 := by omega
  rw [← hd]
  obtain ⟨a, ha⟩ : ∃ a, a = min (d % 1461 / 365) 3 := ⟨_, rfl⟩
  have ha₀ : 0 ≤ a ∧ a ≤ 3 := by omega
  have hday : 0 ≤ d % 1461 - a * 365 ∧ d % 1461 - a * 365 ≤ 365 := by omega
  rw [← ha]
  have hq : 0 ≤ d / 1461 ∧ d / 1461 ≤ 24 := by omega
  have h4 : (100 * c + 4 * (d / 1461) + a) / 4 = 25 * c + d / 1461 := by omega
  have h100 : (100 * c + 4 * (d / 1461) + a) / 100 = c := by omega
  exact ⟨by omega, hday, by omega⟩

/-- Days from 1970-01-01. -/
def dayOfDate (y m d : ℤ) : ℤ :=
  let y := if m ≤ 2 then y - 1 else y
  let day := (153 * (if m ≤ 2 then m + 9 else m - 3) + 2) / 5 + d - 1
  y / 400 * 146097 + dayOfEra (y % 400) day - 719468

/-- Year, month and day of a number of days from 1970-01-01. -/
def dateOfDay (z : ℤ) : ℤ × ℤ × ℤ :=
  let (year, day) := yearOfEra ((z + 719468) % 146097)
  let mp := (5 * day + 2) / 153
  let m := if mp < 10 then mp + 3 else mp - 9
  let y := (z + 719468) / 146097 * 400 + year
  (if m ≤ 2 then y + 1 else y, m, day - (153 * mp + 2) / 5 + 1)

theorem dateOfDay_bounds (z : ℤ) :
    1 ≤ (dateOfDay z).2.1 ∧ (dateOfDay z).2.1 ≤ 12 ∧
      1 ≤ (dateOfDay z).2.2 ∧ (dateOfDay z).2.2 ≤ 31 := by
  obtain ⟨-, hd, -⟩ := yearOfEra_spec ((z + 719468) % 146097) (by omega) (by omega)
  cases h : yearOfEra ((z + 719468) % 146097) with
  | mk year day =>
    simp only [dateOfDay, h] at hd ⊢
    split_ifs <;> omega

theorem dayOfDate_dateOfDay (z : ℤ) :
    dayOfDate (dateOfDay z).1 (dateOfDay z).2.1 (dateOfDay z).2.2 = z := by
  obtain ⟨hy, hd, he⟩ := yearOfEra_spec ((z + 719468) % 146097) (by omega) (by omega)
  cases h : yearOfEra ((z + 719468) % 146097) with
  | mk year day =>
    simp only [h, dayOfEra] at hy hd he
    have hyear : ((z + 719468) / 146097 * 400 + year) / 400 = (z + 719468) / 146097 ∧
        ((z + 719468) / 146097 * 400 + year) % 400 = year := by omega
    simp only [dateOfDay, dayOfDate, h]
    by_cases hmp : (5 * day + 2) / 153 < 10
    · have hm : ¬ (5 * day + 2) / 153 + 3 ≤ 2 := by omega
      simp only [hmp, hm, if_true, if_false, hyear, dayOfEra]
      omega
    · have hm : (5 * day + 2) / 153 - 9 ≤ 2 := by omega
      simp only [hmp, hm, if_true, if_false, add_sub_cancel_right, hyear, dayOfEra]
      omega

theorem dateOfDay_year {z : ℤ} (h : z.natAbs ≤ 100000000) : (dateOfDay z).1.natAbs < 1000000 := by
  obtain ⟨hy, -, -⟩ := yearOfEra_spec ((z + 719468) % 146097) (by omega) (by omega)
  cases hz : yearOfEra ((z + 719468) % 146097) with
  | mk year day =>
    simp only [hz] at hy
    simp only [dateOfDay, hz]
    split_ifs <;> omega

/-! Decimal fields of fixed width. -/

/-- The last `n` decimal digits. -/
def digits : ℕ → ℕ → List Char
  | 0, _ => []
  | n + 1, k => Nat.digitChar (k / 10 ^ n % 10) :: digits n (k % 10 ^ n)

def readDigits : ℕ → ℕ → List Char → Option (ℕ × List Char)
  | 0, acc, cs => some (acc, cs)
  | n + 1, acc, c :: cs =>
    if c.isDigit then readDigits n (acc * 10 + (c.toNat - '0'.toNat)) cs else none
  | _ + 1, _, [] => none

private theorem digitChar_spec : ∀ d < 10, (Nat.digitChar d).isDigit = true ∧
    (Nat.digitChar d).toNat - '0'.toNat = d ∧ Nat.digitChar d ≠ '+' ∧ Nat.digitChar d ≠ '-' := by
  decide

theorem readDigits_digits (n acc k : ℕ) (rest : List Char) (h : k < 10 ^ n) :
    readDigits n acc (digits n k ++ rest) = some (acc * 10 ^ n + k, rest) := by
  induction n generalizing acc k with
  | zero => simp_all [readDigits, digits]
  | succ n ih =>
    have hp : 0 < 10 ^ n := by positivity
    have hd : k / 10 ^ n < 10 := by
      rw [Nat.div_lt_iff_lt_mul hp]
      rwa [pow_succ, mul_comm] at h
    obtain ⟨hdigit, hval, -⟩ := digitChar_spec _ hd
    simp only [digits, Nat.mod_eq_of_lt hd, List.cons_append, readDigits, hdigit, if_true, hval]
    rw [ih _ _ (Nat.mod_lt k hp)]
    have hk := Nat.div_add_mod k (10 ^ n)
    congr 2
    calc (acc * 10 + k / 10 ^ n) * 10 ^ n + k % 10 ^ n
        = acc * 10 ^ (n + 1) + (10 ^ n * (k / 10 ^ n) + k % 10 ^ n) := by ring
      _ = acc * 10 ^ (n + 1) + k := by rw [hk]

/-! The date-time string format. -/

def msPerDay : ℤ := 86400000

/-- The largest magnitude of a time value. -/
def maxTime : ℕ := 8640000000000000

/-- Instants of the years 0 to 9999, which are written with four digits. -/
def FourDigitYear (t : ℤ) : Prop := -62167219200000 ≤ t ∧ t < 253402300800000

instance : DecidablePred FourDigitYear := fun _ => inferInstanceAs (Decidable (_ ∧ _))

def yearChars (y : ℤ) : List Char :=
  if 0 ≤ y ∧ y ≤ 9999 then digits 4 y.toNat
  else (if y < 0 then '-' else '+') :: digits 6 y.natAbs

def timeChars (ms : ℕ) : List Char :=
  'T' :: (digits 2 (ms / 3600000) ++ ':' :: (digits 2 (ms / 60000 % 60) ++
    ':' :: (digits 2 (ms / 1000 % 60) ++ '.' :: (digits 3 (ms % 1000) ++ ['Z']))))

def toISOString (t : ℤ) : Option String :=
  if t.natAbs ≤ maxTime then
    let (y, m, d) := dateOfDay (t / msPerDay)
    some (String.ofList (yearChars y ++ '-' :: (digits 2 m.toNat ++ '-' :: (digits 2 d.toNat ++
      timeChars (t % msPerDay).toNat))))
  else none

def readYear : List Char → Option (ℤ × List Char)
  | [] => none
  | c :: cs =>
    if c = '+' then do
      let (y, r) ← readDigits 6 0 cs
      some ((y : ℤ), r)
    else if c = '-' then do
      let (y, r) ← readDigits 6 0 cs
      if y = 0 then none else some (-(y : ℤ), r)
    else do
      let (y, r) ← readDigits 4 0 (c :: cs)
      some ((y : ℤ), r)

/-- A separator and a field of `n` digits. -/
def readField (sep : Char) (n : ℕ) : List Char → Option (ℕ × List Char)
  | c :: cs => if c = sep then readDigits n 0 cs else none
  | [] => none

/-- A field that may be left out. -/
def readFieldOr (sep : Char) (n default : ℕ) (cs : List Char) : Option (ℕ × List Char) :=
  if cs.head? = some sep then readField sep n cs else some (default, cs)

/-- The offset from UTC in minutes. Without one the host's zone applies, here UTC. -/
def readZone : List Char → Option ℤ
  | [] => some 0
  | ['Z'] => some 0
  | c :: cs => do
    let (h, r) ← readDigits 2 0 cs
    let (m, r) ← readField ':' 2 r
    if r ≠ [] ∨ h > 23 ∨ m > 59 then none
    else if c = '+' then some (h * 60 + m)
    else if c = '-' then some (-(h * 60 + m))
    else none

/-- Milliseconds of the day, less the offset. -/
def readTime : List Char → Option ℤ
  | [] => some 0
  | cs => do
    let (h, r) ← readField 'T' 2 cs
    let (m, r) ← readField ':' 2 r
    let (s, r) ← readFieldOr ':' 2 0 r
    let (ms, r) ← readFieldOr '.' 3 0 r
    let zone ← readZone r
    if h > 24 ∨ m > 59 ∨ s > 59 ∨ (h = 24 ∧ (m, s, ms) ≠ (0, 0, 0)) then none
    else some ((h : ℤ) * 3600000 + m * 60000 + s * 1000 + ms - zone * 60000)

/-- Strings outside the format are NaN. -/
def parse (text : String) : Option ℤ := do
  let (y, r) ← readYear text.toList
  let (m, r) ← readFieldOr '-' 2 1 r
  let (d, r) ← readFieldOr '-' 2 1 r
  let time ← readTime r
  if m < 1 ∨ 12 < m ∨ d < 1 ∨ 31 < d then none
  else
    let t := dayOfDate y m d * msPerDay + time
    if t.natAbs ≤ maxTime then some t else none

/-- A text is read as a time value. -/
theorem parse_le {text : String} {t : ℤ} (h : parse text = some t) : t.natAbs ≤ maxTime := by
  simp only [parse, Option.bind_eq_bind, Option.bind_eq_some_iff] at h
  obtain ⟨⟨y, r⟩, -, ⟨m, r⟩, -, ⟨d, r⟩, -, time, -, h⟩ := h
  dsimp only at h
  split_ifs at h with hdate hrange
  exact Option.some.inj h ▸ hrange

theorem readYear_yearChars {y : ℤ} (h : y.natAbs < 1000000) (rest : List Char) :
    readYear (yearChars y ++ rest) = some (y, rest) := by
  unfold yearChars
  split_ifs with h4 hneg
  · obtain ⟨-, -, hplus, hminus⟩ := digitChar_spec (y.toNat / 10 ^ 3 % 10) (by omega)
    have hr := readDigits_digits 4 0 y.toNat rest (by omega)
    simp only [digits, List.cons_append] at hr ⊢
    simp only [readYear, hplus, hminus, if_false, hr, Option.bind_eq_bind, Option.bind_some]
    simp [h4.1]
  · have hy : y.natAbs ≠ 0 := by omega
    simp only [List.cons_append, readYear, readDigits_digits 6 0 y.natAbs rest h,
      Option.bind_eq_bind, Option.bind_some]
    simp [hy, abs_of_neg hneg]
  · have hy : 0 ≤ y := by omega
    simp only [List.cons_append, readYear, readDigits_digits 6 0 y.natAbs rest h,
      Option.bind_eq_bind, Option.bind_some]
    simp [abs_of_nonneg hy]

@[simp] theorem readField_digits (sep : Char) {n k : ℕ} (h : k < 10 ^ n) (rest : List Char) :
    readField sep n (sep :: (digits n k ++ rest)) = some (k, rest) := by
  simp [readField, readDigits_digits n 0 k rest h]

@[simp] theorem readFieldOr_digits (sep : Char) {n k : ℕ} (default : ℕ) (h : k < 10 ^ n)
    (rest : List Char) :
    readFieldOr sep n default (sep :: (digits n k ++ rest)) = some (k, rest) := by
  simp [readFieldOr, h]

theorem readTime_timeChars {ms : ℕ} (h : ms < 86400000) : readTime (timeChars ms) = some (ms : ℤ) := by
  have h₁ : ms / 3600000 < 10 ^ 2 := by omega
  have h₂ : ms / 60000 % 60 < 10 ^ 2 := by omega
  have h₃ : ms / 1000 % 60 < 10 ^ 2 := by omega
  have h₄ : ms % 1000 < 10 ^ 3 := by omega
  have hok : ¬ (ms / 3600000 > 24 ∨ ms / 60000 % 60 > 59 ∨ ms / 1000 % 60 > 59 ∨
      (ms / 3600000 = 24 ∧
        (ms / 60000 % 60, ms / 1000 % 60, ms % 1000) ≠ (0, 0, 0))) := by omega
  simp only [timeChars, readTime, readField_digits, readFieldOr_digits, h₁, h₂, h₃, h₄, readZone,
    Option.bind_eq_bind, Option.bind_some, hok, if_false, Option.some.injEq]
  push_cast
  omega

/-- A time value survives the way through its string. -/
theorem parse_toISOString {t : ℤ} {text : String} (h : toISOString t = some text) :
    parse text = some t := by
  unfold toISOString at h
  split_ifs at h with hmax
  have hz : (t / msPerDay).natAbs ≤ 100000000 := by
    unfold msPerDay maxTime at *
    omega
  have hyear := dateOfDay_year hz
  have hday := dayOfDate_dateOfDay (t / msPerDay)
  obtain ⟨hm₁, hm₂, hd₁, hd₂⟩ := dateOfDay_bounds (t / msPerDay)
  cases hdate : dateOfDay (t / msPerDay) with
  | mk y md =>
    obtain ⟨m, d⟩ := md
    simp only [hdate, Option.some.injEq] at h hyear hday hm₁ hm₂ hd₁ hd₂
    subst h
    have hm : m.toNat < 10 ^ 2 := by omega
    have hd : d.toNat < 10 ^ 2 := by omega
    have hms : (t % msPerDay).toNat < 86400000 := by unfold msPerDay; omega
    have hok : ¬ (m.toNat < 1 ∨ 12 < m.toNat ∨ d.toNat < 1 ∨ 31 < d.toNat) := by omega
    have hmod : ((t % msPerDay).toNat : ℤ) = t % msPerDay := by unfold msPerDay; omega
    have ht : t / msPerDay * msPerDay + t % msPerDay = t := Int.ediv_mul_add_emod t msPerDay
    simp only [parse, String.toList_ofList, readYear_yearChars hyear, readFieldOr_digits, hm, hd,
      readTime_timeChars hms, Option.bind_eq_bind, Option.bind_some, hok, if_false,
      Int.toNat_of_nonneg (show 0 ≤ m by omega), Int.toNat_of_nonneg (show 0 ≤ d by omega), hday,
      hmod, ht, hmax, if_true]

example : parse "2026-08-08T12:05:00.000Z" = some 1786190700000 := by decide

/-! The date-times of RFC 3339, which `z.iso.datetime` accepts with `offset`. -/

def isLeap (y : ℕ) : Bool := y % 4 = 0 && y % 100 ≠ 0 || y % 400 = 0

def daysOfMonth (y m : ℕ) : ℕ :=
  if m = 2 then if isLeap y then 29 else 28
  else if m = 4 ∨ m = 6 ∨ m = 9 ∨ m = 11 then 30
  else 31

/-- A decimal point and at least one digit, or neither. -/
def skipFraction : List Char → Option (List Char)
  | '.' :: c :: cs => if c.isDigit then some (cs.dropWhile Char.isDigit) else none
  | ['.'] => none
  | cs => some cs

def skipSeconds : List Char → Option (List Char)
  | ':' :: cs => do
    let (s, r) ← readDigits 2 0 cs
    if 59 < s then none else skipFraction r
  | cs => some cs

def isDateTime (text : String) : Bool :=
  Option.isSome do
    let (y, r) ← readDigits 4 0 text.toList
    let (m, r) ← readField '-' 2 r
    let (d, r) ← readField '-' 2 r
    let (hours, r) ← readField 'T' 2 r
    let (minutes, r) ← readField ':' 2 r
    let r ← skipSeconds r
    let _ ← readZone r
    if m < 1 ∨ 12 < m ∨ d < 1 ∨ daysOfMonth y m < d ∨ 23 < hours ∨ 59 < minutes ∨ r = [] then none
    else some ()

/-- Only a leap year has a 366th day. -/
theorem yearOfEra_last {doe : ℤ} (h₀ : 0 ≤ doe) (h₁ : doe < 146097)
    (hday : (yearOfEra doe).2 = 365) :
    ((yearOfEra doe).1 + 1) % 4 = 0 ∧
      (((yearOfEra doe).1 + 1) % 100 ≠ 0 ∨ ((yearOfEra doe).1 + 1) % 400 = 0) := by
  simp only [yearOfEra] at hday ⊢
  obtain ⟨c, hc⟩ : ∃ c, c = min (doe / 36524) 3 := ⟨_, rfl⟩
  rw [← hc] at hday ⊢
  have hc₀ : 0 ≤ c ∧ c ≤ 3 := by omega
  obtain ⟨d, hd⟩ : ∃ d, d = doe - c * 36524 := ⟨_, rfl⟩
  have hd₀ : 0 ≤ d ∧ d ≤ 36524 ∧ (d = 36524 → c = 3) := by omega
  rw [← hd] at hday ⊢
  have hlast : min (d % 1461 / 365) 3 = 3 ∧ d % 1461 = 1460 := by omega
  rw [hlast.1]
  have hq : 0 ≤ d / 1461 ∧ d / 1461 ≤ 24 := by omega
  omega

theorem dateOfDay_day (z : ℤ) :
    (dateOfDay z).2.2 ≤ daysOfMonth (dateOfDay z).1.toNat (dateOfDay z).2.1.toNat := by
  obtain ⟨hyear, hday, -⟩ := yearOfEra_spec ((z + 719468) % 146097) (by omega) (by omega)
  have hlast := @yearOfEra_last ((z + 719468) % 146097) (by omega) (by omega)
  cases h : yearOfEra ((z + 719468) % 146097) with
  | mk year day =>
    simp only [dateOfDay, h] at hyear hday hlast ⊢
    simp only [daysOfMonth, isLeap, Bool.or_eq_true, Bool.and_eq_true, decide_eq_true_eq]
    by_cases hmp : (5 * day + 2) / 153 < 10
    · simp only [hmp, if_true]
      split_ifs <;> omega
    · simp only [hmp, if_false]
      split_ifs <;> omega

theorem dateOfDay_fourDigit {t : ℤ} (h : FourDigitYear t) :
    0 ≤ (dateOfDay (t / msPerDay)).1 ∧ (dateOfDay (t / msPerDay)).1 ≤ 9999 := by
  obtain ⟨hyear, hday, hera⟩ := yearOfEra_spec ((t / msPerDay + 719468) % 146097) (by omega) (by omega)
  have hz : -719528 ≤ t / msPerDay ∧ t / msPerDay < 2932897 := by
    unfold FourDigitYear at h
    unfold msPerDay
    omega
  generalize t / msPerDay = z at *
  cases hz' : yearOfEra ((z + 719468) % 146097) with
  | mk year day =>
    simp only [hz', dayOfEra] at hyear hday hera
    simp only [dateOfDay, hz']
    have hlow : (z + 719468) / 146097 = -1 → year = 399 ∧ 306 ≤ day := by
      intro hq
      have hyear' : year = 399 := by omega
      subst hyear'
      omega
    have hhigh : (z + 719468) / 146097 = 24 → year = 399 → day < 306 := by
      rintro hq rfl
      omega
    have hq : -1 ≤ (z + 719468) / 146097 ∧ (z + 719468) / 146097 ≤ 24 := by omega
    clear hera hz hz'
    generalize (z + 719468) / 146097 = q at *
    split_ifs <;> omega

theorem readDigits_yearChars {y : ℤ} (h : 0 ≤ y ∧ y ≤ 9999) (rest : List Char) :
    readDigits 4 0 (yearChars y ++ rest) = some (y.toNat, rest) := by
  have hr := readDigits_digits 4 0 y.toNat rest (by omega)
  rw [yearChars, if_pos h, hr]
  simp

theorem digits_isDigit (n : ℕ) : ∀ k < 10 ^ n, ∀ c ∈ digits n k, c.isDigit = true := by
  induction n with
  | zero => simp [digits]
  | succ n ih =>
    intro k hk c hc
    have hp : 0 < 10 ^ n := by positivity
    rw [digits, List.mem_cons] at hc
    rcases hc with rfl | hc
    · exact (digitChar_spec _ (Nat.mod_lt _ (by decide))).1
    · exact ih _ (Nat.mod_lt k hp) c hc

theorem skipFraction_digits {k : ℕ} (h : k < 10 ^ 3) :
    skipFraction ('.' :: (digits 3 k ++ ['Z'])) = some ['Z'] := by
  have hdigit := digits_isDigit 3 k h
  have hdrop : (digits 3 k ++ ['Z']).dropWhile Char.isDigit = ['Z'] := by
    rw [List.dropWhile_append_of_pos hdigit]
    decide
  simp only [digits, List.cons_append, List.nil_append, List.forall_mem_cons] at hdigit hdrop ⊢
  rw [skipFraction, if_pos hdigit.1]
  rw [List.dropWhile_cons_of_pos hdigit.1] at hdrop
  rw [hdrop]

/-- What `toISOString` writes of a year of four digits is a date-time. -/
theorem isDateTime_toISOString {t : ℤ} (h : FourDigitYear t) {text : String}
    (htext : toISOString t = some text) : isDateTime text = true := by
  unfold toISOString at htext
  split_ifs at htext with hmax
  have hyear := dateOfDay_fourDigit h
  have hday := dateOfDay_day (t / msPerDay)
  obtain ⟨hm₁, hm₂, hd₁, hd₂⟩ := dateOfDay_bounds (t / msPerDay)
  cases hdate : dateOfDay (t / msPerDay) with
  | mk y md =>
    obtain ⟨m, d⟩ := md
    simp only [hdate, Option.some.injEq] at htext hyear hday hm₁ hm₂ hd₁ hd₂
    subst htext
    have hm : m.toNat < 10 ^ 2 := by omega
    have hd : d.toNat < 10 ^ 2 := by omega
    have hms : (t % msPerDay).toNat < 86400000 := by unfold msPerDay; omega
    have h₁ : (t % msPerDay).toNat / 3600000 < 10 ^ 2 := by omega
    have h₂ : (t % msPerDay).toNat / 60000 % 60 < 10 ^ 2 := by omega
    have h₃ : (t % msPerDay).toNat / 1000 % 60 < 10 ^ 2 := by omega
    simp only [isDateTime, timeChars, String.toList_ofList, readDigits_yearChars hyear, readField_digits, hm, hd, h₁, h₂,
      Option.bind_eq_bind, Option.bind_some]
    have hseconds : skipSeconds (':' :: (digits 2 ((t % msPerDay).toNat / 1000 % 60) ++
        '.' :: (digits 3 ((t % msPerDay).toNat % 1000) ++ ['Z']))) = some ['Z'] := by
      have hlimit : ¬59 < (t % msPerDay).toNat / 1000 % 60 := by omega
      simp only [skipSeconds, readDigits_digits 2 0 _ _ h₃, Option.bind_eq_bind, Option.bind_some,
        zero_mul, zero_add, hlimit, if_false]
      exact skipFraction_digits (by omega)
    have hok : ¬(m.toNat < 1 ∨ 12 < m.toNat ∨ d.toNat < 1 ∨ daysOfMonth y.toNat m.toNat < d.toNat ∨
        23 < (t % msPerDay).toNat / 3600000 ∨ 59 < (t % msPerDay).toNat / 60000 % 60 ∨
        ['Z'] = []) := by
      simp only [List.cons_ne_nil, or_false]
      omega
    simp only [hseconds, Option.bind_some, readZone, hok, if_false, Option.isSome_some]

end CSO.JS.Date
