import CSO.JS.Text
import Mathlib.Tactic.Common

/-! Strings as UTF-16 code units, well-formed or not. -/
namespace CSO.JS

def isHighSurrogate (u : ℕ) : Bool := 0xD800 ≤ u && u < 0xDC00

def isLowSurrogate (u : ℕ) : Bool := 0xDC00 ≤ u && u < 0xE000

/-- The character of a surrogate pair. -/
def combine (high low : ℕ) : Char := Char.ofNat (0x10000 + (high - 0xD800) * 0x400 + (low - 0xDC00))

/-- `toWellFormed`: a lone surrogate becomes U+FFFD. -/
def decode : List ℕ → List Char
  | [] => []
  | [u] => [if isHighSurrogate u || isLowSurrogate u then '\uFFFD' else Char.ofNat u]
  | u :: v :: units =>
    if isHighSurrogate u && isLowSurrogate v then combine u v :: decode units
    else (if isHighSurrogate u || isLowSurrogate u then '\uFFFD' else Char.ofNat u) ::
      decode (v :: units)

/-- `isWellFormed`: every surrogate has its other half. -/
def isWellFormed : List ℕ → Bool
  | [] => true
  | [u] => !isHighSurrogate u && !isLowSurrogate u
  | u :: v :: units =>
    if isHighSurrogate u && isLowSurrogate v then isWellFormed units
    else !isHighSurrogate u && !isLowSurrogate u && isWellFormed (v :: units)

def unitsOf (c : Char) : List ℕ :=
  if c.toNat < 0x10000 then [c.toNat]
  else [0xD800 + (c.toNat - 0x10000) / 0x400, 0xDC00 + (c.toNat - 0x10000) % 0x400]

theorem codeUnits_ofList (cs : List Char) : codeUnits (String.ofList cs) = cs.flatMap unitsOf := by
  rw [codeUnits, String.toList_ofList]
  rfl

theorem not_surrogate (c : Char) : (isHighSurrogate c.toNat || isLowSurrogate c.toNat) = false := by
  have hvalid := c.valid
  simp only [UInt32.isValidChar, Nat.isValidChar] at hvalid
  have hnat : c.val.toNat = c.toNat := rfl
  simp only [isHighSurrogate, isLowSurrogate, Bool.or_eq_false_iff, Bool.and_eq_false_iff,
    decide_eq_false_iff_not]
  omega

theorem toNat_lt (c : Char) : c.toNat < 0x110000 := by
  have hvalid := c.valid
  simp only [UInt32.isValidChar, Nat.isValidChar] at hvalid
  have hnat : c.val.toNat = c.toNat := rfl
  omega

theorem combine_unitsOf {c : Char} (h : ¬c.toNat < 0x10000) :
    combine (0xD800 + (c.toNat - 0x10000) / 0x400) (0xDC00 + (c.toNat - 0x10000) % 0x400) = c := by
  have hsum : 0x10000 + (0xD800 + (c.toNat - 0x10000) / 0x400 - 0xD800) * 0x400 +
      (0xDC00 + (c.toNat - 0x10000) % 0x400 - 0xDC00) = c.toNat := by omega
  rw [combine, hsum, Char.ofNat_toNat]

theorem pair_unitsOf {c : Char} (h : ¬c.toNat < 0x10000) :
    (isHighSurrogate (0xD800 + (c.toNat - 0x10000) / 0x400) &&
      isLowSurrogate (0xDC00 + (c.toNat - 0x10000) % 0x400)) = true := by
  have hlt := toNat_lt c
  simp only [isHighSurrogate, isLowSurrogate, Bool.and_eq_true, decide_eq_true_eq]
  omega

/-- A character at the head is read back. -/
theorem decode_unitsOf_append (c : Char) (units : List ℕ) :
    decode (unitsOf c ++ units) = c :: decode units := by
  unfold unitsOf
  split_ifs with hsmall
  · obtain ⟨hhigh, hlow⟩ := Bool.or_eq_false_iff.mp (not_surrogate c)
    cases units with
    | nil => simp [decode, hhigh, hlow]
    | cons v units => simp [decode, hhigh, hlow]
  · rw [List.cons_append, List.singleton_append, decode, if_pos (pair_unitsOf hsmall),
      combine_unitsOf hsmall]

theorem decode_flatMap (cs : List Char) : decode (cs.flatMap unitsOf) = cs := by
  induction cs with
  | nil => rfl
  | cons c cs ih => rw [List.flatMap_cons, decode_unitsOf_append, ih]

theorem decode_codeUnits (s : String) : decode (codeUnits s) = s.toList := decode_flatMap s.toList

theorem codeUnits_injective : Function.Injective codeUnits := by
  intro s t h
  have hlist := congrArg decode h
  rw [decode_codeUnits, decode_codeUnits] at hlist
  exact String.toList_inj.mp hlist

theorem isWellFormed_unitsOf_append (c : Char) (units : List ℕ) :
    isWellFormed (unitsOf c ++ units) = isWellFormed units := by
  unfold unitsOf
  split_ifs with hsmall
  · obtain ⟨hhigh, hlow⟩ := Bool.or_eq_false_iff.mp (not_surrogate c)
    cases units with
    | nil => simp [isWellFormed, hhigh, hlow]
    | cons v units => simp [isWellFormed, hhigh, hlow]
  · rw [List.cons_append, List.singleton_append, isWellFormed, if_pos (pair_unitsOf hsmall)]

theorem isWellFormed_flatMap (cs : List Char) : isWellFormed (cs.flatMap unitsOf) = true := by
  induction cs with
  | nil => rfl
  | cons c cs ih => rw [List.flatMap_cons, isWellFormed_unitsOf_append, ih]

theorem toNat_ofNat {n : ℕ} (h : n.isValidChar) : (Char.ofNat n).toNat = n := by
  rw [Char.ofNat, dif_pos h]
  rfl

theorem unitsOf_ofNat {u : ℕ} (hu : u < 0x10000) (hhigh : isHighSurrogate u = false)
    (hlow : isLowSurrogate u = false) : unitsOf (Char.ofNat u) = [u] := by
  have hvalid : u.isValidChar := by
    simp only [isHighSurrogate, isLowSurrogate, Bool.and_eq_false_iff,
      decide_eq_false_iff_not] at hhigh hlow
    simp only [Nat.isValidChar]
    omega
  have hnat : (Char.ofNat u).toNat = u := toNat_ofNat hvalid
  rw [unitsOf, hnat, if_pos hu]

theorem unitsOf_combine {u v : ℕ} (hhigh : isHighSurrogate u = true)
    (hlow : isLowSurrogate v = true) : unitsOf (combine u v) = [u, v] := by
  simp only [isHighSurrogate, isLowSurrogate, Bool.and_eq_true, decide_eq_true_eq] at hhigh hlow
  have hvalid : (0x10000 + (u - 0xD800) * 0x400 + (v - 0xDC00)).isValidChar := by
    simp only [Nat.isValidChar]
    omega
  have hnat : (combine u v).toNat = 0x10000 + (u - 0xD800) * 0x400 + (v - 0xDC00) :=
    toNat_ofNat hvalid
  rw [unitsOf, hnat, if_neg (by omega)]
  have hu : 0xD800 + (0x10000 + (u - 0xD800) * 0x400 + (v - 0xDC00) - 0x10000) / 0x400 = u := by
    omega
  have hv : 0xDC00 + (0x10000 + (u - 0xD800) * 0x400 + (v - 0xDC00) - 0x10000) % 0x400 = v := by
    omega
  rw [hu, hv]

/-- A well-formed string is what it is decoded to. -/
theorem flatMap_decode {units : List ℕ} (hbound : ∀ u ∈ units, u < 0x10000)
    (h : isWellFormed units = true) : (decode units).flatMap unitsOf = units := by
  induction units using decode.induct with
  | case1 => rfl
  | case2 u =>
    simp only [isWellFormed, Bool.and_eq_true, Bool.not_eq_true'] at h
    rw [decode, h.1, h.2]
    simpa using unitsOf_ofNat (hbound u List.mem_cons_self) h.1 h.2
  | case3 u v units hpair ih =>
    rw [isWellFormed, if_pos hpair] at h
    rw [Bool.and_eq_true] at hpair
    rw [decode, hpair.1, hpair.2]
    have hrest : ∀ w ∈ units, w < 0x10000 := fun w hw =>
      hbound w (List.mem_cons_of_mem u (List.mem_cons_of_mem v hw))
    simp [unitsOf_combine hpair.1 hpair.2, ih hrest h]
  | case4 u v units hpair ih =>
    rw [isWellFormed, if_neg hpair] at h
    simp only [Bool.and_eq_true, Bool.not_eq_true'] at h
    rw [decode, if_neg hpair, h.1.1, h.1.2]
    have hrest : ∀ w ∈ v :: units, w < 0x10000 := fun w hw =>
      hbound w (List.mem_cons_of_mem u hw)
    simp [unitsOf_ofNat (hbound u List.mem_cons_self) h.1.1 h.1.2, ih hrest h.2]

/-- Decoding loses nothing exactly where there is no lone surrogate. -/
theorem flatMap_decode_iff {units : List ℕ} (hbound : ∀ u ∈ units, u < 0x10000) :
    (decode units).flatMap unitsOf = units ↔ isWellFormed units = true := by
  constructor
  · intro h
    rw [← h]
    exact isWellFormed_flatMap _
  · exact flatMap_decode hbound

theorem unitsOf_lt (c : Char) : ∀ u ∈ unitsOf c, u < 0x10000 := by
  have hlt := toNat_lt c
  unfold unitsOf
  split_ifs with hsmall
  · intro u hu
    rw [List.mem_singleton.mp hu]
    exact hsmall
  · intro u hu
    simp only [List.mem_cons, List.not_mem_nil, or_false] at hu
    omega

theorem decode_flatMap_append (cs : List Char) (units : List ℕ) :
    decode (cs.flatMap unitsOf ++ units) = cs ++ decode units := by
  induction cs with
  | nil => rfl
  | cons c cs ih => rw [List.flatMap_cons, List.append_assoc, decode_unitsOf_append, ih, List.cons_append]

/-- A character that is no surrogate pair ends what comes before it. -/
theorem decode_append_char (units rest : List ℕ) {c : Char} (hc : c.toNat < 0x10000) :
    decode (units ++ c.toNat :: rest) = decode units ++ c :: decode rest := by
  have hcons : decode (c.toNat :: rest) = c :: decode rest := by
    have hread := decode_unitsOf_append c rest
    rw [unitsOf, if_pos hc] at hread
    exact hread
  obtain ⟨hhigh, hlow⟩ := Bool.or_eq_false_iff.mp (not_surrogate c)
  induction units using decode.induct with
  | case1 => exact hcons
  | case2 u =>
    simp [decode, hlow, hcons]
  | case3 u v units hpair ih =>
    rw [List.cons_append, List.cons_append, decode, if_pos hpair, ih, decode, if_pos hpair]
    rfl
  | case4 u v units hpair ih =>
    rw [List.cons_append] at ih
    rw [List.cons_append, List.cons_append, decode, if_neg hpair, ih, decode, if_neg hpair]
    rfl

/-- A string of the language: code units, with or without lone surrogates. -/
structure JsString where
  units : List ℕ
  bounded : ∀ u ∈ units, u < 0x10000
  deriving DecidableEq, Repr

namespace JsString

def ofChars (cs : List Char) : JsString where
  units := cs.flatMap unitsOf
  bounded := by
    intro u hu
    obtain ⟨c, -, hc⟩ := List.mem_flatMap.mp hu
    exact unitsOf_lt c u hc

def ofText (text : String) : JsString := ofChars text.toList

def length (s : JsString) : ℕ := s.units.length

/-- The text that `Buffer.from(s, 'utf8')` encodes. -/
def text (s : JsString) : String := String.ofList (decode s.units)

def WellFormed (s : JsString) : Prop := isWellFormed s.units = true

instance (s : JsString) : Decidable s.WellFormed := inferInstanceAs (Decidable (_ = true))

theorem text_ofText (text : String) : (ofText text).text = text := by
  show String.ofList (decode (text.toList.flatMap unitsOf)) = text
  rw [decode_flatMap, String.ofList_toList]

instance : Append JsString where
  append left right := ⟨left.units ++ right.units, by
    intro u hu
    rcases List.mem_append.mp hu with h | h
    · exact left.bounded u h
    · exact right.bounded u h⟩

theorem text_ofText_append (head : String) (s : JsString) : (ofText head ++ s).text = head ++ s.text := by
  show String.ofList (decode (head.toList.flatMap unitsOf ++ s.units)) = head ++ s.text
  rw [decode_flatMap_append, String.ofList_append, String.ofList_toList]
  rfl

theorem text_append_colon (left right : JsString) :
    (left ++ ofText ":" ++ right).text = left.text ++ ":" ++ right.text := by
  have hread := decode_append_char left.units right.units (by decide : ':'.toNat < 0x10000)
  show String.ofList (decode ((left.units ++ [':'.toNat]) ++ right.units)) = _
  rw [List.append_assoc, List.singleton_append, hread, String.ofList_append]
  rw [show ':' :: decode right.units = [':'] ++ decode right.units from rfl, String.ofList_append,
    String.append_assoc]
  rfl

/-- The text of a string is the string itself exactly where it is well-formed. -/
theorem ofText_text {s : JsString} : ofText s.text = s ↔ s.WellFormed := by
  unfold WellFormed
  rw [← flatMap_decode_iff s.bounded]
  constructor
  · intro h
    have hunits := congrArg units h
    simpa [ofText, ofChars, text] using hunits
  · intro h
    obtain ⟨units, hbounded⟩ := s
    simp only [ofText, ofChars, text, String.toList_ofList] at h ⊢
    exact JsString.mk.injEq _ _ _ _ ▸ h

end JsString
end CSO.JS
