import CSO.JS.Utf16

/-! UTF-8: the bytes of a text, and the decoder that replaces those of no character. -/
namespace CSO.JS.Utf8

/-- The bytes of characters. -/
def encode (cs : List Char) : List UInt8 := cs.flatMap String.utf8EncodeChar

/-- What a decoder knows between two bytes: the bits so far, how many bytes the character still
needs and the range of the next. -/
structure Pending where
  codePoint : ℕ
  needed : ℕ
  lower : ℕ
  upper : ℕ
  deriving DecidableEq, Repr

namespace Pending

/-- Between characters. -/
def start : Pending := ⟨0, 0, 0x80, 0xBF⟩

/-- In the middle of one, with no restriction on the next byte. -/
def within (codePoint needed : ℕ) : Pending := ⟨codePoint, needed, 0x80, 0xBF⟩

def replacement : Char := '\uFFFD'

/-- The first byte of a character. Overlong forms, surrogates and what is above U+10FFFF are kept
out by the range of the second. -/
def lead (b : ℕ) : List Char × Pending :=
  if b < 0x80 then ([Char.ofNat b], start)
  else if 0xC2 ≤ b ∧ b ≤ 0xDF then ([], within (b - 0xC0) 1)
  else if 0xE0 ≤ b ∧ b ≤ 0xEF then
    ([], ⟨b - 0xE0, 2, if b = 0xE0 then 0xA0 else 0x80, if b = 0xED then 0x9F else 0xBF⟩)
  else if 0xF0 ≤ b ∧ b ≤ 0xF4 then
    ([], ⟨b - 0xF0, 3, if b = 0xF0 then 0x90 else 0x80, if b = 0xF4 then 0x8F else 0xBF⟩)
  else ([replacement], start)

/-- A byte out of range ends the character before it and is read again as a first byte. -/
def step (p : Pending) (b : ℕ) : List Char × Pending :=
  if p.needed = 0 then lead b
  else if p.lower ≤ b ∧ b ≤ p.upper then
    if p.needed = 1 then ([Char.ofNat (p.codePoint * 0x40 + (b - 0x80))], start)
    else ([], within (p.codePoint * 0x40 + (b - 0x80)) (p.needed - 1))
  else (replacement :: (lead b).1, (lead b).2)

def decode : Pending → List UInt8 → List Char
  | p, [] => if p.needed = 0 then [] else [replacement]
  | p, b :: bytes => (p.step b.toNat).1 ++ (p.step b.toNat).2.decode bytes

end Pending

/-- What `Buffer.toString('utf8')` reads. -/
def decode (bytes : List UInt8) : List Char := Pending.start.decode bytes

open Pending

theorem step_start (b : ℕ) : start.step b = lead b := rfl

theorem decode_cons (p : Pending) (b : UInt8) (bytes : List UInt8) :
    p.decode (b :: bytes) = (p.step b.toNat).1 ++ (p.step b.toNat).2.decode bytes := rfl

/-- A byte in the middle of a character. -/
theorem step_continue {p : Pending} {n b codePoint : ℕ} (hneeded : p.needed = n + 2)
    (hlower : p.lower ≤ b + 0x80) (hupper : b + 0x80 ≤ p.upper)
    (h : codePoint = p.codePoint * 0x40 + b) :
    p.step (b + 0x80) = ([], within codePoint (n + 1)) := by
  unfold step
  rw [if_neg (by omega), if_pos ⟨hlower, hupper⟩, if_neg (by omega), hneeded, Nat.add_sub_cancel, h]
  rfl

/-- The last byte of a character. -/
theorem within_last {n codePoint b : ℕ} (h : n = codePoint * 0x40 + b) (hb : b < 0x40) :
    (within codePoint 1).step (b + 0x80) = ([Char.ofNat n], start) := by
  have hupper : b + 0x80 ≤ 0xBF := by omega
  unfold step within
  rw [if_neg Nat.one_ne_zero, if_pos ⟨Nat.le_add_left _ _, hupper⟩, if_pos rfl,
    Nat.add_sub_cancel, h]

theorem toNat_ofNat_of_lt {n : ℕ} (h : n < 256) : (UInt8.ofNat n).toNat = n := by
  rw [UInt8.toNat_ofNat']
  exact Nat.mod_eq_of_lt h

theorem lead_three {k : ℕ} (h : k < 0x10) : lead (k + 0xE0) =
    ([], ⟨k, 2, if k = 0 then 0xA0 else 0x80, if k = 0xD then 0x9F else 0xBF⟩) := by
  rw [lead, if_neg (by omega), if_neg (by omega), if_pos (by omega), Nat.add_sub_cancel]
  have hlow : k + 0xE0 = 0xE0 ↔ k = 0 := by omega
  have hhigh : k + 0xE0 = 0xED ↔ k = 0xD := by omega
  simp only [hlow, hhigh]

theorem lead_four {k : ℕ} (h : k < 5) : lead (k + 0xF0) =
    ([], ⟨k, 3, if k = 0 then 0x90 else 0x80, if k = 4 then 0x8F else 0xBF⟩) := by
  rw [lead, if_neg (by omega), if_neg (by omega), if_neg (by omega), if_pos (by omega),
    Nat.add_sub_cancel]
  have hlow : k + 0xF0 = 0xF0 ↔ k = 0 := by omega
  have hhigh : k + 0xF0 = 0xF4 ↔ k = 4 := by omega
  simp only [hlow, hhigh]

theorem decode_two {n : ℕ} (hlow : 0x80 ≤ n) (hhigh : n < 0x800) (bytes : List UInt8) :
    start.decode (UInt8.ofNat (n / 64 % 0x20 + 0xC0) :: UInt8.ofNat (n % 0x40 + 0x80) :: bytes) =
      Char.ofNat n :: start.decode bytes := by
  have hcode : n / 64 % 0x20 + 0xC0 - 0xC0 = n / 64 := by omega
  have hlead : lead (n / 64 % 0x20 + 0xC0) = ([], within (n / 64) 1) := by
    rw [lead, if_neg (by omega), if_pos (by omega), hcode]
  have hlast : (within (n / 64) 1).step (n % 0x40 + 0x80) = ([Char.ofNat n], start) :=
    within_last (by omega) (by omega)
  rw [decode_cons, decode_cons, toNat_ofNat_of_lt (by omega), toNat_ofNat_of_lt (by omega),
    step_start, hlead]
  simp only [hlast]
  rfl

theorem decode_three {n : ℕ} (hlow : 0x800 ≤ n) (hhigh : n < 0x10000)
    (hscalar : n < 0xD800 ∨ 0xDFFF < n) (bytes : List UInt8) :
    start.decode (UInt8.ofNat (n / 4096 % 0x10 + 0xE0) :: UInt8.ofNat (n / 64 % 0x40 + 0x80) ::
      UInt8.ofNat (n % 0x40 + 0x80) :: bytes) = Char.ofNat n :: start.decode bytes := by
  have hlead := lead_three (Nat.mod_lt (n / 4096) (by decide : 0 < 0x10))
  have hnext : (lead (n / 4096 % 0x10 + 0xE0)).2.step (n / 64 % 0x40 + 0x80) =
      ([], within (n / 64) 1) := by
    rw [hlead]
    refine step_continue rfl ?_ ?_ (show n / 64 = n / 4096 % 0x10 * 0x40 + n / 64 % 0x40 by omega)
    · show (if n / 4096 % 0x10 = 0 then 0xA0 else 0x80) ≤ n / 64 % 0x40 + 0x80
      split_ifs <;> omega
    · show n / 64 % 0x40 + 0x80 ≤ if n / 4096 % 0x10 = 0xD then 0x9F else 0xBF
      split_ifs <;> omega
  have hlast : (within (n / 64) 1).step (n % 0x40 + 0x80) = ([Char.ofNat n], start) :=
    within_last (by omega) (by omega)
  rw [decode_cons, decode_cons, decode_cons, toNat_ofNat_of_lt (by omega),
    toNat_ofNat_of_lt (by omega), toNat_ofNat_of_lt (by omega), step_start, hnext, hlead]
  simp only [hlast]
  rfl

theorem decode_four {n : ℕ} (hlow : 0x10000 ≤ n) (hhigh : n < 0x110000) (bytes : List UInt8) :
    start.decode (UInt8.ofNat (n / 262144 % 0x08 + 0xF0) :: UInt8.ofNat (n / 4096 % 0x40 + 0x80) ::
      UInt8.ofNat (n / 64 % 0x40 + 0x80) :: UInt8.ofNat (n % 0x40 + 0x80) :: bytes) =
      Char.ofNat n :: start.decode bytes := by
  have hlead := lead_four (show n / 262144 % 0x08 < 5 by omega)
  have hsecond : (lead (n / 262144 % 0x08 + 0xF0)).2.step (n / 4096 % 0x40 + 0x80) =
      ([], within (n / 4096) 2) := by
    rw [hlead]
    refine step_continue rfl ?_ ?_
      (show n / 4096 = n / 262144 % 0x08 * 0x40 + n / 4096 % 0x40 by omega)
    · show (if n / 262144 % 0x08 = 0 then 0x90 else 0x80) ≤ n / 4096 % 0x40 + 0x80
      split_ifs <;> omega
    · show n / 4096 % 0x40 + 0x80 ≤ if n / 262144 % 0x08 = 4 then 0x8F else 0xBF
      split_ifs <;> omega
  have hthird : (within (n / 4096) 2).step (n / 64 % 0x40 + 0x80) = ([], within (n / 64) 1) := by
    have hupper : n / 64 % 0x40 + 0x80 ≤ 0xBF := by omega
    exact step_continue rfl (Nat.le_add_left _ _) hupper (by simp only [within]; omega)
  have hlast : (within (n / 64) 1).step (n % 0x40 + 0x80) = ([Char.ofNat n], start) :=
    within_last (by omega) (by omega)
  rw [decode_cons, decode_cons, decode_cons, decode_cons, toNat_ofNat_of_lt (by omega),
    toNat_ofNat_of_lt (by omega), toNat_ofNat_of_lt (by omega), toNat_ofNat_of_lt (by omega),
    step_start, hsecond, hlead]
  simp only [hthird, hlast]
  rfl

/-- A character is read back from its bytes. -/
theorem decode_utf8EncodeChar (c : Char) (bytes : List UInt8) :
    start.decode (String.utf8EncodeChar c ++ bytes) = c :: start.decode bytes := by
  have hvalid := c.valid
  have hscalar : c.toNat < 0xD800 ∨ 0xDFFF < c.toNat ∧ c.toNat < 0x110000 := hvalid
  have hchar : Char.ofNat c.toNat = c := Char.ofNat_toNat c
  unfold String.utf8EncodeChar
  simp only [show c.val.toNat = c.toNat from rfl]
  split_ifs with h1 h2 h3
  · rw [List.singleton_append, decode_cons, toNat_ofNat_of_lt (by omega), step_start, lead,
      if_pos (by omega), hchar]
    rfl
  · have hread := decode_two (n := c.toNat) (by omega) (by omega) bytes
    rwa [hchar] at hread
  · have hread := decode_three (n := c.toNat) (by omega) (by omega) (by omega) bytes
    rwa [hchar] at hread
  · have hread := decode_four (n := c.toNat) (by omega) (by omega) bytes
    rwa [hchar] at hread

/-- Decoding inverts encoding. -/
theorem decode_encode (cs : List Char) : decode (encode cs) = cs := by
  induction cs with
  | nil => rfl
  | cons c cs ih =>
    rw [encode, List.flatMap_cons, decode, decode_utf8EncodeChar]
    exact congrArg (c :: ·) ih

theorem loop_toList (bytes : ByteArray) (i : ℕ) (r : List UInt8) :
    ByteArray.toList.loop bytes i r = r.reverse ++ bytes.data.toList.drop i := by
  have hsize : bytes.data.toList.length = bytes.size := rfl
  fun_induction ByteArray.toList.loop bytes i r with
  | case1 i r hlt ih =>
    have hlength : i < bytes.data.toList.length := by omega
    have hget : bytes.get! i = bytes.data.toList[i] := by
      rw [Array.getElem_toList]
      exact getElem!_pos bytes.data i hlength
    rw [ih, List.reverse_cons, List.append_assoc, List.singleton_append, hget,
      ← List.drop_eq_getElem_cons hlength]
  | case2 i r hge =>
    rw [List.drop_eq_nil_of_le (by omega), List.append_nil]

theorem toList_toUTF8 (text : String) : text.toUTF8.toList = encode text.toList := by
  rw [String.toUTF8_eq_toByteArray, ← String.utf8Encode_toList, List.utf8Encode, ByteArray.toList,
    loop_toList, List.toList_data_toByteArray]
  rfl

end CSO.JS.Utf8

namespace CSO.JS.JsString

/-- `Buffer.from(s, 'utf8')` -/
def utf8 (s : JsString) : List UInt8 := Utf8.encode (decode s.units)

/-- `bytes.toString('utf8')` -/
def ofUtf8 (bytes : List UInt8) : JsString := ofChars (Utf8.decode bytes)

theorem toList_text (s : JsString) : s.text.toList = decode s.units := String.toList_ofList

/-- The bytes of a string are those of its text. -/
theorem utf8_eq (s : JsString) : s.utf8 = s.text.toUTF8.toList := by
  rw [Utf8.toList_toUTF8, toList_text, utf8]

theorem ofUtf8_utf8 (s : JsString) : ofUtf8 s.utf8 = ofText s.text := by
  rw [ofUtf8, utf8, Utf8.decode_encode, ofText, toList_text]

/-- A string is read back from its bytes exactly where it is well-formed. -/
theorem ofUtf8_utf8_iff {s : JsString} : ofUtf8 s.utf8 = s ↔ s.WellFormed := by
  rw [ofUtf8_utf8]
  exact ofText_text

/-- `s.trim()` -/
def trim (s : JsString) : JsString where
  units := ((s.units.dropWhile (isWhiteSpace ∘ Char.ofNat)).reverse.dropWhile
    (isWhiteSpace ∘ Char.ofNat)).reverse
  bounded u hu := s.bounded u <| (List.dropWhile_suffix _).subset <| List.mem_reverse.mp <|
    (List.dropWhile_suffix _).subset <| List.mem_reverse.mp hu

end CSO.JS.JsString
