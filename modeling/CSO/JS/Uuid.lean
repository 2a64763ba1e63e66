import Mathlib.Data.List.Basic

/-! UUIDs: what `randomUUID` returns and what `z.uuid()` accepts. -/
namespace CSO.JS

/-- A text of single characters, one predicate for each. -/
def matches? : List (Char → Bool) → List Char → Bool
  | [], [] => true
  | p :: pattern, c :: cs => p c && matches? pattern cs
  | _, _ => false

theorem matches?_mono {pattern pattern' : List (Char → Bool)} {cs : List Char}
    (h : List.Forall₂ (fun p q => ∀ c, p c = true → q c = true) pattern pattern')
    (hm : matches? pattern cs = true) : matches? pattern' cs = true := by
  induction h generalizing cs with
  | nil => exact hm
  | cons hpq _ ih =>
    cases cs with
    | nil => simp [matches?] at hm
    | cons c cs =>
      simp only [matches?, Bool.and_eq_true] at hm ⊢
      exact ⟨hpq c hm.1, ih hm.2⟩

def isLowerHex (c : Char) : Bool := c.isDigit || ('a' ≤ c && c ≤ 'f')

def isHex (c : Char) : Bool := isLowerHex c || ('A' ≤ c && c ≤ 'F')

/-- The groups of a UUID over the given digits, its version digit and its variant digit. -/
def uuidPattern (digit version variant : Char → Bool) : List (Char → Bool) :=
  List.replicate 8 digit ++ (· == '-') :: List.replicate 4 digit ++
    (· == '-') :: version :: List.replicate 3 digit ++
    (· == '-') :: variant :: List.replicate 3 digit ++ (· == '-') :: List.replicate 12 digit

/-- A version 4 UUID, as `randomUUID` returns it. -/
structure Uuid where
  text : String
  random : matches? (uuidPattern isLowerHex (· == '4')
    fun c => c == '8' || c == '9' || c == 'a' || c == 'b') text.toList = true
  deriving DecidableEq

/-- `z.uuid()`. -/
def isUuid (text : String) : Bool :=
  matches? (uuidPattern isHex (fun c => '1' ≤ c && c ≤ '8')
    fun c => c == '8' || c == '9' || c == 'a' || c == 'b' || c == 'A' || c == 'B') text.toList ||
    text == "00000000-0000-0000-0000-000000000000" || text == "ffffffff-ffff-ffff-ffff-ffffffffffff"

theorem isHex_of_isLowerHex {c : Char} (h : isLowerHex c = true) : isHex c = true := by
  simp [isHex, h]

theorem uuidPattern_mono {digit digit' version version' variant variant' : Char → Bool}
    (hd : ∀ c, digit c = true → digit' c = true)
    (hv : ∀ c, version c = true → version' c = true)
    (hw : ∀ c, variant c = true → variant' c = true) :
    List.Forall₂ (fun p q => ∀ c, p c = true → q c = true) (uuidPattern digit version variant)
      (uuidPattern digit' version' variant') := by
  have hsame : ∀ c : Char, (c == '-') = true → (c == '-') = true := fun _ h => h
  simp only [uuidPattern, List.replicate, List.cons_append, List.nil_append, List.forall₂_cons]
  exact ⟨hd, hd, hd, hd, hd, hd, hd, hd, hsame, hd, hd, hd, hd, hsame, hv, hd, hd, hd, hsame, hw,
    hd, hd, hd, hsame, hd, hd, hd, hd, hd, hd, hd, hd, hd, hd, hd, hd, .nil⟩

theorem Uuid.isUuid (uuid : Uuid) : isUuid uuid.text = true := by
  have hversion : ∀ c : Char, (c == '4') = true → (decide ('1' ≤ c) && decide (c ≤ '8')) = true := by
    intro c hc
    rw [beq_iff_eq.mp hc]
    rfl
  have hvariant : ∀ c : Char, (c == '8' || c == '9' || c == 'a' || c == 'b') = true →
      (c == '8' || c == '9' || c == 'a' || c == 'b' || c == 'A' || c == 'B') = true := by
    intro c hc
    rw [hc]
    rfl
  have hm := matches?_mono (uuidPattern_mono (fun c => isHex_of_isLowerHex) hversion hvariant)
    uuid.random
  simp [JS.isUuid, hm]

theorem Uuid.text_ne_empty (uuid : Uuid) : uuid.text ≠ "" := by
  intro h
  have hm := uuid.random
  rw [h] at hm
  simp [uuidPattern, matches?, List.replicate] at hm

end CSO.JS
