import CSO.JS.Text
import CSO.JS.Uuid

/-! Readers of JSON values. A reader stands for a schema: what the schema refuses reads as none. -/
namespace CSO.JS

abbrev Reader (α : Type) := Json → Option α

abbrev Fields := List (String × Json)

def maxSafeInteger : ℕ := 9007199254740991

namespace Reader
variable {α β : Type}

def text : Reader String
  | .str s => some s
  | _ => none

def bool : Reader Bool
  | .bool b => some b
  | _ => none

/-- Integers from zero to `Number.MAX_SAFE_INTEGER`. -/
def safeInteger : Reader ℕ
  | .num n => if 0 ≤ n ∧ n.toNat ≤ maxSafeInteger then some n.toNat else none
  | _ => none

def array (read : Reader α) : Reader (List α)
  | .arr items => items.mapM read
  | _ => none

def object : Reader Fields
  | .obj fields => some fields
  | _ => none

/-- An object with no other keys. -/
def strict (keys : List String) : Reader Fields
  | .obj fields => if fields.all (fun field => field.1 ∈ keys) then some fields else none
  | _ => none

/-- One of some texts, each with what it stands for. -/
def member (members : List (String × α)) : Reader α := fun json => (text json).bind (List.lookup · members)

def refine (read : Reader α) (check : α → Bool) : Reader α := fun json => (read json).filter check

end Reader

namespace Fields
variable {α : Type} (fields : Fields) (key : String) (read : Reader α)

def required : Option α := (List.lookup key fields).bind read

/-- The field may be left out. -/
def optional : Option (Option α) :=
  match List.lookup key fields with
  | none => some none
  | some json => (read json).map some

end Fields

/-! What a reader makes of a value that was written. -/
namespace Reader
variable {α β γ : Type}

@[simp] theorem text_str (s : String) : text (.str s) = some s := rfl

@[simp] theorem bool_bool (b : Bool) : bool (.bool b) = some b := rfl

theorem safeInteger_num {n : ℕ} (h : n ≤ maxSafeInteger) : safeInteger (.num n) = some n := by
  simp [safeInteger, h]

theorem array_map {read : Reader β} {write : α → Json} {f : α → β} {items : List α}
    (h : ∀ a ∈ items, read (write a) = some (f a)) :
    array read (.arr (items.map write)) = some (items.map f) := by
  induction items with
  | nil => rfl
  | cons a items ih =>
    have hrest := ih fun b hb => h b (List.mem_cons_of_mem a hb)
    simp only [array] at hrest ⊢
    simp only [List.map_cons, List.mapM_cons, h a List.mem_cons_self, hrest]
    rfl

@[simp] theorem object_obj (fields : Fields) : object (.obj fields) = some fields := rfl

theorem strict_obj {keys : List String} {fields : Fields} (h : ∀ field ∈ fields, field.1 ∈ keys) :
    strict keys (.obj fields) = some fields := by
  rw [strict, if_pos]
  simpa using h

theorem refine_some {read : Reader α} {check : α → Bool} {json : Json} {a : α}
    (h : read json = some a) (hcheck : check a = true) : refine read check json = some a := by
  simp [refine, h, hcheck]

end Reader

namespace Fields
variable {α β : Type} {fields : Fields} {key : String}

theorem required_some {read : Reader β} {json : Json} {b : β}
    (hlookup : List.lookup key fields = some json) (h : read json = some b) :
    fields.required key read = some b := by
  rw [required, hlookup, Option.bind_some, h]

theorem optional_map {read : Reader β} {write : α → Json} {f : α → β} {value : Option α}
    (hlookup : List.lookup key fields = value.map write)
    (h : ∀ a, value = some a → read (write a) = some (f a)) :
    fields.optional key read = some (value.map f) := by
  rw [optional, hlookup]
  cases value with
  | none => rfl
  | some a => simp [h a rfl]

end Fields

/-! Texts of a fixed length. -/

namespace Sha256

theorem length_round {state : List UInt32} (h : state.length = 8) (kw : UInt32 × UInt32) :
    (round state kw).length = 8 := by
  match state, h with
  | [a, b, c, d, e, f, g, i], _ => rfl

theorem length_foldl_round {state : List UInt32} (h : state.length = 8)
    (keys : List (UInt32 × UInt32)) : (keys.foldl round state).length = 8 := by
  induction keys generalizing state with
  | nil => exact h
  | cons kw keys ih => exact ih (length_round h kw)

theorem length_foldl_compress {state : List UInt32} (h : state.length = 8)
    (blocks : List (List UInt32)) : (blocks.foldl compress state).length = 8 := by
  induction blocks generalizing state with
  | nil => exact h
  | cons block blocks ih =>
    apply ih
    simp [compress, h, length_foldl_round h]

end Sha256

theorem length_hexDigits (n width : ℕ) : (hexDigits n width).length = width := by
  simp [hexDigits]

theorem isLowerHex_hexDigits (n width : ℕ) : ∀ c ∈ hexDigits n width, isLowerHex c = true := by
  have hdigit : ∀ d < 16, isLowerHex (Nat.digitChar d) = true := by decide
  intro c hc
  obtain ⟨i, -, rfl⟩ := List.mem_map.mp hc
  exact hdigit _ (Nat.mod_lt _ (by decide))

theorem matches?_replicate {p : Char → Bool} {cs : List Char} (h : ∀ c ∈ cs, p c = true) :
    matches? (List.replicate cs.length p) cs = true := by
  induction cs with
  | nil => rfl
  | cons c cs ih =>
    simp only [List.length_cons, List.replicate_succ, matches?, Bool.and_eq_true]
    exact ⟨h c List.mem_cons_self, ih fun d hd => h d (List.mem_cons_of_mem c hd)⟩

theorem matches?_append {pattern pattern' : List (Char → Bool)} {cs cs' : List Char}
    (h : matches? pattern cs = true) (h' : matches? pattern' cs' = true) :
    matches? (pattern ++ pattern') (cs ++ cs') = true := by
  induction pattern generalizing cs with
  | nil =>
    cases cs with
    | nil => exact h'
    | cons c cs => simp [matches?] at h
  | cons p pattern ih =>
    cases cs with
    | nil => simp [matches?] at h
    | cons c cs =>
      simp only [matches?, Bool.and_eq_true, List.cons_append] at h ⊢
      exact ⟨h.1, ih h.2⟩

/-- A digest with its algorithm. -/
def isSha256 (text : String) : Bool :=
  matches? ("sha256:".toList.map (fun c d => c == d) ++ List.replicate 64 isLowerHex) text.toList

theorem isSha256_hex (text : String) : isSha256 ("sha256:" ++ Sha256.hex text) = true := by
  have hlength := Sha256.length_foldl_compress (show Sha256.initialState.length = 8 from rfl)
    ((Sha256.words (Sha256.pad text.toUTF8.toList)).toChunks 16)
  rw [isSha256, String.toList_append]
  apply matches?_append (by decide)
  unfold Sha256.hex
  rw [String.toList_ofList]
  generalize List.foldl Sha256.compress _ _ = state at hlength ⊢
  have h64 : (state.flatMap fun w => hexDigits w.toNat 8).length = 64 := by
    simp [List.length_flatMap, length_hexDigits, hlength]
  rw [← h64]
  apply matches?_replicate
  intro c hc
  obtain ⟨w, -, hc⟩ := List.mem_flatMap.mp hc
  exact isLowerHex_hexDigits w.toNat 8 c hc

end CSO.JS
