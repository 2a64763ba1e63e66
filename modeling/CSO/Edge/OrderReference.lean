import CSO.JS.Text
import Mathlib.Data.List.Dedup

/-! Order references in the texts of customers. -/
namespace CSO.Edge

/-- `\w`. -/
def isWord (c : Char) : Bool := c.isAlphanum || c == '_'

/-- `\b`, between a character and the next one. -/
def isBoundary (before after : Option Char) : Bool := before.any isWord != after.any isWord

/-- `[A-Za-z0-9-]`. -/
def isReferenceChar (c : Char) : Bool := c.isAlphanum || c == '-'

/-- How many characters follow the first one in the match of
`\b[A-Za-z0-9][A-Za-z0-9-]{7,99}\b` here: as many as end at a boundary. -/
def matchLength (before : Option Char) (first : Char) (rest : List Char) : Option ℕ :=
  if first.isAlphanum ∧ isBoundary before (some first) then
    let longest := ((rest.takeWhile isReferenceChar).take 99).length
    ((List.range' 7 (longest + 1 - 7)).reverse).find? fun n =>
      isBoundary ((first :: rest.take n).getLast?) (rest.drop n).head?
  else none

/-- `matchAll`, from left to right. The characters of a match are skipped. -/
def matchAll (before : Option Char) (skip : ℕ) : List Char → List (List Char)
  | [] => []
  | c :: rest =>
    match skip with
    | skip + 1 => matchAll (some c) skip rest
    | 0 =>
      match matchLength before c rest with
      | some n => (c :: rest.take n) :: matchAll (some c) n rest
      | none => matchAll (some c) 0 rest

inductive OrderReferenceResolution
  | none
  | ambiguous
  | unique (value : String)
  deriving DecidableEq, Repr

/-- The set of the candidates. -/
def orderReferences (customerMessage : String) : List String :=
  (((matchAll .none 0 customerMessage.toList).filter fun candidate =>
    candidate.any Char.isAlpha && candidate.any Char.isDigit).map fun candidate =>
      JS.toUpperCase (String.ofList candidate)).dedup

def resolveOrderReferenceFromText (customerMessage : String) : OrderReferenceResolution :=
  match orderReferences customerMessage with
  | [] => .none
  | [value] => .unique value
  | _ => .ambiguous

def resolveOrderReference (customerMessage : String) (explicitOrderReference : Option String) :
    Option String :=
  match explicitOrderReference with
  | some reference => some reference
  | none =>
    match resolveOrderReferenceFromText customerMessage with
    | .unique value => some value
    | _ => none

/-- The loop over the resolutions of the texts, newest first. -/
def firstReference : List OrderReferenceResolution → Option String
  | [] => none
  | .none :: rest => firstReference rest
  | .ambiguous :: _ => none
  | .unique value :: _ => some value

def resolveOrderReferenceFromCustomerMessages (customerMessages : List String)
    (explicitOrderReference : Option String) : Option String :=
  match explicitOrderReference with
  | some reference => some reference
  | none => firstReference (customerMessages.reverse.map resolveOrderReferenceFromText)

example : resolveOrderReference "I want a refund for order avv8jszh8g6zzdmx. It arrived damaged."
    none = some "AVV8JSZH8G6ZZDMX" := by decide +kernel

/-! The newest message with a reference decides. -/

variable {rs before after : List OrderReferenceResolution} {r : OrderReferenceResolution}

theorem firstReference_append (h : ∀ r ∈ before, r = .none) :
    firstReference (before ++ after) = firstReference after := by
  induction before with
  | nil => rfl
  | cons r before ih =>
    rw [List.cons_append, h r List.mem_cons_self]
    exact ih fun r hr => h r (List.mem_cons_of_mem _ hr)

theorem firstReference_none (h : ∀ r ∈ rs, r = .none) : firstReference rs = none := by
  rw [← List.append_nil rs, firstReference_append h]
  rfl

/-- What decides is found after resolutions that name nothing, if anything does. -/
theorem firstReference_split (rs : List OrderReferenceResolution) :
    (∀ r ∈ rs, r = .none) ∨
      ∃ before r after, rs = before ++ r :: after ∧ (∀ r ∈ before, r = .none) ∧ r ≠ .none := by
  induction rs with
  | nil => exact Or.inl fun r hr => absurd hr List.not_mem_nil
  | cons r rs ih =>
    by_cases hr : r = .none
    · rcases ih with hall | ⟨before, r', after, rfl, hbefore, hr'⟩
      · exact Or.inl (List.forall_mem_cons.mpr ⟨hr, hall⟩)
      · exact Or.inr ⟨r :: before, r', after, rfl, List.forall_mem_cons.mpr ⟨hr, hbefore⟩, hr'⟩
    · exact Or.inr ⟨[], r, rs, rfl, fun r hr => absurd hr List.not_mem_nil, hr⟩

/-- The value of a resolution that decides. -/
def OrderReferenceResolution.value? : OrderReferenceResolution → Option String
  | unique value => some value
  | _ => Option.none

theorem firstReference_decided (h : ∀ r ∈ before, r = .none) (hr : r ≠ .none) :
    firstReference (before ++ r :: after) = r.value? := by
  rw [firstReference_append h]
  cases r with
  | none => exact absurd rfl hr
  | ambiguous => rfl
  | unique value => rfl

end CSO.Edge
