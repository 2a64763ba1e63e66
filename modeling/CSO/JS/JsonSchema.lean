import CSO.JS.JsonTree

/-! Keywords of JSON Schema (draft 2020-12) as checks of a value. A keyword says nothing about the
values of types that it is not for. -/
namespace CSO.JS
namespace JsonTree

mutual

/-- Equality of JSON values: the fields of an object have no order. -/
def equal : Value → Value → Bool
  | .null, .null => true
  | .bool a, .bool b => a == b
  | .num m, .num n => m = n
  | .str s, .str t => s == t
  | .arr items, .arr others => equalItems items others
  | .obj fields, .obj others => fields.length == others.length && equalFields fields others
  | _, _ => false

def equalItems : List Value → List Value → Bool
  | [], [] => true
  | item :: items, other :: others => equal item other && equalItems items others
  | _, _ => false

/-- Every one of the fields has its like among the others. -/
def equalFields : List (String × Value) → List (String × Value) → Bool
  | [], _ => true
  | (key, value) :: fields, others =>
    (match List.lookup key others with
      | some other => equal value other
      | none => false) && equalFields fields others

end

variable {value other : Value} {fields others : List (String × Value)} {key : String}

@[simp] theorem equal_bool {b : Bool} : equal (.bool b) value = true ↔ value = .bool b := by
  cases value <;> simp [equal, @eq_comm _ b]

@[simp] theorem equal_num {n : Number} : equal (.num n) value = true ↔ value = .num n := by
  cases value <;> simp [equal, @eq_comm _ n]

@[simp] theorem equal_str {s : String} : equal (.str s) value = true ↔ value = .str s := by
  cases value <;> simp [equal, @eq_comm _ s]

theorem equalFields_lookup (h : equalFields fields others = true)
    (hlookup : List.lookup key fields = some value) :
    ∃ other, List.lookup key others = some other ∧ equal value other = true := by
  induction fields with
  | nil => cases hlookup
  | cons field fields ih =>
    obtain ⟨k, v⟩ := field
    rw [equalFields, Bool.and_eq_true] at h
    obtain ⟨hfirst, hrest⟩ := h
    rw [List.lookup_cons] at hlookup
    split at hlookup
    · rename_i heq
      obtain rfl := eq_of_beq heq
      obtain rfl := Option.some.inj hlookup
      cases hother : List.lookup key others with
      | none =>
        rw [hother] at hfirst
        cases hfirst
      | some other =>
        rw [hother] at hfirst
        exact ⟨other, rfl, hfirst⟩
    · exact ih hrest hlookup

/-- Objects that are equal have equal fields. -/
theorem equal_lookup (h : equal (.obj fields) (.obj others) = true)
    (hlookup : List.lookup key fields = some value) :
    ∃ other, List.lookup key others = some other ∧ equal value other = true := by
  rw [equal, Bool.and_eq_true] at h
  exact equalFields_lookup h.2 hlookup

end JsonTree

namespace JsonSchema
open JsonTree (equal)

abbrev Schema := Value → Bool

def isObject : Schema
  | .obj _ => true
  | _ => false

def isArray : Schema
  | .arr _ => true
  | _ => false

def isString : Schema
  | .str _ => true
  | _ => false

def isBoolean : Schema
  | .bool _ => true
  | _ => false

/-- A number without a fractional part. -/
def isInteger : Schema
  | .num (.finite q) => q.den = 1
  | _ => false

def const (expected : Value) : Schema := equal expected

def enum (members : List Value) : Schema := fun value => members.any (equal · value)

def minimum (bound : ℚ) : Schema
  | .num (.finite q) => bound ≤ q
  | .num (.infinite negative) => !negative
  | _ => true

def maximum (bound : ℚ) : Schema
  | .num (.finite q) => q ≤ bound
  | .num (.infinite negative) => negative
  | _ => true

/-- `pattern` and `format`. -/
def satisfies (check : String → Bool) : Schema
  | .str s => check s
  | _ => true

def minItems (n : ℕ) : Schema
  | .arr items => n ≤ items.length
  | _ => true

def maxItems (n : ℕ) : Schema
  | .arr items => items.length ≤ n
  | _ => true

def uniqueItems : Schema
  | .arr items => items.Pairwise fun a b => ¬equal a b
  | _ => true

def items (schema : Schema) : Schema
  | .arr values => values.all schema
  | _ => true

def required (keys : List String) : Schema
  | .obj fields => keys.all fun key => (List.lookup key fields).isSome
  | _ => true

def properties (schemas : List (String × Schema)) : Schema
  | .obj fields => schemas.all fun named => (List.lookup named.1 fields).all named.2
  | _ => true

/-- `additionalProperties: false` beside the properties. -/
def noAdditionalProperties (keys : List String) : Schema
  | .obj fields => fields.all fun field => field.1 ∈ keys
  | _ => true

def allOf (schemas : List Schema) : Schema := fun value => schemas.all (· value)

def anyOf (schemas : List Schema) : Schema := fun value => schemas.any (· value)

def not (schema : Schema) : Schema := fun value => !schema value

def ifThenElse (condition consequence alternative : Schema) : Schema := fun value =>
  if condition value then consequence value else alternative value

/-- `if` without `else`. -/
def ifThen (condition consequence : Schema) : Schema :=
  ifThenElse condition consequence fun _ => true

variable {schema : Schema} {schemas : List Schema} {named : String × Schema}
  {more : List (String × Schema)} {key : String} {keys : List String} {value : Value}
  {fields : List (String × Value)}

@[simp] theorem allOf_nil : allOf [] value = true := rfl

@[simp] theorem allOf_cons : allOf (schema :: schemas) value = (schema value && allOf schemas value) :=
  rfl

@[simp] theorem anyOf_nil : anyOf [] value = false := rfl

@[simp] theorem anyOf_cons : anyOf (schema :: schemas) value = (schema value || anyOf schemas value) :=
  rfl

@[simp] theorem not_apply : JsonSchema.not schema value = !schema value := rfl

@[simp] theorem isObject_obj : isObject (.obj fields) = true := rfl

@[simp] theorem required_nil : required [] (.obj fields) = true := rfl

@[simp] theorem required_cons : required (key :: keys) (.obj fields) =
    ((List.lookup key fields).isSome && required keys (.obj fields)) := rfl

@[simp] theorem properties_nil : properties [] (.obj fields) = true := rfl

@[simp] theorem properties_cons : properties (named :: more) (.obj fields) =
    ((List.lookup named.1 fields).all named.2 && properties more (.obj fields)) := rfl

/-- An empty schema says nothing. -/
@[simp] theorem all_empty (field : Option Value) : field.all (allOf []) = true := by
  cases field <;> rfl

theorem noAdditionalProperties_obj : noAdditionalProperties keys (.obj fields) = true ↔
    ∀ field ∈ fields, field.1 ∈ keys := by
  simp [noAdditionalProperties]

/-- A check that only objects pass. -/
theorem isObject_iff : isObject value = true ↔ ∃ fields, value = .obj fields := by
  cases value <;> simp [isObject]

end JsonSchema

end CSO.JS
