import CSO.JS.Number

/-! JSON as a tree over the numbers in it, and what its parts read as. -/
namespace CSO.JS

inductive JsonTree (N : Type)
  | null
  | bool (b : Bool)
  | num (n : N)
  | str (s : String)
  | arr (items : List (JsonTree N))
  | obj (fields : List (String × JsonTree N))

/-- A JSON text, its numbers as they are written and its keys as often as they are. -/
abbrev Document := JsonTree NumberLiteral

/-- A value of JavaScript that comes from a JSON text. -/
abbrev Value := JsonTree Number

namespace JsonTree
variable {N M : Type}

mutual

/-- The tree over the numbers that `f` makes. -/
def map (f : N → M) : JsonTree N → JsonTree M
  | .null => .null
  | .bool b => .bool b
  | .num n => .num (f n)
  | .str s => .str s
  | .arr items => .arr (mapItems f items)
  | .obj fields => .obj (mapFields f fields)

def mapItems (f : N → M) : List (JsonTree N) → List (JsonTree M)
  | [] => []
  | item :: items => map f item :: mapItems f items

def mapFields (f : N → M) : List (String × JsonTree N) → List (String × JsonTree M)
  | [] => []
  | (key, value) :: fields => (key, map f value) :: mapFields f fields

end

/-- The last binding of every key. -/
def lastBindings : List (String × JsonTree N) → List (String × JsonTree N)
  | [] => []
  | field :: fields =>
    if field.1 ∈ fields.map Prod.fst then lastBindings fields else field :: lastBindings fields

mutual

/-- Of a key that an object has more than once, the last value counts. -/
def resolve : JsonTree N → JsonTree N
  | .arr items => .arr (resolveItems items)
  | .obj fields => .obj (lastBindings (resolveFields fields))
  | value => value

def resolveItems : List (JsonTree N) → List (JsonTree N)
  | [] => []
  | item :: items => resolve item :: resolveItems items

def resolveFields : List (String × JsonTree N) → List (String × JsonTree N)
  | [] => []
  | (key, value) :: fields => (key, resolve value) :: resolveFields fields

end

/-! What a tree reads as. -/

def string? : JsonTree N → Option String
  | .str s => some s
  | _ => none

def bool? : JsonTree N → Option Bool
  | .bool b => some b
  | _ => none

def num? : JsonTree N → Option N
  | .num n => some n
  | _ => none

def items? : JsonTree N → Option (List (JsonTree N))
  | .arr items => some items
  | _ => none

def fields? : JsonTree N → Option (List (String × JsonTree N))
  | .obj fields => some fields
  | _ => none

/-- An array whose items all read. -/
def list? {α : Type} (read : JsonTree N → Option α) (value : JsonTree N) : Option (List α) :=
  value.items?.bind fun items => items.mapM read

/-- A field that must be there. -/
def required {α : Type} (fields : List (String × JsonTree N)) (key : String)
    (read : JsonTree N → Option α) : Option α := (List.lookup key fields).bind read

/-- A field that may be left out. -/
def optional {α : Type} (fields : List (String × JsonTree N)) (key : String)
    (read : JsonTree N → Option α) : Option (Option α) :=
  match List.lookup key fields with
  | none => some none
  | some value => (read value).map some

/-- Every number in a tree has the property. -/
inductive Numbers (p : N → Prop) : JsonTree N → Prop
  | null : Numbers p .null
  | bool (b : Bool) : Numbers p (.bool b)
  | num {n : N} (h : p n) : Numbers p (.num n)
  | str (s : String) : Numbers p (.str s)
  | arr {items : List (JsonTree N)} (h : ∀ item ∈ items, Numbers p item) : Numbers p (.arr items)
  | obj {fields : List (String × JsonTree N)} (h : ∀ field ∈ fields, Numbers p field.2) :
    Numbers p (.obj fields)

/-- Every key in a tree has the property. -/
inductive Keys (p : String → Prop) : JsonTree N → Prop
  | null : Keys p .null
  | bool (b : Bool) : Keys p (.bool b)
  | num (n : N) : Keys p (.num n)
  | str (s : String) : Keys p (.str s)
  | arr {items : List (JsonTree N)} (h : ∀ item ∈ items, Keys p item) : Keys p (.arr items)
  | obj {fields : List (String × JsonTree N)} (hkeys : ∀ field ∈ fields, p field.1)
    (h : ∀ field ∈ fields, Keys p field.2) : Keys p (.obj fields)

variable {f : N → M} {value : JsonTree N} {items : List (JsonTree N)}
  {fields : List (String × JsonTree N)}

@[simp] theorem numbers_bool {p : N → Prop} (b : Bool) : Numbers p (.bool b) := .bool b

@[simp] theorem numbers_str {p : N → Prop} (s : String) : Numbers p (.str s) := .str s

@[simp] theorem numbers_num {p : N → Prop} {n : N} : Numbers p (.num n) ↔ p n :=
  ⟨fun h => by cases h; assumption, .num⟩

@[simp] theorem numbers_arr {p : N → Prop} :
    Numbers p (.arr items) ↔ ∀ item ∈ items, Numbers p item :=
  ⟨fun h => by cases h; assumption, .arr⟩

@[simp] theorem numbers_obj {p : N → Prop} :
    Numbers p (.obj fields) ↔ ∀ field ∈ fields, Numbers p field.2 :=
  ⟨fun h => by cases h; assumption, .obj⟩

theorem string?_eq_some {s : String} : value.string? = some s ↔ value = .str s := by
  cases value <;> simp [string?]

theorem items?_eq_some : value.items? = some items ↔ value = .arr items := by
  cases value <;> simp [items?]

theorem fields?_eq_some : value.fields? = some fields ↔ value = .obj fields := by
  cases value <;> simp [fields?]

theorem mapItems_eq (f : N → M) (items : List (JsonTree N)) : mapItems f items = items.map (map f) := by
  induction items with
  | nil => rfl
  | cons item items ih => rw [mapItems, ih, List.map_cons]

theorem resolveItems_eq (items : List (JsonTree N)) : resolveItems items = items.map resolve := by
  induction items with
  | nil => rfl
  | cons item items ih => rw [resolveItems, ih, List.map_cons]

@[simp] theorem string?_map (value : JsonTree N) : (value.map f).string? = value.string? := by
  cases value <;> rfl

@[simp] theorem bool?_map (value : JsonTree N) : (value.map f).bool? = value.bool? := by
  cases value <;> rfl

@[simp] theorem num?_map (value : JsonTree N) : (value.map f).num? = value.num?.map f := by
  cases value <;> rfl

@[simp] theorem items?_map (value : JsonTree N) :
    (value.map f).items? = value.items?.map (List.map (map f)) := by
  cases value <;> simp [map, items?, mapItems_eq]

@[simp] theorem fields?_map (value : JsonTree N) :
    (value.map f).fields? = value.fields?.map (mapFields f) := by
  cases value <;> rfl

@[simp] theorem lookup_mapFields (key : String) (fields : List (String × JsonTree N)) :
    List.lookup key (mapFields f fields) = (List.lookup key fields).map (map f) := by
  induction fields with
  | nil => rfl
  | cons field fields ih =>
    obtain ⟨k, value⟩ := field
    rw [mapFields, List.lookup_cons, List.lookup_cons]
    split
    · rfl
    · exact ih

@[simp] theorem keys_mapFields (fields : List (String × JsonTree N)) :
    (mapFields f fields).map Prod.fst = fields.map Prod.fst := by
  induction fields with
  | nil => rfl
  | cons field fields ih =>
    obtain ⟨k, value⟩ := field
    rw [mapFields, List.map_cons, List.map_cons, ih]

theorem list?_map {α : Type} {read : JsonTree M → Option α} {read' : JsonTree N → Option α}
    (h : ∀ value, read (map f value) = read' value) (value : JsonTree N) :
    list? read (value.map f) = list? read' value := by
  rw [list?, list?, items?_map]
  cases value.items? with
  | none => rfl
  | some items =>
    rw [Option.map_some, Option.bind_some, Option.bind_some, List.mapM_map]
    exact congrArg (items.mapM ·) (funext h)

theorem required_map {α : Type} (key : String) (read : JsonTree M → Option α) :
    required (mapFields f fields) key read = required fields key fun value => read (map f value) := by
  rw [required, required, lookup_mapFields]
  cases List.lookup key fields <;> rfl

theorem optional_map {α : Type} (key : String) (read : JsonTree M → Option α) :
    optional (mapFields f fields) key read = optional fields key fun value => read (map f value) := by
  rw [optional, optional, lookup_mapFields]
  cases List.lookup key fields <;> rfl

/-- A list reads item by item. -/
theorem mapM_eq_some {α β : Type} {read : α → Option β} {items : List α} {values : List β} :
    items.mapM read = some values ↔ List.Forall₂ (fun item value => read item = some value)
      items values := by
  induction items generalizing values with
  | nil => cases values <;> simp
  | cons item items ih =>
    rw [List.mapM_cons]
    cases values with
    | nil => simp [Option.bind_eq_some_iff]
    | cons value values => simp [Option.bind_eq_some_iff, List.forall₂_cons, ih]

theorem mem_of_lookup {key : String} (h : List.lookup key fields = some value) :
    (key, value) ∈ fields := by
  induction fields with
  | nil => cases h
  | cons field fields ih =>
    obtain ⟨k, v⟩ := field
    rw [List.lookup_cons] at h
    split at h
    · rename_i heq
      rw [eq_of_beq heq, Option.some.inj h]
      exact List.mem_cons_self
    · exact List.mem_cons_of_mem _ (ih h)

theorem lookup_isSome {field : String × JsonTree N} (h : field ∈ fields) :
    (List.lookup field.1 fields).isSome = true := by
  induction fields with
  | nil => exact absurd h List.not_mem_nil
  | cons head fields ih =>
    obtain ⟨k, v⟩ := head
    rw [List.lookup_cons]
    split
    · rfl
    · rename_i hne
      rcases List.mem_cons.mp h with rfl | hmem
      · exact absurd (beq_self_eq_true k) (by rw [hne]; decide)
      · exact ih hmem

theorem mem_keys_lastBindings {key : String} :
    key ∈ (lastBindings fields).map Prod.fst ↔ key ∈ fields.map Prod.fst := by
  induction fields with
  | nil => rfl
  | cons field fields ih =>
    rw [lastBindings]
    split_ifs with hmem
    · rw [ih, List.map_cons, List.mem_cons]
      exact ⟨Or.inr, fun h => h.elim (fun heq => heq ▸ hmem) id⟩
    · rw [List.map_cons, List.map_cons, List.mem_cons, List.mem_cons, ih]

/-- An object that has been resolved has every key once. -/
theorem nodup_lastBindings (fields : List (String × JsonTree N)) :
    ((lastBindings fields).map Prod.fst).Nodup := by
  induction fields with
  | nil => exact List.nodup_nil
  | cons field fields ih =>
    rw [lastBindings]
    split_ifs with hmem
    · exact ih
    · exact List.nodup_cons.mpr ⟨fun h => hmem (mem_keys_lastBindings.mp h), ih⟩

theorem resolve_nodup {document : JsonTree N} (h : document.resolve = .obj fields) :
    (fields.map Prod.fst).Nodup := by
  cases document with
  | obj raw =>
    rw [resolve] at h
    cases h
    exact nodup_lastBindings _
  | null => cases h
  | bool b => cases h
  | num n => cases h
  | str s => cases h
  | arr items => cases h

end JsonTree

/-- `JSON.parse`. -/
def parse (document : Document) : Value := document.resolve.map Number.ofLiteral

end CSO.JS
