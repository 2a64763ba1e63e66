import CSO.JS.JsonSchema
import Mathlib.Data.List.Nodup

/-! What a value stands for, to compare what reads it with a schema. -/
namespace CSO.JS

/-- The values of a type in JSON. -/
abbrev Form (α : Type) := Value → α → Prop

namespace Form
open JsonSchema (Schema)
variable {α β : Type}

/-- The reader finds what the value stands for. -/
def Reads (form : Form α) (read : Value → Option α) : Prop :=
  ∀ value a, read value = some a ↔ form value a

/-- The schema accepts the values that stand for something. -/
def Describes (form : Form α) (schema : Schema) : Prop :=
  ∀ value, schema value = true ↔ ∃ a, form value a

variable {form : Form α} {read : Value → Option α} {schema : Schema}
  {fields : List (String × Value)} {key : String} {value : Value}

/-- A reader and a schema of one form accept the same values. -/
theorem isSome_iff (hread : form.Reads read) (hschema : form.Describes schema) (value : Value) :
    (read value).isSome = true ↔ schema value = true := by
  rw [hschema, Option.isSome_iff_exists]
  exact exists_congr fun a => hread value a

def Required (form : Form α) (fields : List (String × Value)) (key : String) (a : α) : Prop :=
  ∃ value, List.lookup key fields = some value ∧ form value a

def Optional (form : Form α) (fields : List (String × Value)) (key : String) : Option α → Prop
  | none => List.lookup key fields = none
  | some a => form.Required fields key a

theorem Reads.required (h : form.Reads read) {a : α} :
    JsonTree.required fields key read = some a ↔ form.Required fields key a := by
  rw [JsonTree.required, Option.bind_eq_some_iff]
  exact exists_congr fun value => and_congr_right fun _ => h value a

theorem Reads.optional (h : form.Reads read) {a : Option α} :
    JsonTree.optional fields key read = some a ↔ form.Optional fields key a := by
  unfold JsonTree.optional
  cases hlookup : List.lookup key fields with
  | none =>
    cases a with
    | none => simp [Optional, hlookup]
    | some a => simp [Optional, Required, hlookup]
  | some value =>
    cases a with
    | none => simp [Optional, hlookup]
    | some a => simp [Optional, Required, hlookup, h value a]

theorem Describes.required (h : form.Describes schema) :
    (List.lookup key fields).isSome = true ∧ (List.lookup key fields).all schema = true ↔
      ∃ a, form.Required fields key a := by
  unfold Required
  cases List.lookup key fields with
  | none => simp
  | some value =>
    rw [Option.all_some, h value]
    simp

theorem Describes.optional (h : form.Describes schema) :
    (List.lookup key fields).all schema = true ↔ ∃ a, form.Optional fields key a := by
  cases hlookup : List.lookup key fields with
  | none => exact ⟨fun _ => ⟨none, hlookup⟩, fun _ => rfl⟩
  | some value =>
    rw [Option.all_some, h value]
    constructor
    · rintro ⟨a, ha⟩
      exact ⟨some a, value, hlookup, ha⟩
    · rintro ⟨_ | a, ha⟩
      · exact absurd (hlookup.symm.trans ha) (Option.some_ne_none value)
      · obtain ⟨other, hother, ha⟩ := ha
        obtain rfl := Option.some.inj (hlookup.symm.trans hother)
        exact ⟨a, ha⟩

theorem Required.isSome {a : α} (h : form.Required fields key a) :
    (List.lookup key fields).isSome = true := by
  obtain ⟨value, hlookup, -⟩ := h
  rw [hlookup]
  rfl

theorem Optional.isSome {a : Option α} (h : form.Optional fields key a) :
    (List.lookup key fields).isSome = a.isSome := by
  cases a with
  | none => exact congrArg Option.isSome h
  | some a => exact Required.isSome h

/-- A keyword that is another reading of the form says of a field what it says of its value. -/
theorem Required.all {a : α} {p : α → Prop} [DecidablePred p] (h : form.Required fields key a)
    (hkeyword : ∀ value, form value a → (schema value = true ↔ p a)) :
    (List.lookup key fields).all schema = decide (p a) := by
  obtain ⟨value, hlookup, hform⟩ := h
  rw [hlookup, Option.all_some, Bool.eq_iff_iff, hkeyword value hform, decide_eq_true_iff]

/-! Forms of texts, numbers and arrays, with what reads and what describes them. -/

def text (check : String → Bool) : Form String := fun value s => value = .str s ∧ check s = true

def flag : Form Bool := fun value b => value = .bool b

/-- The integers from one bound to another. -/
def natural (min max : ℕ) : Form ℕ := fun value n =>
  value = .num (.finite n) ∧ min ≤ n ∧ n ≤ max

/-- Texts that stand for something. -/
def member (members : List (String × α)) : Form α := fun value a =>
  ∃ s, value = .str s ∧ (s, a) ∈ members

/-- An array of things of a form. -/
def array (form : Form α) (max : ℕ) : Form (List α) := fun value values =>
  ∃ items, value = .arr items ∧ List.Forall₂ form items values ∧ items.length ≤ max

theorem flag_describes : Describes flag JsonSchema.isBoolean := by
  intro value
  cases value <;> simp [flag, JsonSchema.isBoolean]

theorem text_describes (check : String → Bool) : Describes (text check)
    (JsonSchema.allOf [JsonSchema.isString, JsonSchema.satisfies check]) := by
  intro value
  cases value <;> simp [text, JsonSchema.allOf, JsonSchema.isString, JsonSchema.satisfies]

theorem natural_describes (min max : ℕ) : Describes (natural min max) (JsonSchema.allOf
    [JsonSchema.isInteger, JsonSchema.minimum min, JsonSchema.maximum max]) := by
  intro value
  cases value with
  | num n =>
    cases n with
    | infinite negative =>
      simp [natural, JsonSchema.allOf, JsonSchema.isInteger]
    | finite q =>
      simp only [JsonSchema.allOf, List.all_cons, List.all_nil, JsonSchema.isInteger,
        JsonSchema.minimum, JsonSchema.maximum, Bool.and_true, Bool.and_eq_true,
        decide_eq_true_eq, natural, JsonTree.num.injEq, Number.finite.injEq]
      constructor
      · rintro ⟨hden, hmin, hmax⟩
        have hq : ((q.num : ℤ) : ℚ) = q := Rat.coe_int_num_of_den_eq_one hden
        have hmin' : (min : ℤ) ≤ q.num := by exact_mod_cast hq ▸ hmin
        have hmax' : q.num ≤ (max : ℤ) := by exact_mod_cast hq ▸ hmax
        have hnat : ((q.num.toNat : ℕ) : ℤ) = q.num := Int.toNat_of_nonneg (by omega)
        refine ⟨q.num.toNat, ?_, by omega, by omega⟩
        rw [← hq, ← hnat]
        rfl
      · rintro ⟨n, rfl, hmin, hmax⟩
        exact ⟨Rat.den_natCast n, by exact_mod_cast hmin, by exact_mod_cast hmax⟩
  | null => simp [natural, JsonSchema.allOf, JsonSchema.isInteger]
  | bool b => simp [natural, JsonSchema.allOf, JsonSchema.isInteger]
  | str s => simp [natural, JsonSchema.allOf, JsonSchema.isInteger]
  | arr items => simp [natural, JsonSchema.allOf, JsonSchema.isInteger]
  | obj fields => simp [natural, JsonSchema.allOf, JsonSchema.isInteger]

theorem member_describes (members : List (String × α)) : Describes (member members)
    (JsonSchema.enum (members.map fun named => .str named.1)) := by
  intro value
  rw [JsonSchema.enum, List.any_map, List.any_eq_true]
  constructor
  · rintro ⟨⟨s, a⟩, hmem, hequal⟩
    exact ⟨a, s, JsonTree.equal_str.mp hequal, hmem⟩
  · rintro ⟨a, s, rfl, hmem⟩
    exact ⟨(s, a), hmem, JsonTree.equal_str.mpr rfl⟩

/-- A text of a table stands for what the table says. -/
theorem eq_str_of_member {members : List (String × α)} (hkeys : (members.map Prod.fst).Nodup)
    (hvalues : (members.map Prod.snd).Nodup) {s : String} {a b : α} (hmem : (s, a) ∈ members)
    (h : member members value b) : value = .str s ↔ b = a := by
  obtain ⟨t, rfl, ht⟩ := h
  constructor
  · intro heq
    cases heq
    exact (Prod.ext_iff.mp (List.inj_on_of_nodup_map hkeys ht hmem rfl)).2
  · rintro rfl
    have hsame : t = s := (Prod.ext_iff.mp (List.inj_on_of_nodup_map hvalues ht hmem rfl)).1
    rw [hsame]

theorem eq_num_of_natural {min max n m : ℕ} (h : natural min max value n) :
    value = .num (.finite m) ↔ n = m := by
  rw [h.1]
  simp

theorem minimum_of_natural {min max n m : ℕ} (h : natural min max value n) :
    JsonSchema.allOf [JsonSchema.minimum m, JsonSchema.isInteger] value = true ↔ m ≤ n := by
  rw [h.1]
  simp [JsonSchema.minimum, JsonSchema.isInteger]

theorem exists_of_forall₂ {items : List Value} {values : List α}
    (h : List.Forall₂ form items values) (hmem : value ∈ items) : ∃ a ∈ values, form value a := by
  induction h with
  | nil => cases hmem
  | cons hitem hrest ih =>
    rcases List.mem_cons.mp hmem with rfl | hmem
    · exact ⟨_, List.mem_cons_self, hitem⟩
    · obtain ⟨a, ha, hform⟩ := ih hmem
      exact ⟨a, List.mem_cons_of_mem _ ha, hform⟩

theorem array_describes (h : form.Describes schema) (max : ℕ) : Describes (form.array max)
    (JsonSchema.allOf [JsonSchema.isArray, JsonSchema.maxItems max, JsonSchema.items schema]) := by
  have hitems : ∀ items : List Value, items.all schema = true ↔
      ∃ values, List.Forall₂ form items values := by
    intro items
    induction items with
    | nil => simp
    | cons item items ih =>
      rw [List.all_cons, Bool.and_eq_true, h item, ih]
      constructor
      · rintro ⟨⟨a, ha⟩, values, hvalues⟩
        exact ⟨a :: values, .cons ha hvalues⟩
      · rintro ⟨_, hvalues⟩
        cases hvalues with
        | cons ha hrest => exact ⟨⟨_, ha⟩, _, hrest⟩
  intro value
  cases value with
  | arr items =>
    simp only [JsonSchema.allOf, List.all_cons, List.all_nil, JsonSchema.isArray,
      JsonSchema.maxItems, JsonSchema.items, Bool.and_true, Bool.true_and, Bool.and_eq_true,
      decide_eq_true_eq, hitems]
    constructor
    · rintro ⟨hmax, values, hvalues⟩
      exact ⟨values, items, rfl, hvalues, hmax⟩
    · rintro ⟨values, _, heq, hvalues, hmax⟩
      cases heq
      exact ⟨hmax, values, hvalues⟩
  | null => simp [array, JsonSchema.allOf, JsonSchema.isArray]
  | bool b => simp [array, JsonSchema.allOf, JsonSchema.isArray]
  | num n => simp [array, JsonSchema.allOf, JsonSchema.isArray]
  | str s => simp [array, JsonSchema.allOf, JsonSchema.isArray]
  | obj fields => simp [array, JsonSchema.allOf, JsonSchema.isArray]

/-- A text that passes a check. -/
def readText (check : String → Bool) (value : Value) : Option String :=
  value.string?.bind fun s => if check s then some s else none

/-- An integer from one bound to another. -/
def readNatural (min max : ℕ) (value : Value) : Option ℕ :=
  (value.num?.bind Number.safeInteger?).bind fun n =>
    if min ≤ n ∧ n ≤ max then some n.toNat else none

/-- One of some texts, each with what it stands for. -/
def readMember (members : List (String × α)) (value : Value) : Option α :=
  value.string?.bind (List.lookup · members)

/-- An array of bounded length. -/
def readArray (read : Value → Option α) (max : ℕ) (value : Value) : Option (List α) :=
  (value.list? read).filter fun values => values.length ≤ max

/-- An object with no other keys. -/
def readStrict (keys : List String) (value : Value) : Option (List (String × Value)) :=
  value.fields?.filter fun fields => fields.all fun field => field.1 ∈ keys

theorem flag_reads : Reads flag JsonTree.bool? := by
  intro value b
  cases value <;> simp [flag, JsonTree.bool?]

theorem text_reads (check : String → Bool) : Reads (text check) (readText check) := by
  intro value s
  unfold readText
  rw [Option.bind_eq_some_iff]
  constructor
  · rintro ⟨s', hs', h⟩
    split_ifs at h with hcheck
    obtain rfl := Option.some.inj h
    exact ⟨JsonTree.string?_eq_some.mp hs', hcheck⟩
  · rintro ⟨rfl, hcheck⟩
    exact ⟨s, rfl, if_pos hcheck⟩

theorem natural_reads {min max : ℕ} (hmax : max ≤ 9007199254740991) :
    Reads (natural min max) (readNatural min max) := by
  intro value n
  unfold readNatural
  rw [Option.bind_eq_some_iff]
  constructor
  · rintro ⟨z, hz, h⟩
    obtain ⟨number, hnumber, hsafe⟩ := Option.bind_eq_some_iff.mp hz
    split_ifs at h with hrange
    obtain rfl := Option.some.inj h
    cases value with
    | num m =>
      obtain rfl := Option.some.inj hnumber
      cases m with
      | infinite negative => cases hsafe
      | finite q =>
        unfold Number.safeInteger? at hsafe
        dsimp only at hsafe
        split_ifs at hsafe with hden
        obtain rfl := Option.some.inj hsafe
        have hq : ((q.num : ℤ) : ℚ) = q := Rat.coe_int_num_of_den_eq_one hden.1
        have hnat : ((q.num.toNat : ℕ) : ℤ) = q.num := Int.toNat_of_nonneg (by omega)
        refine ⟨?_, by omega, by omega⟩
        have hcast : ((q.num.toNat : ℕ) : ℚ) = q := by rw [← Int.cast_natCast, hnat, hq]
        rw [hcast]
    | null => cases hnumber
    | bool b => cases hnumber
    | str s => cases hnumber
    | arr items => cases hnumber
    | obj fields => cases hnumber
  · rintro ⟨rfl, hlow, hhigh⟩
    refine ⟨n, ?_, ?_⟩
    · have hnum : ((n : ℚ)).num = n := Rat.num_natCast n
      have hsafe : ((n : ℚ)).num.natAbs ≤ 9007199254740991 := by
        rw [hnum]
        omega
      exact Option.bind_eq_some_iff.mpr ⟨.finite n, rfl,
        (if_pos ⟨Rat.den_natCast n, hsafe⟩).trans (congrArg some hnum)⟩
    · rw [if_pos ⟨by exact_mod_cast hlow, by exact_mod_cast hhigh⟩]
      rfl

theorem lookup_eq_some {members : List (String × α)} (h : (members.map Prod.fst).Nodup)
    {s : String} {a : α} : List.lookup s members = some a ↔ (s, a) ∈ members := by
  induction members with
  | nil => simp
  | cons named members ih =>
    obtain ⟨t, b⟩ := named
    obtain ⟨hfirst, hrest⟩ := List.nodup_cons.mp h
    rw [List.lookup_cons, List.mem_cons]
    by_cases heq : s = t
    · subst heq
      have hnone : (s, a) ∉ members := fun hmem =>
        hfirst (List.mem_map.mpr ⟨_, hmem, rfl⟩)
      simp [hnone, @eq_comm _ a]
    · have hne : (s == t) = false := beq_eq_false_iff_ne.mpr heq
      rw [hne, ih hrest]
      simp [heq]

theorem member_reads {members : List (String × α)} (h : (members.map Prod.fst).Nodup) :
    Reads (member members) (readMember members) := by
  intro value a
  unfold readMember
  rw [Option.bind_eq_some_iff]
  refine exists_congr fun s => and_congr JsonTree.string?_eq_some (lookup_eq_some h)

theorem array_reads (h : form.Reads read) (max : ℕ) :
    Reads (form.array max) (readArray read max) := by
  intro value values
  unfold readArray JsonTree.list?
  rw [Option.filter_eq_some_iff, Option.bind_eq_some_iff, decide_eq_true_iff]
  constructor
  · rintro ⟨⟨items, hitems, hread⟩, hmax⟩
    have hforall := JsonTree.mapM_eq_some.mp hread
    exact ⟨items, JsonTree.items?_eq_some.mp hitems, hforall.imp fun item a => (h item a).mp,
      hforall.length_eq ▸ hmax⟩
  · rintro ⟨items, rfl, hforall, hmax⟩
    exact ⟨⟨items, rfl, JsonTree.mapM_eq_some.mpr (hforall.imp fun item a => (h item a).mpr)⟩,
      hforall.length_eq ▸ hmax⟩

end Form

end CSO.JS
