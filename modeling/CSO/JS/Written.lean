import CSO.JS.Form

/-! Documents as a program writes them, and what reads them back. -/
namespace CSO.JS

/-- An integer as JSON writes it. -/
def integer (n : ℤ) : Document := .num ⟨decide (n < 0), n.natAbs, none, none⟩

theorem integer?_integer (n : ℤ) :
    (⟨decide (n < 0), n.natAbs, none, none⟩ : NumberLiteral).integer? = some n := by
  simp only [NumberLiteral.integer?, decide_eq_true_eq, Option.some.injEq]
  split_ifs <;> omega

/-! What a reader makes of what was written. -/

/-- The reader accepts where the condition holds, and then reads this. -/
def Yields {α : Type} (read : Option α) (condition : Prop) (a : α) : Prop :=
  ∀ b, read = some b ↔ condition ∧ a = b

namespace Yields
variable {α β : Type} {x : Option α} {f : α → Option β} {p q : Prop} {a : α} {b : β}

theorem bind (h : Yields x p a) (hf : Yields (f a) q b) : Yields (x >>= f) (p ∧ q) b := by
  intro c
  rw [Option.bind_eq_bind, Option.bind_eq_some_iff]
  constructor
  · rintro ⟨a', ha', hc⟩
    obtain ⟨hp, rfl⟩ := (h a').mp ha'
    obtain ⟨hq, rfl⟩ := (hf c).mp hc
    exact ⟨⟨hp, hq⟩, rfl⟩
  · rintro ⟨⟨hp, hq⟩, rfl⟩
    exact ⟨a, (h a).mpr ⟨hp, rfl⟩, (hf b).mpr ⟨hq, rfl⟩⟩

theorem pure (a : α) : Yields (Pure.pure a) True a := fun b => by simp

theorem congr (h : Yields x p a) (hpq : p ↔ q) : Yields x q a := fun b => by rw [h b, hpq]

theorem required {fields : List (String × Value)} {key : String} {value : Value}
    {read : Value → Option α} (hlookup : List.lookup key fields = some value)
    (h : Yields (read value) p a) : Yields (JsonTree.required fields key read) p a := by
  intro b
  rw [JsonTree.required, hlookup, Option.bind_some]
  exact h b

end Yields

theorem readText_str {s : String} (check : String → Bool) :
    Yields (Form.readText check (.str s)) (check s = true) s := by
  intro t
  simp [Form.readText, JsonTree.string?]

theorem readStrict_obj {keys : List String} {fields : List (String × Value)}
    (h : fields.map Prod.fst = keys) :
    Yields (Form.readStrict keys (.obj fields)) True fields := by
  intro fields'
  have hall : (fields.all fun field => field.1 ∈ keys) = true := by
    rw [List.all_eq_true]
    intro field hmem
    exact decide_eq_true (h ▸ List.mem_map_of_mem hmem)
  simp [Form.readStrict, JsonTree.fields?, Option.filter, hall]

/-- `z.literal`. -/
def literal (text : String) (value : Value) : Option Unit :=
  value.string?.bind fun s => if s = text then some () else none

theorem literal_str {s : String} : Yields (literal s (.str s)) True () := by
  intro u
  simp [literal, JsonTree.string?]

end CSO.JS
