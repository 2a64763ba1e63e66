import Mathlib
import CSO.JS.Quote
import CSO.JS.Utf16
import CSO.Transition.Ranking

/-! JSON texts: what they say, whatever the order of an object's keys. -/
namespace CSO.JS

/-! The text of a document, read back. -/

/-- The characters of numbers. -/
def isNumeric (c : Char) : Bool := c.isDigit || c == '-'

/-- No number goes on here. -/
def Delimited (rest : List Char) : Prop := ∀ c ∈ rest.head?, isNumeric c = false

theorem append_inj_of_delimited {left right x y : List Char} (hleft : left.all isNumeric = true)
    (hright : right.all isNumeric = true) (hx : Delimited x) (hy : Delimited y)
    (h : left ++ x = right ++ y) : left = right ∧ x = y := by
  induction left generalizing right with
  | nil =>
    cases right with
    | nil => exact ⟨rfl, h⟩
    | cons d right =>
      rw [List.all_cons, Bool.and_eq_true] at hright
      have hd := hx d (by rw [show x = d :: (right ++ y) from h]; rfl)
      exact absurd hright.1 (by rw [hd]; decide)
  | cons c left ih =>
    rw [List.all_cons, Bool.and_eq_true] at hleft
    cases right with
    | nil =>
      have hc := hy c (by rw [show y = c :: (left ++ x) from h.symm]; rfl)
      exact absurd hleft.1 (by rw [hc]; decide)
    | cons d right =>
      rw [List.all_cons, Bool.and_eq_true] at hright
      obtain ⟨rfl, hrest⟩ := List.cons.inj h
      obtain ⟨rfl, hxy⟩ := ih hleft.2 hright.2 hrest
      exact ⟨rfl, hxy⟩

theorem isNumeric_repr (n : ℕ) : n.repr.toList.all isNumeric = true := by
  rw [List.all_eq_true]
  intro c hc
  have hmem : c ∈ Nat.toDigits 10 n := by simpa using hc
  have hdigit : c.isDigit = true := Nat.isDigit_of_mem_toDigits (by decide) le_rfl hmem
  rw [isNumeric, hdigit, Bool.true_or]

theorem isNumeric_toString (n : ℤ) : (toString n).toList.all isNumeric = true := by
  cases n with
  | ofNat n => exact isNumeric_repr n
  | negSucc n =>
    rw [show toString (Int.negSucc n) = "-" ++ (n + 1).repr from rfl, String.toList_append,
      List.all_append, isNumeric_repr]
    rfl

/-- How the text of a value begins. -/
def Json.begins (c : Char) : Json → Bool
  | .null => c == 'n'
  | .bool _ => c == 't' || c == 'f'
  | .num _ => isNumeric c
  | .str _ => c == '"'
  | .arr _ => c == '['
  | .obj _ => c == '\x7b'

theorem head?_toString (n : ℤ) : ∃ c ∈ (toString n).toList.head?, isNumeric c = true := by
  have hall := isNumeric_toString n
  cases htext : (toString n).toList with
  | nil =>
    cases n with
    | ofNat n =>
      have hrepr : n.repr.toList = [] := htext
      rw [Nat.toList_repr] at hrepr
      exact absurd hrepr Nat.toDigits_ne_nil
    | negSucc n =>
      have hsign : ("-" ++ (n + 1).repr).toList = [] := htext
      simp at hsign
  | cons c cs =>
    rw [htext, List.all_cons, Bool.and_eq_true] at hall
    exact ⟨c, rfl, hall.1⟩

theorem begins_stringify (value : Json) :
    ∃ c ∈ value.stringify.toList.head?, value.begins c = true := by
  cases value with
  | null => exact ⟨'n', rfl, rfl⟩
  | bool b => cases b <;> exact ⟨_, rfl, rfl⟩
  | num n => exact head?_toString n
  | str s => exact ⟨'"', by simp [Json.stringify, quote], rfl⟩
  | arr items => exact ⟨'[', by simp [Json.stringify], rfl⟩
  | obj fields => exact ⟨'\x7b', by simp [Json.stringify], rfl⟩

/-- Two texts that begin alike are of values of one kind. -/
inductive Json.Alike : Json → Json → Prop
  | null : Alike .null .null
  | bool (b b' : Bool) : Alike (.bool b) (.bool b')
  | num (n n' : ℤ) : Alike (.num n) (.num n')
  | str (s s' : String) : Alike (.str s) (.str s')
  | arr (items items' : List Json) : Alike (.arr items) (.arr items')
  | obj (fields fields' : List (String × Json)) : Alike (.obj fields) (.obj fields')

theorem alike_of_begins {c : Char} {a b : Json} (ha : a.begins c = true) (hb : b.begins c = true) :
    a.Alike b := by
  cases a <;> cases b <;> first
    | constructor
    | (exfalso
       simp only [Json.begins, Bool.or_eq_true, beq_iff_eq] at ha hb
       first
         | (subst ha; revert hb; decide)
         | (subst hb; revert ha; decide)
         | (rcases ha with rfl | rfl <;> revert hb <;> decide)
         | (rcases hb with rfl | rfl <;> revert ha <;> decide))

theorem alike_of_stringify {a b : Json} {x y : List Char}
    (h : a.stringify.toList ++ x = b.stringify.toList ++ y) : a.Alike b := by
  obtain ⟨c, hc, ha⟩ := begins_stringify a
  obtain ⟨d, hd, hb⟩ := begins_stringify b
  have hhead : (a.stringify.toList ++ x).head? = some c := by
    rw [List.head?_append, show a.stringify.toList.head? = some c from hc]
    rfl
  rw [h, List.head?_append, show b.stringify.toList.head? = some d from hd] at hhead
  cases hhead
  exact alike_of_begins ha hb

/-- What follows the first item of an array. -/
def restItems : List Json → List Char
  | [] => [']']
  | item :: items => ',' :: (item.stringify.toList ++ restItems items)

def restFields : List (String × Json) → List Char
  | [] => ['\x7d']
  | (key, value) :: fields =>
    ',' :: ((quote key).toList ++ ':' :: (value.stringify.toList ++ restFields fields))

theorem toList_items (item : Json) (items : List Json) :
    (",".intercalate (Json.stringifyItems (item :: items))).toList ++ [']'] =
      item.stringify.toList ++ restItems items := by
  induction items generalizing item with
  | nil => simp [Json.stringifyItems, restItems]
  | cons next items ih =>
    have hnext := ih next
    simp only [Json.stringifyItems, String.intercalate_cons_cons, String.toList_append,
      List.append_assoc] at hnext ⊢
    rw [hnext]
    rfl

theorem toList_fields (key : String) (value : Json) (fields : List (String × Json)) :
    (",".intercalate (Json.stringifyFields ((key, value) :: fields))).toList ++ ['\x7d'] =
      (quote key).toList ++ ':' :: (value.stringify.toList ++ restFields fields) := by
  induction fields generalizing key value with
  | nil => simp [Json.stringifyFields, restFields]
  | cons field fields ih =>
    have hnext := ih field.1 field.2
    simp only [Json.stringifyFields, String.intercalate_cons_cons, String.toList_append,
      List.append_assoc] at hnext ⊢
    rw [hnext]
    rfl

theorem delimited_restItems (items : List Json) (x : List Char) : Delimited (restItems items ++ x) := by
  cases items with
  | nil => rintro c ⟨⟩; rfl
  | cons item items => rintro c ⟨⟩; rfl

theorem delimited_restFields (fields : List (String × Json)) (x : List Char) :
    Delimited (restFields fields ++ x) := by
  cases fields with
  | nil => rintro c ⟨⟩; rfl
  | cons field fields => rintro c ⟨⟩; rfl

theorem toList_quote_inj {left right : String} {x y : List Char}
    (h : (quote left).toList ++ x = (quote right).toList ++ y) : left = right ∧ x = y := by
  have htext : quote left ++ String.ofList x = quote right ++ String.ofList y := by
    rw [← String.toList_inj, String.toList_append, String.toList_append, String.toList_ofList,
      String.toList_ofList, h]
  obtain ⟨hkey, hrest⟩ := quote_append_inj htext
  exact ⟨hkey, String.ofList_injective hrest⟩

theorem toList_arr (items : List Json) : (Json.arr items).stringify.toList =
    '[' :: match items with
      | [] => [']']
      | item :: items => item.stringify.toList ++ restItems items := by
  cases items with
  | nil => rfl
  | cons item items =>
    show _ = '[' :: (item.stringify.toList ++ restItems items)
    rw [← toList_items]
    simp [Json.stringify]

theorem toList_obj (fields : List (String × Json)) : (Json.obj fields).stringify.toList =
    '\x7b' :: match fields with
      | [] => ['\x7d']
      | (key, value) :: fields =>
        (quote key).toList ++ ':' :: (value.stringify.toList ++ restFields fields) := by
  cases fields with
  | nil => rfl
  | cons field fields =>
    show _ = '\x7b' :: ((quote field.1).toList ++
      ':' :: (field.2.stringify.toList ++ restFields fields))
    rw [← toList_fields]
    simp [Json.stringify]

theorem stringify_ne_bracket (value : Json) (x y : List Char) :
    value.stringify.toList ++ x ≠ ']' :: y := by
  intro h
  obtain ⟨c, hc, hbegins⟩ := begins_stringify value
  have hhead : (value.stringify.toList ++ x).head? = some c := by
    rw [List.head?_append, show value.stringify.toList.head? = some c from hc]
    rfl
  rw [h] at hhead
  cases hhead
  have hbracket : value.begins ']' = false := by cases value <;> rfl
  exact absurd hbegins (by rw [hbracket]; decide)

theorem quote_ne_brace (key : String) (x y : List Char) : (quote key).toList ++ x ≠ '\x7d' :: y := by
  simp [quote]

mutual

/-- A text says what its value is, and where it ends. -/
theorem stringify_append_inj (a b : Json) {x y : List Char} (hx : Delimited x) (hy : Delimited y)
    (h : a.stringify.toList ++ x = b.stringify.toList ++ y) : a = b ∧ x = y := by
  cases alike_of_stringify h with
  | null => exact ⟨rfl, List.append_cancel_left h⟩
  | bool b b' =>
    cases b <;> cases b'
    · exact ⟨rfl, List.append_cancel_left h⟩
    · cases h
    · cases h
    · exact ⟨rfl, List.append_cancel_left h⟩
  | num n n' =>
    obtain ⟨htext, hxy⟩ :=
      append_inj_of_delimited (isNumeric_toString n) (isNumeric_toString n') hx hy h
    exact ⟨congrArg Json.num (Int.repr_injective (String.toList_inj.mp htext)), hxy⟩
  | str s s' =>
    obtain ⟨rfl, hxy⟩ := toList_quote_inj h
    exact ⟨rfl, hxy⟩
  | arr items items' =>
    rw [toList_arr, toList_arr, List.cons_append, List.cons_append, List.cons.injEq] at h
    match items, items' with
    | [], [] => exact ⟨rfl, (List.cons.inj h.2).2⟩
    | [], item :: items => exact absurd h.2.symm (by
        rw [List.append_assoc]
        exact stringify_ne_bracket item _ _)
    | item :: items, [] => exact absurd h.2 (by
        rw [List.append_assoc]
        exact stringify_ne_bracket item _ _)
    | item :: items, item' :: items' =>
      have hitems := h.2
      rw [List.append_assoc, List.append_assoc] at hitems
      obtain ⟨rfl, hrest⟩ := stringify_append_inj item item' (delimited_restItems items x)
        (delimited_restItems items' y) hitems
      obtain ⟨rfl, hxy⟩ := restItems_append_inj items items' hrest
      exact ⟨rfl, hxy⟩
  | obj fields fields' =>
    rw [toList_obj, toList_obj, List.cons_append, List.cons_append, List.cons.injEq] at h
    match fields, fields' with
    | [], [] => exact ⟨rfl, (List.cons.inj h.2).2⟩
    | [], (key, value) :: fields => exact absurd h.2.symm (by
        rw [List.append_assoc]
        exact quote_ne_brace key _ _)
    | (key, value) :: fields, [] => exact absurd h.2 (by
        rw [List.append_assoc]
        exact quote_ne_brace key _ _)
    | (key, value) :: fields, (key', value') :: fields' =>
      have hfields := h.2
      rw [List.append_assoc, List.append_assoc] at hfields
      obtain ⟨rfl, hvalue⟩ := toList_quote_inj hfields
      rw [List.cons_append, List.cons_append, List.cons.injEq, List.append_assoc,
        List.append_assoc] at hvalue
      obtain ⟨rfl, hrest⟩ := stringify_append_inj value value' (delimited_restFields fields x)
        (delimited_restFields fields' y) hvalue.2
      obtain ⟨rfl, hxy⟩ := restFields_append_inj fields fields' hrest
      exact ⟨rfl, hxy⟩

theorem restItems_append_inj (items items' : List Json) {x y : List Char}
    (h : restItems items ++ x = restItems items' ++ y) : items = items' ∧ x = y := by
  match items, items' with
  | [], [] => exact ⟨rfl, List.append_cancel_left h⟩
  | [], item :: items => cases h
  | item :: items, [] => cases h
  | item :: items, item' :: items' =>
    simp only [restItems, List.cons_append, List.append_assoc, List.cons.injEq, true_and] at h
    obtain ⟨rfl, hrest⟩ := stringify_append_inj item item' (delimited_restItems items x)
      (delimited_restItems items' y) h
    obtain ⟨rfl, hxy⟩ := restItems_append_inj items items' hrest
    exact ⟨rfl, hxy⟩

theorem restFields_append_inj (fields fields' : List (String × Json)) {x y : List Char}
    (h : restFields fields ++ x = restFields fields' ++ y) : fields = fields' ∧ x = y := by
  match fields, fields' with
  | [], [] => exact ⟨rfl, List.append_cancel_left h⟩
  | [], (key, value) :: fields => cases h
  | (key, value) :: fields, [] => cases h
  | (key, value) :: fields, (key', value') :: fields' =>
    simp only [restFields, List.cons_append, List.append_assoc, List.cons.injEq, true_and] at h
    obtain ⟨rfl, hvalue⟩ := toList_quote_inj h
    rw [List.cons.injEq] at hvalue
    obtain ⟨rfl, hrest⟩ := stringify_append_inj value value' (delimited_restFields fields x)
      (delimited_restFields fields' y) hvalue.2
    obtain ⟨rfl, hxy⟩ := restFields_append_inj fields fields' hrest
    exact ⟨rfl, hxy⟩

end

theorem stringify_injective : Function.Injective Json.stringify := by
  intro a b h
  have hnone : Delimited [] := fun c hc => absurd hc (by simp)
  exact (stringify_append_inj a b hnone hnone (by rw [h])).1

/-! The order of keys. -/

/-- The fields in the order of their keys. -/
def sortFields {α : Type} (fields : List (String × α)) : List (String × α) :=
  fields.insertionSort fun left right => notAfter left.1 right.1

mutual

/-- The document with the keys of every object in order. -/
def Json.canonical : Json → Json
  | .arr items => .arr (canonicalItems items)
  | .obj fields => .obj (sortFields (canonicalFields fields))
  | value => value

def canonicalItems : List Json → List Json
  | [] => []
  | item :: items => item.canonical :: canonicalItems items

def canonicalFields : List (String × Json) → List (String × Json)
  | [] => []
  | (key, value) :: fields => (key, value.canonical) :: canonicalFields fields

end

mutual

/-- No object has a key twice. -/
def Json.Keyed : Json → Prop
  | .arr items => KeyedItems items
  | .obj fields => (fields.map Prod.fst).Nodup ∧ KeyedFields fields
  | _ => True

def KeyedItems : List Json → Prop
  | [] => True
  | item :: items => item.Keyed ∧ KeyedItems items

def KeyedFields : List (String × Json) → Prop
  | [] => True
  | (_, value) :: fields => value.Keyed ∧ KeyedFields fields

end

/-- The same document but for the order of keys, in any of its objects. -/
inductive Json.Reordered : Json → Json → Prop
  | refl (value : Json) : Reordered value value
  | trans {a b c : Json} : Reordered a b → Reordered b c → Reordered a c
  | keys {fields fields' : List (String × Json)} :
      fields.Perm fields' → Reordered (.obj fields) (.obj fields')
  | item (before after : List Json) {a b : Json} :
      Reordered a b → Reordered (.arr (before ++ a :: after)) (.arr (before ++ b :: after))
  | field (before after : List (String × Json)) (key : String) {a b : Json} :
      Reordered a b →
        Reordered (.obj (before ++ (key, a) :: after)) (.obj (before ++ (key, b) :: after))

theorem canonicalItems_eq (items : List Json) : canonicalItems items = items.map Json.canonical := by
  induction items with
  | nil => rfl
  | cons item items ih => rw [canonicalItems, ih, List.map_cons]

theorem canonicalFields_eq (fields : List (String × Json)) :
    canonicalFields fields = fields.map fun field => (field.1, field.2.canonical) := by
  induction fields with
  | nil => rfl
  | cons field fields ih => rw [canonicalFields, ih, List.map_cons]

theorem keyedItems_iff (items : List Json) : KeyedItems items ↔ ∀ item ∈ items, item.Keyed := by
  induction items with
  | nil => exact ⟨fun _ _ hmem => absurd hmem List.not_mem_nil, fun _ => trivial⟩
  | cons item items ih => rw [KeyedItems, ih, List.forall_mem_cons]

theorem keyedFields_iff (fields : List (String × Json)) :
    KeyedFields fields ↔ ∀ field ∈ fields, field.2.Keyed := by
  induction fields with
  | nil => exact ⟨fun _ _ hmem => absurd hmem List.not_mem_nil, fun _ => trivial⟩
  | cons field fields ih => rw [KeyedFields, ih, List.forall_mem_cons]

theorem notAfter_iff (left right : String) :
    notAfter left right = true ↔ codeUnits left ≤ codeUnits right := by
  rw [notAfter, decide_eq_true_eq]

theorem sort_notAfter {α : Type} (key : α → String) (l : List α) :
    (l.insertionSort fun left right => notAfter (key left) (key right)) =
      Transition.ranked (fun a => codeUnits (key a)) l := by
  unfold Transition.ranked
  have hrel : (fun left right : α => notAfter (key left) (key right) = true) =
      fun left right => codeUnits (key left) ≤ codeUnits (key right) :=
    funext₂ fun left right => propext (notAfter_iff (key left) (key right))
  congr

theorem sortFields_eq {α : Type} (fields : List (String × α)) :
    sortFields fields = Transition.ranked (fun field => codeUnits field.1) fields :=
  sort_notAfter Prod.fst fields

variable {α β : Type} {fields fields' : List (String × α)}

theorem sortFields_perm (fields : List (String × α)) : (sortFields fields).Perm fields := by
  rw [sortFields_eq]
  exact Transition.ranked_perm _ fields

theorem sortFields_eq_of_perm (h : (fields.map Prod.fst).Nodup) (hperm : fields.Perm fields') :
    sortFields fields = sortFields fields' := by
  rw [sortFields_eq, sortFields_eq]
  refine Transition.ranked_eq_of_perm ?_ hperm
  have hcodes := h.map codeUnits_injective
  rwa [List.map_map] at hcodes

theorem sortFields_map (f : α → β) (fields : List (String × α)) :
    (sortFields fields).map (fun field => (field.1, f field.2)) =
      sortFields (fields.map fun field => (field.1, f field.2)) := by
  rw [sortFields_eq, sortFields_eq]
  exact Transition.ranked_map fun _ _ => rfl

theorem Json.Reordered.symm {a b : Json} (h : a.Reordered b) : b.Reordered a := by
  induction h with
  | refl value => exact .refl value
  | trans _ _ ih ih' => exact ih'.trans ih
  | keys hperm => exact .keys hperm.symm
  | item before after _ ih => exact .item before after ih
  | field before after key _ ih => exact .field before after key ih

theorem nodup_sortFields_keys {fields : List (String × Json)} (h : (fields.map Prod.fst).Nodup) :
    ((canonicalFields fields).map Prod.fst).Nodup := by
  rw [canonicalFields_eq, List.map_map]
  exact h

/-- Reordered keys are distinct still, and in order they are the same. -/
theorem Json.Reordered.canonical_eq {a b : Json} (h : a.Reordered b) (hkeyed : a.Keyed) :
    b.Keyed ∧ a.canonical = b.canonical := by
  induction h with
  | refl value => exact ⟨hkeyed, rfl⟩
  | trans _ _ ih ih' =>
    obtain ⟨hb, hab⟩ := ih hkeyed
    obtain ⟨hc, hbc⟩ := ih' hb
    exact ⟨hc, hab.trans hbc⟩
  | @keys fields fields' hperm =>
    obtain ⟨hnodup, hfields⟩ := hkeyed
    refine ⟨⟨(hperm.map Prod.fst).nodup_iff.mp hnodup, ?_⟩, ?_⟩
    · rw [keyedFields_iff] at hfields ⊢
      exact fun field hmem => hfields field (hperm.mem_iff.mpr hmem)
    · rw [Json.canonical, Json.canonical, sortFields_eq_of_perm (nodup_sortFields_keys hnodup)]
      rw [canonicalFields_eq, canonicalFields_eq]
      exact hperm.map _
  | @item before after a b h ih =>
    have hitems := (keyedItems_iff _).mp hkeyed
    obtain ⟨hb, hab⟩ := ih (hitems a (List.mem_append_right before List.mem_cons_self))
    constructor
    · refine (keyedItems_iff _).mpr fun item hmem => ?_
      rcases List.mem_append.mp hmem with hbefore | hmem
      · exact hitems item (List.mem_append_left _ hbefore)
      · rcases List.mem_cons.mp hmem with rfl | hafter
        · exact hb
        · exact hitems item (List.mem_append_right before (List.mem_cons_of_mem a hafter))
    · rw [Json.canonical, Json.canonical, canonicalItems_eq, canonicalItems_eq, List.map_append,
        List.map_append, List.map_cons, List.map_cons, hab]
  | @field before after key a b h ih =>
    obtain ⟨hnodup, hfields⟩ := hkeyed
    rw [keyedFields_iff] at hfields
    obtain ⟨hb, hab⟩ := ih (hfields (key, a) (List.mem_append_right before List.mem_cons_self))
    refine ⟨⟨?_, ?_⟩, ?_⟩
    · rw [List.map_append, List.map_cons] at hnodup ⊢
      exact hnodup
    · refine (keyedFields_iff _).mpr fun field hmem => ?_
      rcases List.mem_append.mp hmem with hbefore | hmem
      · exact hfields field (List.mem_append_left _ hbefore)
      · rcases List.mem_cons.mp hmem with rfl | hafter
        · exact hb
        · exact hfields field (List.mem_append_right before (List.mem_cons_of_mem _ hafter))
    · rw [Json.canonical, Json.canonical, canonicalFields_eq, canonicalFields_eq, List.map_append,
        List.map_append, List.map_cons, List.map_cons, hab]

mutual

theorem Json.reordered_canonical (value : Json) : value.Reordered value.canonical := by
  match value with
  | .null => exact .refl _
  | .bool b => exact .refl _
  | .num n => exact .refl _
  | .str s => exact .refl _
  | .arr items => exact reordered_canonicalItems [] items
  | .obj fields =>
    exact (reordered_canonicalFields [] fields).trans (.keys (sortFields_perm _).symm)

theorem reordered_canonicalItems (before items : List Json) :
    (Json.arr (before ++ items)).Reordered (.arr (before ++ canonicalItems items)) := by
  match items with
  | [] => exact .refl _
  | item :: items =>
    have hrest := reordered_canonicalItems (before ++ [item.canonical]) items
    rw [List.append_assoc, List.append_assoc] at hrest
    exact (Json.Reordered.item before items item.reordered_canonical).trans hrest

theorem reordered_canonicalFields (before fields : List (String × Json)) :
    (Json.obj (before ++ fields)).Reordered (.obj (before ++ canonicalFields fields)) := by
  match fields with
  | [] => exact .refl _
  | (key, value) :: fields =>
    have hrest := reordered_canonicalFields (before ++ [(key, value.canonical)]) fields
    rw [List.append_assoc, List.append_assoc] at hrest
    exact (Json.Reordered.field before fields key value.reordered_canonical).trans hrest

end

/-- In the order of their keys two documents are equal exactly when one is the other reordered. -/
theorem canonical_eq_iff {a b : Json} (h : a.Keyed) : a.canonical = b.canonical ↔ a.Reordered b := by
  constructor
  · intro heq
    have hb := b.reordered_canonical.symm
    rw [← heq] at hb
    exact a.reordered_canonical.trans hb
  · exact fun hreordered => (hreordered.canonical_eq h).2

end CSO.JS
