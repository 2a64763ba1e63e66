import CSO.JS.Canonical
import CSO.JS.Form
import CSO.Workers.Policy

/-! The hash of the facts: which inputs it tells apart. -/
namespace CSO.Workers
open JS (Json)

/-! The text that is hashed is that of the document in the order of its keys. -/

theorem stringifyFields_eq (fields : List (String × Json)) : Json.stringifyFields fields =
    fields.map fun field => JS.quote field.1 ++ ":" ++ field.2.stringify := by
  induction fields with
  | nil => rfl
  | cons field fields ih => rw [Json.stringifyFields, ih, List.map_cons]

mutual

theorem canonicalizeJson_eq_ok {value : Json} {text : String} (h : canonicalizeJson value = .ok text) :
    text = value.canonical.stringify := by
  match value with
  | .null => cases h; rfl
  | .bool b => cases h; rfl
  | .str s => cases h; rfl
  | .num n =>
    rw [canonicalizeJson] at h
    split_ifs at h
    cases h
    rfl
  | .arr items =>
    rw [canonicalizeJson] at h
    obtain ⟨texts, htexts, h⟩ := except_bind_eq_ok h
    cases h
    rw [canonicalizeItems_eq_ok htexts]
    rfl
  | .obj fields =>
    rw [canonicalizeJson] at h
    obtain ⟨texts, htexts, h⟩ := except_bind_eq_ok h
    cases h
    have hsort : (texts.insertionSort fun left right => JS.notAfter left.1 right.1) =
        (JS.sortFields (JS.canonicalFields fields)).map fun field =>
          (field.1, field.2.stringify) := by
      rw [canonicalizeFields_eq_ok htexts, JS.sortFields_map]
      rfl
    rw [hsort, List.map_map, Json.canonical, Json.stringify, stringifyFields_eq]
    rfl

theorem canonicalizeItems_eq_ok {items : List Json} {texts : List String}
    (h : canonicalizeItems items = .ok texts) :
    texts = Json.stringifyItems (JS.canonicalItems items) := by
  match items with
  | [] => cases h; rfl
  | item :: items =>
    rw [canonicalizeItems] at h
    obtain ⟨text, htext, h⟩ := except_bind_eq_ok h
    obtain ⟨texts, htexts, h⟩ := except_bind_eq_ok h
    cases h
    rw [canonicalizeJson_eq_ok htext, canonicalizeItems_eq_ok htexts]
    rfl

theorem canonicalizeFields_eq_ok {fields : List (String × Json)} {texts : List (String × String)}
    (h : canonicalizeFields fields = .ok texts) :
    texts = (JS.canonicalFields fields).map fun field => (field.1, field.2.stringify) := by
  match fields with
  | [] => cases h; rfl
  | (key, value) :: fields =>
    rw [canonicalizeFields] at h
    obtain ⟨text, htext, h⟩ := except_bind_eq_ok h
    obtain ⟨texts, htexts, h⟩ := except_bind_eq_ok h
    cases h
    rw [canonicalizeJson_eq_ok htext, canonicalizeFields_eq_ok htexts]
    rfl

end

mutual

/-- Every number is one that the text may hold. -/
def Safe : Json → Prop
  | .num n => isSafeInteger n = true
  | .arr items => SafeItems items
  | .obj fields => SafeFields fields
  | _ => True

def SafeItems : List Json → Prop
  | [] => True
  | item :: items => Safe item ∧ SafeItems items

def SafeFields : List (String × Json) → Prop
  | [] => True
  | (_, value) :: fields => Safe value ∧ SafeFields fields

end

theorem safeItems_iff (items : List Json) : SafeItems items ↔ ∀ item ∈ items, Safe item := by
  induction items with
  | nil => exact ⟨fun _ _ hmem => absurd hmem List.not_mem_nil, fun _ => trivial⟩
  | cons item items ih => rw [SafeItems, ih, List.forall_mem_cons]

theorem safeFields_iff (fields : List (String × Json)) :
    SafeFields fields ↔ ∀ field ∈ fields, Safe field.2 := by
  induction fields with
  | nil => exact ⟨fun _ _ hmem => absurd hmem List.not_mem_nil, fun _ => trivial⟩
  | cons field fields ih => rw [SafeFields, ih, List.forall_mem_cons]

theorem except_bind_isOk {α β : Type} {x : Except String α} {f : α → Except String β}
    (hf : ∀ a, ∃ b, f a = .ok b) : (∃ b, (x >>= f) = .ok b) ↔ ∃ a, x = .ok a := by
  cases x with
  | error message => exact ⟨fun ⟨b, hb⟩ => (by cases hb), fun ⟨a, ha⟩ => (by cases ha)⟩
  | ok a => exact ⟨fun _ => ⟨a, rfl⟩, fun _ => hf a⟩

mutual

theorem safe_iff (value : Json) : (∃ text, canonicalizeJson value = .ok text) ↔ Safe value := by
  match value with
  | .null => exact ⟨fun _ => trivial, fun _ => ⟨_, rfl⟩⟩
  | .bool b => exact ⟨fun _ => trivial, fun _ => ⟨_, rfl⟩⟩
  | .str s => exact ⟨fun _ => trivial, fun _ => ⟨_, rfl⟩⟩
  | .num n =>
    rw [canonicalizeJson, Safe]
    split_ifs with hsafe
    · exact ⟨fun _ => hsafe, fun _ => ⟨_, rfl⟩⟩
    · exact ⟨fun ⟨text, htext⟩ => (by cases htext), fun h => absurd h hsafe⟩
  | .arr items =>
    rw [canonicalizeJson, Safe, ← safeItems_iff_ok]
    exact except_bind_isOk fun texts => ⟨_, rfl⟩
  | .obj fields =>
    rw [canonicalizeJson, Safe, ← safeFields_iff_ok]
    exact except_bind_isOk fun texts => ⟨_, rfl⟩

theorem safeItems_iff_ok (items : List Json) :
    (∃ texts, canonicalizeItems items = .ok texts) ↔ SafeItems items := by
  match items with
  | [] => exact ⟨fun _ => trivial, fun _ => ⟨_, rfl⟩⟩
  | item :: items =>
    rw [canonicalizeItems, SafeItems, ← safe_iff item, ← safeItems_iff_ok items]
    cases canonicalizeJson item with
    | error message => exact ⟨fun ⟨texts, h⟩ => (by cases h), fun ⟨⟨text, h⟩, _⟩ => (by cases h)⟩
    | ok text =>
      refine Iff.trans ?_ (and_iff_right ⟨text, rfl⟩).symm
      exact except_bind_isOk fun texts => ⟨_, rfl⟩

theorem safeFields_iff_ok (fields : List (String × Json)) :
    (∃ texts, canonicalizeFields fields = .ok texts) ↔ SafeFields fields := by
  match fields with
  | [] => exact ⟨fun _ => trivial, fun _ => ⟨_, rfl⟩⟩
  | (key, value) :: fields =>
    rw [canonicalizeFields, SafeFields, ← safe_iff value, ← safeFields_iff_ok fields]
    cases canonicalizeJson value with
    | error message => exact ⟨fun ⟨texts, h⟩ => (by cases h), fun ⟨⟨text, h⟩, _⟩ => (by cases h)⟩
    | ok text =>
      refine Iff.trans ?_ (and_iff_right ⟨text, rfl⟩).symm
      exact except_bind_isOk fun texts => ⟨_, rfl⟩

end

theorem Safe.reordered {a b : Json} (h : a.Reordered b) (hsafe : Safe a) : Safe b := by
  induction h with
  | refl value => exact hsafe
  | trans _ _ ih ih' => exact ih' (ih hsafe)
  | keys hperm =>
    have hfields := (safeFields_iff _).mp hsafe
    exact (safeFields_iff _).mpr fun field hmem => hfields field (hperm.mem_iff.mpr hmem)
  | @item before after a b _ ih =>
    have hitems := (safeItems_iff _).mp hsafe
    refine (safeItems_iff _).mpr fun item hmem => ?_
    rcases List.mem_append.mp hmem with hbefore | hmem
    · exact hitems item (List.mem_append_left _ hbefore)
    · rcases List.mem_cons.mp hmem with rfl | hafter
      · exact ih (hitems a (List.mem_append_right before List.mem_cons_self))
      · exact hitems item (List.mem_append_right before (List.mem_cons_of_mem a hafter))
  | @field before after key a b _ ih =>
    have hfields := (safeFields_iff _).mp hsafe
    refine (safeFields_iff _).mpr fun field hmem => ?_
    rcases List.mem_append.mp hmem with hbefore | hmem
    · exact hfields field (List.mem_append_left _ hbefore)
    · rcases List.mem_cons.mp hmem with rfl | hafter
      · exact ih (hfields (key, a) (List.mem_append_right before List.mem_cons_self))
      · exact hfields field (List.mem_append_right before (List.mem_cons_of_mem _ hafter))

/-- The canonical text does not depend on the order of keys, and nothing else is lost in it. -/
theorem canonicalizeJson_eq_iff {a b : Json} {text : String} (hkeyed : a.Keyed)
    (h : canonicalizeJson a = .ok text) : canonicalizeJson b = .ok text ↔ a.Reordered b := by
  constructor
  · intro h'
    have hsame := (canonicalizeJson_eq_ok h).symm.trans (canonicalizeJson_eq_ok h')
    exact (JS.canonical_eq_iff hkeyed).mp (JS.stringify_injective hsame)
  · intro hreordered
    obtain ⟨text', h'⟩ := (safe_iff b).mpr (((safe_iff a).mp ⟨text, h⟩).reordered hreordered)
    rw [h', canonicalizeJson_eq_ok h', canonicalizeJson_eq_ok h,
      (hreordered.canonical_eq hkeyed).2]

/-! The document of an input. -/

theorem keyed_optionalField {α : Type} (json : α → Json) (h : ∀ a, (json a).Keyed) (key : String)
    (value : Option α) : JS.KeyedFields (optionalField key json value) := by
  cases value with
  | none => trivial
  | some a => exact ⟨h a, trivial⟩

theorem keyedFields_append {fields fields' : List (String × Json)} (h : JS.KeyedFields fields)
    (h' : JS.KeyedFields fields') : JS.KeyedFields (fields ++ fields') := by
  rw [JS.keyedFields_iff] at h h' ⊢
  intro field hmem
  rcases List.mem_append.mp hmem with hleft | hright
  · exact h field hleft
  · exact h' field hright

theorem optionalField_keys {α : Type} (key : String) (json : α → Json) (value : Option α) :
    ((optionalField key json value).map Prod.fst).Sublist [key] := by
  cases value with
  | none => exact List.nil_sublist _
  | some a => exact List.Sublist.refl _

theorem keyed_moneyJson (money : Money) : (Gateway.moneyJson money).Keyed :=
  ⟨(by decide : ["amountMinor", "currency"].Nodup), trivial, trivial, trivial⟩

def requestFields (request : PolicyRequest) : List (String × Json) :=
  [("proposalId", .str request.proposalId), ("orderId", .str request.orderId),
    ("reasonCode", .str request.reasonCode), ("scope", .str request.scope.text),
    ("itemIds", .arr (request.itemIds.map .str))] ++
    optionalField "requestedAmount" Gateway.moneyJson request.requestedAmount

def factFields (facts : PolicyFacts) : List (String × Json) :=
  optionalField "customerVerified" .bool facts.customerVerified ++
    optionalField "transactionRefundable" .bool facts.transactionRefundable ++
    optionalField "itemSelectionValid" .bool facts.itemSelectionValid ++
    optionalField "priorRefundCount" .num facts.priorRefundCount ++
    optionalField "refundableAmount" Gateway.moneyJson facts.refundableAmount ++
    optionalField "refundDestination" .str facts.refundDestination

theorem nodup_requestFields (request : PolicyRequest) :
    ((requestFields request).map Prod.fst).Nodup := by
  have hsub : ((requestFields request).map Prod.fst).Sublist
      ["proposalId", "orderId", "reasonCode", "scope", "itemIds", "requestedAmount"] := by
    rw [requestFields, List.map_append]
    exact (List.Sublist.refl _).append (optionalField_keys _ _ _)
  exact List.Nodup.sublist hsub (by decide)

theorem nodup_factFields (facts : PolicyFacts) : ((factFields facts).map Prod.fst).Nodup := by
  have hsub : ((factFields facts).map Prod.fst).Sublist
      ["customerVerified", "transactionRefundable", "itemSelectionValid", "priorRefundCount",
        "refundableAmount", "refundDestination"] := by
    simp only [factFields, List.map_append]
    exact (((((optionalField_keys _ _ _).append (optionalField_keys _ _ _)).append
      (optionalField_keys _ _ _)).append (optionalField_keys _ _ _)).append
      (optionalField_keys _ _ _)).append (optionalField_keys _ _ _)
  exact List.Nodup.sublist hsub (by decide)

theorem keyed_requestFields (request : PolicyRequest) : JS.KeyedFields (requestFields request) := by
  refine keyedFields_append ⟨trivial, trivial, trivial, trivial, ?_, trivial⟩
    (keyed_optionalField _ keyed_moneyJson _ _)
  refine (JS.keyedItems_iff _).mpr fun item hmem => ?_
  obtain ⟨id, -, rfl⟩ := List.mem_map.mp hmem
  exact trivial

theorem keyed_factFields (facts : PolicyFacts) : JS.KeyedFields (factFields facts) := by
  have hflag (key : String) (value : Option Bool) :=
    keyed_optionalField Json.bool (fun _ => trivial) key value
  have hcount := keyed_optionalField Json.num (fun _ => trivial) "priorRefundCount"
    facts.priorRefundCount
  have hdestination := keyed_optionalField Json.str (fun _ => trivial) "refundDestination"
    facts.refundDestination
  exact keyedFields_append (keyedFields_append (keyedFields_append (keyedFields_append
    (keyedFields_append (hflag _ _) (hflag _ _)) (hflag _ _)) hcount)
    (keyed_optionalField _ keyed_moneyJson _ _)) hdestination

theorem keyed_factRef (ref : FactRef) : ref.json.Keyed :=
  ⟨(by decide : ["factId", "factType", "sourceVersion", "observedAt"].Nodup), trivial, trivial,
    trivial, trivial, trivial⟩

theorem RefundPolicyInput.keyed (input : RefundPolicyInput) : input.json.Keyed := by
  have hnodup : ["schemaVersion", "journeyType", "policyVersion", "request", "facts",
      "factRefs"].Nodup := by decide
  refine ⟨hnodup, trivial, trivial, trivial, ⟨nodup_requestFields input.request,
    keyed_requestFields input.request⟩, ⟨nodup_factFields input.facts,
    keyed_factFields input.facts⟩, ?_, trivial⟩
  refine (JS.keyedItems_iff _).mpr fun item hmem => ?_
  obtain ⟨ref, -, rfl⟩ := List.mem_map.mp hmem
  exact keyed_factRef ref

/-! What the canonical document says of each field. -/

theorem lookup_canonicalFields (key : String) (fields : List (String × Json)) :
    List.lookup key (JS.canonicalFields fields) = (List.lookup key fields).map Json.canonical := by
  induction fields with
  | nil => rfl
  | cons field fields ih =>
    obtain ⟨name, value⟩ := field
    rw [JS.canonicalFields, List.lookup_cons, List.lookup_cons]
    split
    · rfl
    · exact ih

theorem lookup_canonical {fields fields' : List (String × Json)}
    (hnodup : (fields.map Prod.fst).Nodup) (hnodup' : (fields'.map Prod.fst).Nodup)
    (h : (Json.obj fields).canonical = (Json.obj fields').canonical) (key : String) :
    (List.lookup key fields).map Json.canonical = (List.lookup key fields').map Json.canonical := by
  have hfields : JS.sortFields (JS.canonicalFields fields) =
      JS.sortFields (JS.canonicalFields fields') := Json.obj.inj h
  have hperm : (JS.canonicalFields fields).Perm (JS.canonicalFields fields') :=
    (JS.sortFields_perm _).symm.trans (hfields ▸ JS.sortFields_perm _)
  rw [← lookup_canonicalFields, ← lookup_canonicalFields]
  ext value
  rw [JS.Form.lookup_eq_some (JS.nodup_sortFields_keys hnodup),
    JS.Form.lookup_eq_some (JS.nodup_sortFields_keys hnodup'), hperm.mem_iff]

theorem lookup_optionalField {α : Type} (key name : String) (json : α → Json) (value : Option α) :
    List.lookup key (optionalField name json value) =
      if key = name then value.map json else none := by
  cases value with
  | none => simp [optionalField]
  | some a =>
    by_cases hkey : key = name
    · simp [optionalField, hkey]
    · simp [optionalField, hkey, List.lookup_cons, beq_eq_false_iff_ne.mpr hkey]

theorem moneyJson_injective : Function.Injective (Json.canonical ∘ Gateway.moneyJson) := by
  intro money money' h
  have hlookup := lookup_canonical (keyed_moneyJson money).1 (keyed_moneyJson money').1 h
  have hamount : money.amountMinor = money'.amountMinor := by
    simpa [Json.canonical, List.lookup] using hlookup "amountMinor"
  have hcurrency : money.currency = money'.currency := by
    simpa [Json.canonical, List.lookup] using hlookup "currency"
  cases money
  cases money'
  congr

theorem canonicalItems_str (ids : List String) :
    JS.canonicalItems (ids.map .str) = ids.map .str := by
  rw [JS.canonicalItems_eq, List.map_map]
  rfl

theorem text_inj {scope scope' : RequestedScope} (h : scope.text = scope'.text) : scope = scope' := by
  cases scope <;> cases scope' <;> first | rfl | exact absurd h (by decide)

theorem request_inj {request request' : PolicyRequest}
    (h : (Json.obj (requestFields request)).canonical =
      (Json.obj (requestFields request')).canonical) : request = request' := by
  have hlookup := lookup_canonical (nodup_requestFields request) (nodup_requestFields request') h
  have hproposal : request.proposalId = request'.proposalId := by
    simpa [requestFields, Json.canonical, List.lookup] using hlookup "proposalId"
  have horder : request.orderId = request'.orderId := by
    simpa [requestFields, Json.canonical, List.lookup] using hlookup "orderId"
  have hreason : request.reasonCode = request'.reasonCode := by
    simpa [requestFields, Json.canonical, List.lookup] using hlookup "reasonCode"
  have hscope : request.scope = request'.scope := text_inj (by
    simpa [requestFields, Json.canonical, List.lookup] using hlookup "scope")
  have hitems : request.itemIds = request'.itemIds := by
    have hmap : request.itemIds.map Json.str = request'.itemIds.map Json.str := by
      simpa [requestFields, Json.canonical, List.lookup, canonicalItems_str] using hlookup "itemIds"
    exact List.map_injective_iff.mpr (fun _ _ h => Json.str.inj h) hmap
  have hamount : request.requestedAmount = request'.requestedAmount := by
    refine Option.map_injective moneyJson_injective ?_
    simpa [requestFields, List.lookup, lookup_optionalField] using hlookup "requestedAmount"
  cases request
  cases request'
  congr

theorem facts_inj {facts facts' : PolicyFacts}
    (h : (Json.obj (factFields facts)).canonical = (Json.obj (factFields facts')).canonical) :
    facts = facts' := by
  have hlookup := lookup_canonical (nodup_factFields facts) (nodup_factFields facts') h
  have hflag : Function.Injective (Json.canonical ∘ Json.bool) := fun _ _ h => Json.bool.inj h
  have hverified : facts.customerVerified = facts'.customerVerified := by
    refine Option.map_injective hflag ?_
    simpa [factFields, List.lookup_append, lookup_optionalField] using hlookup "customerVerified"
  have hrefundable : facts.transactionRefundable = facts'.transactionRefundable := by
    refine Option.map_injective hflag ?_
    simpa [factFields, List.lookup_append, lookup_optionalField]
      using hlookup "transactionRefundable"
  have hselection : facts.itemSelectionValid = facts'.itemSelectionValid := by
    refine Option.map_injective hflag ?_
    simpa [factFields, List.lookup_append, lookup_optionalField] using hlookup "itemSelectionValid"
  have hcount : facts.priorRefundCount = facts'.priorRefundCount := by
    have hnumber : Function.Injective (Json.canonical ∘ Json.num) := fun _ _ h => Json.num.inj h
    refine Option.map_injective hnumber ?_
    simpa [factFields, List.lookup_append, lookup_optionalField] using hlookup "priorRefundCount"
  have hamount : facts.refundableAmount = facts'.refundableAmount := by
    refine Option.map_injective moneyJson_injective ?_
    simpa [factFields, List.lookup_append, lookup_optionalField] using hlookup "refundableAmount"
  have hdestination : facts.refundDestination = facts'.refundDestination := by
    have htext : Function.Injective (Json.canonical ∘ Json.str) := fun _ _ h => Json.str.inj h
    refine Option.map_injective htext ?_
    simpa [factFields, List.lookup_append, lookup_optionalField] using hlookup "refundDestination"
  cases facts
  cases facts'
  congr

theorem factRef_injective : Function.Injective fun ref : FactRef => ref.json.canonical := by
  intro ref ref' h
  have hlookup := lookup_canonical (keyed_factRef ref).1 (keyed_factRef ref').1 h
  have hid : ref.factId = ref'.factId := by
    simpa [Json.canonical, List.lookup] using hlookup "factId"
  have htype : ref.factType = ref'.factType := by
    simpa [Json.canonical, List.lookup] using hlookup "factType"
  have hversion : ref.sourceVersion = ref'.sourceVersion := by
    simpa [Json.canonical, List.lookup] using hlookup "sourceVersion"
  have hobserved : ref.observedAt = ref'.observedAt := by
    simpa [Json.canonical, List.lookup] using hlookup "observedAt"
  cases ref
  cases ref'
  congr

/-- The document of an input, in whatever order its keys are, is that of no other. -/
theorem RefundPolicyInput.json_inj {a b : RefundPolicyInput} (h : a.json.Reordered b.json) :
    a = b := by
  have hcanonical := (JS.canonical_eq_iff a.keyed).mpr h
  have hlookup := lookup_canonical a.keyed.1 b.keyed.1 hcanonical
  have hversion : a.policyVersion = b.policyVersion := by
    simpa [Json.canonical, List.lookup] using hlookup "policyVersion"
  have hrequest : a.request = b.request := request_inj (by
    simpa [List.lookup, requestFields] using hlookup "request")
  have hfacts : a.facts = b.facts := facts_inj (by
    simpa [List.lookup, factFields] using hlookup "facts")
  have hrefs : a.factRefs = b.factRefs := by
    have hmap : a.factRefs.map (fun ref => ref.json.canonical) =
        b.factRefs.map fun ref => ref.json.canonical := by
      simpa [Json.canonical, List.lookup, JS.canonicalItems_eq, Function.comp_def]
        using hlookup "factRefs"
    exact List.map_injective_iff.mpr factRef_injective hmap
  cases a
  cases b
  congr

/-! Inputs and their hash. -/

/-- The input that is hashed. -/
def hashedInput (input : RefundPolicyInput) : RefundPolicyInput :=
  { input with factRefs := sortedFactRefs input.factRefs }

/-- The same facts, but for the order of their references. -/
def SameFacts (a b : RefundPolicyInput) : Prop :=
  a.factRefs.Perm b.factRefs ∧ a = { b with factRefs := a.factRefs }

/-- The references with one id stand in the same order. -/
def SameOrder (a b : RefundPolicyInput) : Prop :=
  ∀ factId, (a.factRefs.filter fun ref => ref.factId = factId) =
    b.factRefs.filter fun ref => ref.factId = factId

theorem sortedFactRefs_eq (factRefs : List FactRef) :
    sortedFactRefs factRefs = Transition.ranked (fun ref => JS.codeUnits ref.factId) factRefs :=
  JS.sort_notAfter FactRef.factId factRefs

theorem sortedFactRefs_eq_iff {refs refs' : List FactRef} :
    sortedFactRefs refs = sortedFactRefs refs' ↔
      ∀ factId, (refs.filter fun ref => ref.factId = factId) =
        refs'.filter fun ref => ref.factId = factId := by
  have hcode (factId : String) (l : List FactRef) :
      (l.filter fun ref => JS.codeUnits ref.factId = JS.codeUnits factId) =
        l.filter fun ref => ref.factId = factId := by
    simp only [JS.codeUnits_injective.eq_iff]
  rw [sortedFactRefs_eq, sortedFactRefs_eq, Transition.ranked_eq_iff]
  constructor
  · intro h factId
    rw [← hcode, ← hcode, h]
  · intro h units
    by_cases hunits : ∃ factId, JS.codeUnits factId = units
    · obtain ⟨factId, rfl⟩ := hunits
      rw [hcode, hcode, h]
    · have hnone (l : List FactRef) :
          (l.filter fun ref => JS.codeUnits ref.factId = units) = [] := by
        rw [List.filter_eq_nil_iff]
        exact fun ref _ hcodes => hunits ⟨ref.factId, of_decide_eq_true hcodes⟩
      rw [hnone, hnone]

/-- What is hashed of two inputs is equal where they differ in the order of references with
different ids only. -/
theorem hashedInput_eq_iff {a b : RefundPolicyInput} :
    hashedInput a = hashedInput b ↔ SameFacts a b ∧ SameOrder a b := by
  constructor
  · intro h
    have hsorted : sortedFactRefs a.factRefs = sortedFactRefs b.factRefs :=
      congrArg RefundPolicyInput.factRefs h
    have hperm (refs : List FactRef) : (sortedFactRefs refs).Perm refs :=
      List.perm_insertionSort _ refs
    refine ⟨⟨(hperm _).symm.trans (hsorted ▸ hperm _), ?_⟩, sortedFactRefs_eq_iff.mp hsorted⟩
    have hversion := congrArg RefundPolicyInput.policyVersion h
    have hrequest := congrArg RefundPolicyInput.request h
    have hfacts := congrArg RefundPolicyInput.facts h
    cases a
    cases b
    simp only [hashedInput] at hversion hrequest hfacts
    rw [hversion, hrequest, hfacts]
  · rintro ⟨⟨-, h⟩, horder⟩
    rw [hashedInput, sortedFactRefs_eq_iff.mpr horder, h]
    rfl

theorem hashPolicyInput_eq_ok {input : RefundPolicyInput} {hash : String}
    (h : hashPolicyInput input = .ok hash) :
    ∃ text, canonicalizeJson input.json = .ok text ∧ hash = "sha256:" ++ JS.Sha256.hex text := by
  obtain ⟨text, htext, h⟩ := except_bind_eq_ok h
  cases h
  exact ⟨text, htext, rfl⟩

theorem hash_of_evaluation {input : RefundPolicyInput} {release : RefundPolicyRelease}
    {context : PolicyDecisionContext} {decision : RefundPolicyDecision}
    (h : evaluateRefundPolicy input release context = .ok decision) :
    hashPolicyInput (hashedInput input) = .ok decision.inputFactsHash := by
  unfold evaluateRefundPolicy at h
  obtain ⟨⟨⟩, -, h⟩ := except_bind_eq_ok h
  split_ifs at h
  split at h
  · cases h
  · obtain ⟨hash, hhash, h⟩ := except_bind_eq_ok h
    obtain ⟨validUntil, -, h⟩ := except_bind_eq_ok h
    obtain ⟨v, -, h⟩ := except_bind_eq_ok h
    cases h
    exact hhash

/-- Of two accepted inputs, written with their keys in any order, the texts that are hashed are
equal exactly for the same facts, where references that share an id stand in the same order. -/
theorem facts_hash_identifies {a b : RefundPolicyInput} {release release' : RefundPolicyRelease}
    {context context' : PolicyDecisionContext} {decision decision' : RefundPolicyDecision}
    {document document' : Json} (ha : evaluateRefundPolicy a release context = .ok decision)
    (hb : evaluateRefundPolicy b release' context' = .ok decision')
    (hdocument : (hashedInput a).json.Reordered document)
    (hdocument' : (hashedInput b).json.Reordered document') :
    ∃ text text', canonicalizeJson document = .ok text ∧ canonicalizeJson document' = .ok text' ∧
      decision.inputFactsHash = "sha256:" ++ JS.Sha256.hex text ∧
      decision'.inputFactsHash = "sha256:" ++ JS.Sha256.hex text' ∧
      (text = text' → SameFacts a b) ∧
      ((text = text' ↔ SameFacts a b) ↔ (SameFacts a b → SameOrder a b)) ∧
      ((JS.Sha256.hex text = JS.Sha256.hex text' → text = text') →
        ((decision.inputFactsHash = decision'.inputFactsHash ↔ SameFacts a b) ↔
          (SameFacts a b → SameOrder a b))) := by
  obtain ⟨text, htext, hhash⟩ := hashPolicyInput_eq_ok (hash_of_evaluation ha)
  obtain ⟨text', htext', hhash'⟩ := hashPolicyInput_eq_ok (hash_of_evaluation hb)
  have hread := (canonicalizeJson_eq_iff (hashedInput a).keyed htext).mpr hdocument
  have hread' := (canonicalizeJson_eq_iff (hashedInput b).keyed htext').mpr hdocument'
  have hiff : text = text' ↔ SameFacts a b ∧ SameOrder a b := by
    rw [← hashedInput_eq_iff]
    constructor
    · rintro rfl
      exact RefundPolicyInput.json_inj
        ((canonicalizeJson_eq_iff (hashedInput a).keyed htext).mp htext')
    · intro h
      rw [h] at htext
      exact Except.ok.inj (htext.symm.trans htext')
  have hbranches : (text = text' ↔ SameFacts a b) ↔ (SameFacts a b → SameOrder a b) := by
    rw [hiff]
    exact ⟨fun h hsame => (h.mpr hsame).2, fun h => ⟨fun hboth => hboth.1, fun hsame =>
      ⟨hsame, h hsame⟩⟩⟩
  refine ⟨text, text', hread, hread', hhash, hhash', fun h => (hiff.mp h).1, hbranches,
    fun hfree => ?_⟩
  have hhashes : decision.inputFactsHash = decision'.inputFactsHash ↔ text = text' := by
    rw [hhash, hhash', String.append_right_inj]
    exact ⟨hfree, fun h => by rw [h]⟩
  rw [hhashes, hbranches]

namespace Sample

/-- A request for 20 dollars of 500 with these references. -/
def referring (factRefs : List FactRef) : RefundPolicyInput where
  policyVersion := "refund-policy-v1"
  request := ⟨"proposal_1", "order_1", "DAMAGED", .selectedItems, ["item_1"], some ⟨2000, "USD"⟩⟩
  facts := ⟨some true, some true, some true, some 0, some ⟨50000, "USD"⟩,
    some "ORIGINAL_PAYMENT_METHOD"⟩
  factRefs := factRefs

def orderRef : FactRef := ⟨"fact_1", "ORDER", "order-v1", "2026-08-05T15:28:00Z"⟩

def paymentRef : FactRef := ⟨"fact_1", "PAYMENT", "payment-v1", "2026-08-05T15:29:00Z"⟩

def customerRef : FactRef := ⟨"fact_2", "CUSTOMER", "customer-v1", "2026-08-05T15:29:00Z"⟩

def referringNow : PolicyDecisionContext := ⟨"decision_1", "2026-08-05T15:30:00Z"⟩

theorem exists_referring {factRefs : List FactRef}
    (h : (evaluateRefundPolicy (referring factRefs) refundPolicyV1 referringNow).toOption.isSome =
      true) : ∃ decision,
    evaluateRefundPolicy (referring factRefs) refundPolicyV1 referringNow = .ok decision := by
  cases hresult : evaluateRefundPolicy (referring factRefs) refundPolicyV1 referringNow with
  | error message =>
    rw [hresult] at h
    cases h
  | ok decision => exact ⟨decision, rfl⟩

end Sample

/-- Two references with different ids, in both orders. -/
theorem facts_hash_identifies_shuffled : ∃ decision decision' text text',
    evaluateRefundPolicy (Sample.referring [Sample.orderRef, Sample.customerRef]) refundPolicyV1
      Sample.referringNow = .ok decision ∧
    evaluateRefundPolicy (Sample.referring [Sample.customerRef, Sample.orderRef]) refundPolicyV1
      Sample.referringNow = .ok decision' ∧
    canonicalizeJson (hashedInput (Sample.referring [Sample.orderRef, Sample.customerRef])).json =
      .ok text ∧
    canonicalizeJson (hashedInput (Sample.referring [Sample.customerRef, Sample.orderRef])).json =
      .ok text' ∧ text = text' := by
  obtain ⟨decision, h⟩ := Sample.exists_referring (by decide +kernel :
    (evaluateRefundPolicy (Sample.referring [Sample.orderRef, Sample.customerRef]) refundPolicyV1
      Sample.referringNow).toOption.isSome = true)
  obtain ⟨decision', h'⟩ := Sample.exists_referring (by decide +kernel :
    (evaluateRefundPolicy (Sample.referring [Sample.customerRef, Sample.orderRef]) refundPolicyV1
      Sample.referringNow).toOption.isSome = true)
  obtain ⟨text, text', htext, htext', -, -, -, hiff, -⟩ :=
    facts_hash_identifies h h' (.refl _) (.refl _)
  have hsorted : sortedFactRefs [Sample.orderRef, Sample.customerRef] =
      sortedFactRefs [Sample.customerRef, Sample.orderRef] := by decide +kernel
  have hsame : SameFacts (Sample.referring [Sample.orderRef, Sample.customerRef])
      (Sample.referring [Sample.customerRef, Sample.orderRef]) := ⟨List.Perm.swap _ _ _, rfl⟩
  exact ⟨decision, decision', text, text', h, h', htext, htext',
    (hiff.mpr fun _ => sortedFactRefs_eq_iff.mp hsorted).mpr hsame⟩

/-- Two references with one id: in the other order they give another text. -/
theorem facts_hash_ordered : ∃ decision decision' text text',
    evaluateRefundPolicy (Sample.referring [Sample.orderRef, Sample.paymentRef]) refundPolicyV1
      Sample.referringNow = .ok decision ∧
    evaluateRefundPolicy (Sample.referring [Sample.paymentRef, Sample.orderRef]) refundPolicyV1
      Sample.referringNow = .ok decision' ∧
    SameFacts (Sample.referring [Sample.orderRef, Sample.paymentRef])
      (Sample.referring [Sample.paymentRef, Sample.orderRef]) ∧
    canonicalizeJson (hashedInput (Sample.referring [Sample.orderRef, Sample.paymentRef])).json =
      .ok text ∧
    canonicalizeJson (hashedInput (Sample.referring [Sample.paymentRef, Sample.orderRef])).json =
      .ok text' ∧ text ≠ text' := by
  obtain ⟨decision, h⟩ := Sample.exists_referring (by decide +kernel :
    (evaluateRefundPolicy (Sample.referring [Sample.orderRef, Sample.paymentRef]) refundPolicyV1
      Sample.referringNow).toOption.isSome = true)
  obtain ⟨decision', h'⟩ := Sample.exists_referring (by decide +kernel :
    (evaluateRefundPolicy (Sample.referring [Sample.paymentRef, Sample.orderRef]) refundPolicyV1
      Sample.referringNow).toOption.isSome = true)
  obtain ⟨text, htext, -⟩ := hashPolicyInput_eq_ok (hash_of_evaluation h)
  obtain ⟨text', htext', -⟩ := hashPolicyInput_eq_ok (hash_of_evaluation h')
  refine ⟨decision, decision', text, text', h, h', ⟨List.Perm.swap _ _ _, rfl⟩, htext, htext', ?_⟩
  rintro rfl
  have hinputs := RefundPolicyInput.json_inj
    ((canonicalizeJson_eq_iff (RefundPolicyInput.keyed _) htext).mp htext')
  have hsorted : sortedFactRefs [Sample.orderRef, Sample.paymentRef] =
      sortedFactRefs [Sample.paymentRef, Sample.orderRef] :=
    congrArg RefundPolicyInput.factRefs hinputs
  exact absurd hsorted (by decide +kernel)

end CSO.Workers
