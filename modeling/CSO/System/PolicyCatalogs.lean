import CSO.AgentRuntime.PolicyCatalog

/-! The two readers of the catalog of refund policies. -/
namespace CSO.System
open AgentRuntime
open JS (Document JsonTree NumberLiteral)
open RefundPolicy (Release)

variable {document value : Document} {fields : List (String × Document)} {field : Field}
  {model : List Field} {release release' : Release} {releases releases' : List Release}

/-- The value in JavaScript. -/
abbrev inNode (document : Document) : JS.Value := document.map JS.Number.ofLiteral

/-- The value in Python. -/
abbrev inPython (document : Document) : PyValue := document.map PyNumber.ofLiteral

/-- The field is not there under its name. -/
def Unnamed (fields : List (String × Document)) (field : Field) : Prop :=
  field.name = field.key ∨ List.lookup field.name fields = none

/-- The value is no number with a point or an exponent. -/
def Plain (value : Document) : Prop := ∀ literal, value.num? = some literal →
  literal.integer?.isSome = true

/-! A field that is not found under its name is the same field for both. -/

theorem find_eq (h : Unnamed fields field) :
    field.find (JsonTree.mapFields PyNumber.ofLiteral fields) =
      (List.lookup field.key fields).map fun value => (field.key, inPython value) := by
  unfold Field.find
  rw [JsonTree.lookup_mapFields, JsonTree.lookup_mapFields]
  cases hkey : List.lookup field.key fields with
  | some value => rfl
  | none =>
    rcases h with hname | hname
    · rw [hname, hkey]
      rfl
    · rw [hname]
      rfl

theorem required_eq {α : Type} {readPython : PyValue → Option α}
    {readNode : JS.Value → Option α} (h : Unnamed fields field)
    (hread : ∀ value, List.lookup field.key fields = some value →
      readPython (inPython value) = readNode (inNode value)) :
    field.required (JsonTree.mapFields PyNumber.ofLiteral fields) readPython =
      JsonTree.required (JsonTree.mapFields JS.Number.ofLiteral fields) field.key readNode := by
  rw [Field.required, find_eq h, JsonTree.required, JsonTree.lookup_mapFields]
  cases hkey : List.lookup field.key fields with
  | none => rfl
  | some value => exact hread value hkey

theorem optional_eq {α : Type} {readPython : PyValue → Option α}
    {readNode : JS.Value → Option α} (h : Unnamed fields field)
    (hread : ∀ value, List.lookup field.key fields = some value →
      readPython (inPython value) = readNode (inNode value)) :
    field.optional (JsonTree.mapFields PyNumber.ofLiteral fields) readPython =
      JsonTree.optional (JsonTree.mapFields JS.Number.ofLiteral fields) field.key readNode := by
  rw [Field.optional, find_eq h, JsonTree.optional, JsonTree.lookup_mapFields]
  cases hkey : List.lookup field.key fields with
  | none => rfl
  | some value => exact congrArg (Option.map some) (hread value hkey)

theorem noExtra_iff (h : ∀ field ∈ model, Unnamed fields field) :
    noExtra model (JsonTree.mapFields PyNumber.ofLiteral fields) = true ↔
      ∀ key ∈ fields.map Prod.fst, key ∈ model.map Field.key := by
  have hused : ∀ key ∈ fields.map Prod.fst,
      (key ∈ model.filterMap fun field =>
        (field.find (JsonTree.mapFields PyNumber.ofLiteral fields)).map Prod.fst) ↔
      key ∈ model.map Field.key := by
    intro key hkey
    rw [List.mem_filterMap, List.mem_map]
    constructor
    · rintro ⟨field, hfield, hfind⟩
      rw [find_eq (h field hfield), Option.map_map] at hfind
      obtain ⟨value, -, rfl⟩ := Option.map_eq_some_iff.mp hfind
      exact ⟨field, hfield, rfl⟩
    · rintro ⟨field, hfield, rfl⟩
      obtain ⟨entry, hentry, hname⟩ := List.mem_map.mp hkey
      obtain ⟨value, hvalue⟩ := Option.isSome_iff_exists.mp (JsonTree.lookup_isSome hentry)
      rw [hname] at hvalue
      refine ⟨field, hfield, ?_⟩
      rw [find_eq (h field hfield), hvalue]
      rfl
  have hkeys : (JsonTree.mapFields PyNumber.ofLiteral fields).map Prod.fst = fields.map Prod.fst :=
    JsonTree.keys_mapFields fields
  rw [noExtra, List.all_eq_true, ← hkeys, List.forall_mem_map]
  rw [← hkeys, List.forall_mem_map] at hused
  exact forall₂_congr fun entry hentry => by rw [decide_eq_true_iff, hused entry hentry]

/-! A number that is written as an integer is the same number for both. -/

theorem safeInteger_inNode {n : ℤ} {literal : NumberLiteral} (hnum : value.num? = some literal)
    (h : literal.integer? = some n) : RefundPolicy.safeInteger? (inNode value) =
      if n.natAbs ≤ 9007199254740991 then some n else none := by
  rw [RefundPolicy.safeInteger?, JsonTree.num?_map, hnum]
  exact JS.Number.safeInteger_ofLiteral h

theorem int_inPython {n : ℤ} {literal : NumberLiteral} (hnum : value.num? = some literal)
    (h : literal.integer? = some n) : (inPython value).num?.bind PyNumber.int? = some n := by
  rw [JsonTree.num?_map, hnum]
  simp [PyNumber.ofLiteral, h, PyNumber.int?]

theorem number_eq {p : ℤ → Prop} [DecidablePred p] (hp : ∀ n, p n → 0 ≤ n) (h : Plain value) :
    ((inPython value).num?.bind PyNumber.int?).filter (fun n => p n ∧ n ≤ jsonSafeIntegerMax) =
      (RefundPolicy.safeInteger? (inNode value)).filter fun n => p n := by
  cases hnum : value.num? with
  | none => simp [RefundPolicy.safeInteger?, inPython, inNode, hnum]
  | some literal =>
    obtain ⟨n, hn⟩ := Option.isSome_iff_exists.mp (h literal hnum)
    rw [safeInteger_inNode hnum hn, int_inPython hnum hn]
    unfold jsonSafeIntegerMax
    split_ifs with hsafe
    · have hiff : (p n ∧ n ≤ 9007199254740991) ↔ p n := and_iff_left_of_imp fun _ => by omega
      simp only [Option.filter_some, hiff]
    · have hneg : ¬(p n ∧ n ≤ 9007199254740991) := fun hpn => by
        have := hp n hpn.1
        omega
      simp [Option.filter_some, hneg]

theorem nonNegative_eq (h : Plain value) :
    safeNonNegativeInteger (inPython value) = RefundPolicy.nonNegativeInteger? (inNode value) :=
  number_eq (fun _ => id) h

theorem positive_eq (h : Plain value) :
    safePositiveInteger (inPython value) = RefundPolicy.positiveInteger? (inNode value) :=
  number_eq (fun _ => le_of_lt) h

/-! A release reads the same. -/

/-- The fields that hold numbers. -/
def numberFields : List Field := [CatalogRelease.automaticMaximumMinor,
  CatalogRelease.approvalMaximumMinor, CatalogRelease.elevatedRiskPriorRefundCount,
  CatalogRelease.highRiskPriorRefundCount, CatalogRelease.decisionValiditySeconds]

/-- The numbers in the fields of a release are written as integers. -/
def PlainFields (fields : List (String × Document)) : Prop := ∀ field ∈ numberFields,
  ∀ value, List.lookup field.key fields = some value → Plain value

theorem read_eq (hnames : ∀ field ∈ CatalogRelease.model, Unnamed fields field)
    (hplain : PlainFields fields) :
    CatalogRelease.read (JsonTree.mapFields PyNumber.ofLiteral fields) =
      RefundPolicy.readRelease (JsonTree.mapFields JS.Number.ofLiteral fields) := by
  have hstrings : ∀ value : Document, (inPython value).list? JsonTree.string? =
      (inNode value).list? JsonTree.string? := fun value => by
    rw [inPython, inNode, JsonTree.list?_map JsonTree.string?_map,
      JsonTree.list?_map JsonTree.string?_map]
  have hstring : ∀ (field : Field) (p : String → Bool), field ∈ CatalogRelease.model →
      field.required (JsonTree.mapFields PyNumber.ofLiteral fields)
        (fun value => value.string?.filter p) =
      JsonTree.required (JsonTree.mapFields JS.Number.ofLiteral fields) field.key
        (fun value => value.string?.filter p) := fun field p hfield =>
    required_eq (hnames field hfield) fun value _ => by simp
  have hbool : CatalogRelease.requireDamagePhoto.optional
      (JsonTree.mapFields PyNumber.ofLiteral fields) JsonTree.bool? =
      JsonTree.optional (JsonTree.mapFields JS.Number.ofLiteral fields) "requireDamagePhoto"
        JsonTree.bool? :=
    optional_eq (hnames CatalogRelease.requireDamagePhoto (by decide)) fun value _ => by simp
  have hnumber : ∀ field ∈ numberFields, field ∈ CatalogRelease.model →
      field.required (JsonTree.mapFields PyNumber.ofLiteral fields) safeNonNegativeInteger =
        JsonTree.required (JsonTree.mapFields JS.Number.ofLiteral fields) field.key
          RefundPolicy.nonNegativeInteger? := fun field hnumber hfield =>
    required_eq (hnames field hfield) fun value hvalue =>
      nonNegative_eq (hplain field hnumber value hvalue)
  unfold CatalogRelease.read RefundPolicy.readRelease
  rw [hstring CatalogRelease.policyVersion _ (by decide),
    hstring CatalogRelease.supportedCurrency _ (by decide),
    hnumber CatalogRelease.automaticMaximumMinor (by decide) (by decide),
    hnumber CatalogRelease.approvalMaximumMinor (by decide) (by decide),
    hnumber CatalogRelease.elevatedRiskPriorRefundCount (by decide) (by decide),
    hnumber CatalogRelease.highRiskPriorRefundCount (by decide) (by decide),
    required_eq (hnames CatalogRelease.decisionValiditySeconds (by decide)) fun value hvalue =>
      positive_eq (hplain CatalogRelease.decisionValiditySeconds (by decide) value hvalue),
    required_eq (hnames CatalogRelease.permittedReasonCodes (by decide)) fun value _ =>
      hstrings value, hbool]
  rfl

theorem valid_iff (release : Release) : CatalogRelease.Valid release ↔ release.Consistent := by
  unfold CatalogRelease.Valid Release.Consistent
  constructor
  · rintro ⟨hcodes, hamounts, hcounts, hempty, hnodup⟩
    exact ⟨not_lt.mp hamounts, not_le.mp hcounts, hcodes,
      fun reason hreason heq => hempty ⟨reason, hreason, heq⟩, hnodup⟩
  · rintro ⟨hamounts, hcounts, hcodes, hempty, hnodup⟩
    exact ⟨hcodes, not_lt.mpr hamounts, not_le.mpr hcounts,
      fun ⟨reason, hreason, heq⟩ => hempty reason hreason heq, hnodup⟩

theorem keys_iff (hnames : ∀ field ∈ CatalogRelease.model, Unnamed fields field) :
    noExtra CatalogRelease.model (JsonTree.mapFields PyNumber.ofLiteral fields) =
      (JsonTree.mapFields JS.Number.ofLiteral fields).all fun field =>
        field.1 ∈ RefundPolicy.releaseKeys := by
  have hkeys : (JsonTree.mapFields JS.Number.ofLiteral fields).map Prod.fst =
      fields.map Prod.fst := JsonTree.keys_mapFields fields
  rw [Bool.eq_iff_iff, noExtra_iff hnames, List.all_eq_true, ← hkeys, List.forall_mem_map]
  exact forall₂_congr fun entry _ => (decide_eq_true_iff).symm

theorem modelValidate_eq (hnames : ∀ field ∈ CatalogRelease.model, Unnamed fields field)
    (hplain : PlainFields fields) :
    CatalogRelease.modelValidate (inPython (.obj fields)) =
      (RefundPolicy.validateRelease (inNode (.obj fields))).toOption := by
  have hfields : (inPython (.obj fields)).fields? =
    some (JsonTree.mapFields PyNumber.ofLiteral fields) := rfl
  have hfields' : (inNode (.obj fields)).fields? =
    some (JsonTree.mapFields JS.Number.ofLiteral fields) := rfl
  unfold CatalogRelease.modelValidate RefundPolicy.validateRelease
  rw [hfields, hfields', Option.filter_some, Option.filter_some, keys_iff hnames]
  split_ifs with hkeys
  · have hvalid : (fun release => decide (CatalogRelease.Valid release)) =
        fun release : Release => decide release.Consistent :=
      funext fun release => decide_eq_decide.mpr (valid_iff release)
    rw [Option.bind_some, read_eq hnames hplain, hvalid]
    dsimp only
    cases (RefundPolicy.readRelease (JsonTree.mapFields JS.Number.ofLiteral fields)).filter
      fun release => decide release.Consistent with
    | none => rfl
    | some release => rfl
  · rfl

theorem validateRelease_fields
    (h : RefundPolicy.validateRelease (inNode value) = .ok release) :
    ∃ fields, value = .obj fields ∧ ∀ field ∈ CatalogRelease.model, Unnamed fields field := by
  unfold RefundPolicy.validateRelease at h
  split at h
  · cases h
  rename_i fields' hfields
  obtain ⟨hfields, hkeys⟩ := Option.filter_eq_some_iff.mp hfields
  rw [inNode, JsonTree.fields?_map] at hfields
  obtain ⟨fields, hobj, rfl⟩ := Option.map_eq_some_iff.mp hfields
  have hmem : ∀ key ∈ fields.map Prod.fst, key ∈ RefundPolicy.releaseKeys := by
    have hmap : (JsonTree.mapFields JS.Number.ofLiteral fields).map Prod.fst =
        fields.map Prod.fst := JsonTree.keys_mapFields fields
    rw [← hmap, List.forall_mem_map]
    exact fun entry hentry => of_decide_eq_true (List.all_eq_true.mp hkeys entry hentry)
  have hpython : ∀ field ∈ CatalogRelease.model, field.name ∉ RefundPolicy.releaseKeys := by
    decide
  refine ⟨fields, JsonTree.fields?_eq_some.mp hobj, fun field hfield => Or.inr ?_⟩
  by_contra hname
  obtain ⟨found, hfound⟩ := Option.ne_none_iff_exists'.mp hname
  exact hpython field hfield (hmem _ (List.mem_map.mpr ⟨_, JsonTree.mem_of_lookup hfound, rfl⟩))

/-- What Python has read as an int is written as an integer. -/
theorem plain_of_int {n : ℤ} (h : (inPython value).num?.bind PyNumber.int? = some n) :
    Plain value := by
  intro literal hliteral
  rw [inPython, JsonTree.num?_map, hliteral] at h
  cases hinteger : literal.integer? with
  | some m => rfl
  | none => simp [PyNumber.ofLiteral, hinteger, PyNumber.int?] at h

theorem plain_of_required {read : PyValue → Option ℤ} {n : ℤ}
    (hread : ∀ value n, read value = some n → value.num?.bind PyNumber.int? = some n)
    (h : field.required (JsonTree.mapFields PyNumber.ofLiteral fields) read = some n) :
    ∀ value, List.lookup field.key fields = some value → Plain value := by
  intro value hvalue
  have hfind : field.find (JsonTree.mapFields PyNumber.ofLiteral fields) =
      some (field.key, inPython value) := by
    rw [Field.find, JsonTree.lookup_mapFields, hvalue]
    rfl
  rw [Field.required, hfind] at h
  exact plain_of_int (hread _ _ h)

theorem plainFields_of_read
    (h : CatalogRelease.read (JsonTree.mapFields PyNumber.ofLiteral fields) = some release) :
    PlainFields fields := by
  have hnonNegative : ∀ value n, safeNonNegativeInteger value = some n →
      value.num?.bind PyNumber.int? = some n := fun _ _ h => (Option.filter_eq_some_iff.mp h).1
  have hpositive : ∀ value n, safePositiveInteger value = some n →
      value.num?.bind PyNumber.int? = some n := fun _ _ h => (Option.filter_eq_some_iff.mp h).1
  simp only [CatalogRelease.read, Option.bind_eq_bind, Option.bind_eq_some_iff] at h
  obtain ⟨_, -, _, -, _, ha, _, hp, _, he, _, hh, _, hv, -⟩ := h
  intro field hfield
  simp only [numberFields, List.mem_cons, List.not_mem_nil, or_false] at hfield
  rcases hfield with rfl | rfl | rfl | rfl | rfl
  · exact plain_of_required hnonNegative ha
  · exact plain_of_required hnonNegative hp
  · exact plain_of_required hnonNegative he
  · exact plain_of_required hnonNegative hh
  · exact plain_of_required hpositive hv

/-- The names of the fields in Python, where JSON has others. -/
def pythonNames : List String := "schema_version" :: CatalogRelease.model.map Field.name

/-- Every number in the document is written without a point and without an exponent. -/
def PlainNumbers (document : Document) : Prop :=
  document.Numbers fun literal => literal.integer?.isSome = true

/-- No key in the document is a name in Python. -/
def NodeKeys (document : Document) : Prop := document.Keys fun key => key ∉ pythonNames

theorem plain_of_plainNumbers (h : PlainNumbers value) : Plain value := by
  intro literal hliteral
  cases h with
  | num h => exact Option.some.inj hliteral ▸ h
  | null => cases hliteral
  | bool b => cases hliteral
  | str s => cases hliteral
  | arr _ => cases hliteral
  | obj _ => cases hliteral

theorem plainNumbers_lookup {key : String} (h : PlainNumbers (.obj fields))
    (hlookup : List.lookup key fields = some value) : PlainNumbers value := by
  exact JsonTree.numbers_obj.mp h _ (JsonTree.mem_of_lookup hlookup)

theorem nodeKeys_lookup {key : String} (h : NodeKeys (.obj fields))
    (hlookup : List.lookup key fields = some value) : NodeKeys value := by
  cases h with
  | obj _ h => exact h _ (JsonTree.mem_of_lookup hlookup)

theorem lookup_pythonName {name : String} (h : NodeKeys (.obj fields)) (hname : name ∈ pythonNames) :
    List.lookup name fields = none := by
  by_contra hfound
  obtain ⟨found, hfound⟩ := Option.ne_none_iff_exists'.mp hfound
  cases h with
  | obj h _ => exact h _ (JsonTree.mem_of_lookup hfound) hname

/-- A release that Node reads and that writes its numbers as integers, Python reads as the same. -/
theorem release_in_python (hnode : RefundPolicy.validateRelease (inNode value) = .ok release)
    (hplain : PlainNumbers value) :
    CatalogRelease.modelValidate (inPython value) = some release := by
  obtain ⟨fields, rfl, hnames⟩ := validateRelease_fields hnode
  rw [modelValidate_eq hnames fun field _ value hvalue =>
    plain_of_plainNumbers (plainNumbers_lookup hplain hvalue), hnode]
  rfl

theorem modelValidate_fields
    (h : CatalogRelease.modelValidate (inPython value) = some release) :
    ∃ fields, value = .obj fields ∧ PlainFields fields := by
  obtain ⟨h, -⟩ := Option.filter_eq_some_iff.mp h
  obtain ⟨fields', hfields, hread⟩ := Option.bind_eq_some_iff.mp h
  obtain ⟨hfields, -⟩ := Option.filter_eq_some_iff.mp hfields
  rw [inPython, JsonTree.fields?_map] at hfields
  obtain ⟨fields, hobj, rfl⟩ := Option.map_eq_some_iff.mp hfields
  exact ⟨fields, JsonTree.fields?_eq_some.mp hobj, plainFields_of_read hread⟩

theorem toOption_eq_some {x : Except String Release} (h : x.toOption = some release) :
    x = .ok release := by
  cases x with
  | error message => cases h
  | ok r => exact congrArg Except.ok (Option.some.inj h)

/-- A release that Python reads under the keys of JSON, Node reads as the same. -/
theorem release_in_node (hpython : CatalogRelease.modelValidate (inPython value) = some release)
    (hkeys : NodeKeys value) : RefundPolicy.validateRelease (inNode value) = .ok release := by
  obtain ⟨fields, rfl, hplain⟩ := modelValidate_fields hpython
  have hnames : ∀ field ∈ CatalogRelease.model, Unnamed fields field := fun field hfield =>
    Or.inr (lookup_pythonName hkeys (List.mem_cons_of_mem _ (List.mem_map_of_mem hfield)))
  rw [modelValidate_eq hnames hplain] at hpython
  exact toOption_eq_some hpython

/-- A release that both read is the same for both. -/
theorem release_same (hnode : RefundPolicy.validateRelease (inNode value) = .ok release)
    (hpython : CatalogRelease.modelValidate (inPython value) = some release') :
    release = release' := by
  obtain ⟨fields, rfl, hnames⟩ := validateRelease_fields hnode
  obtain ⟨fields', heq, hplain⟩ := modelValidate_fields hpython
  cases heq
  rw [modelValidate_eq hnames hplain, hnode] at hpython
  exact Option.some.inj hpython

/-! A catalog reads the same. -/

theorem lookup_inNode {items : List JS.Value} :
    JsonTree.required (JsonTree.mapFields JS.Number.ofLiteral fields) "releases" JsonTree.items? =
      some items ↔
    ∃ items', List.lookup "releases" fields = some (.arr items') ∧ items = items'.map inNode := by
  rw [JsonTree.required_map, JsonTree.required, Option.bind_eq_some_iff]
  simp only [JsonTree.items?_map, Option.map_eq_some_iff, JsonTree.items?_eq_some]
  constructor
  · rintro ⟨_, hlookup, items', rfl, rfl⟩
    exact ⟨items', hlookup, rfl⟩
  · rintro ⟨items', hlookup, rfl⟩
    exact ⟨_, hlookup, items', rfl, rfl⟩

theorem schemaVersion_inNode {version : String} :
    JsonTree.required (JsonTree.mapFields JS.Number.ofLiteral fields) "schemaVersion"
      JsonTree.string? = some version ↔
    List.lookup "schemaVersion" fields = some (.str version) := by
  rw [JsonTree.required_map, JsonTree.required, Option.bind_eq_some_iff]
  simp only [JsonTree.string?_map, JsonTree.string?_eq_some, exists_eq_right]

theorem length_mapFields {N M : Type} (f : N → M) (fields : List (String × JsonTree N)) :
    (JsonTree.mapFields f fields).length = fields.length := by
  have h := congrArg List.length (JsonTree.keys_mapFields (f := f) fields)
  rwa [List.length_map, List.length_map] at h

/-- What a catalog is for Node. -/
theorem load_eq_ok : RefundPolicy.loadRefundPolicyCatalog (inNode value) = .ok releases ↔
    ∃ fields items, value = .obj fields ∧ fields.length = 2 ∧
      List.lookup "schemaVersion" fields = some (.str "1") ∧
      List.lookup "releases" fields = some (.arr items) ∧ items ≠ [] ∧
      List.Forall₂ (fun item release => RefundPolicy.validateRelease (inNode item) = .ok release)
        items releases ∧ (releases.map Release.policyVersion).Nodup := by
  constructor
  · intro h
    unfold RefundPolicy.loadRefundPolicyCatalog at h
    split at h
    · cases h
    rename_i fields' hfields
    rw [inNode, JsonTree.fields?_map] at hfields
    obtain ⟨fields, hobj, rfl⟩ := Option.map_eq_some_iff.mp hfields
    split at h
    · rename_i version items' hversion hitems
      split_ifs at h with hcheck
      obtain ⟨hlength, rfl, hempty⟩ := hcheck
      obtain ⟨items, hlookup, rfl⟩ := lookup_inNode.mp hitems
      obtain ⟨hreleases, hnodup⟩ := RefundPolicy.addReleases_nil_eq_ok.mp h
      rw [length_mapFields] at hlength
      exact ⟨fields, items, JsonTree.fields?_eq_some.mp hobj, hlength,
        schemaVersion_inNode.mp hversion, hlookup, fun heq => hempty (by rw [heq]; rfl),
        List.forall₂_map_left_iff.mp hreleases, hnodup⟩
    · cases h
  · rintro ⟨fields, items, rfl, hlength, hversion, hitems, hempty, hreleases, hnodup⟩
    have hversion' := schemaVersion_inNode.mpr hversion
    have hitems' := lookup_inNode.mpr ⟨items, hitems, rfl⟩
    have hfields : (inNode (.obj fields)).fields? =
      some (JsonTree.mapFields JS.Number.ofLiteral fields) := rfl
    unfold RefundPolicy.loadRefundPolicyCatalog
    rw [hfields]
    dsimp only
    rw [hversion', hitems']
    dsimp only
    rw [if_pos ⟨by rw [length_mapFields, hlength], rfl,
      fun heq => hempty (List.map_eq_nil_iff.mp heq)⟩]
    exact RefundPolicy.addReleases_nil_eq_ok.mpr
      ⟨List.forall₂_map_left_iff.mpr hreleases, hnodup⟩

theorem releases_inPython {found : List Release} :
    RefundPolicyCatalog.releases.required (JsonTree.mapFields PyNumber.ofLiteral fields)
      (fun value => (value.list? CatalogRelease.modelValidate).filter (· ≠ [])) = some found ↔
    ∃ items, List.lookup "releases" fields = some (.arr items) ∧ found ≠ [] ∧
      List.Forall₂ (fun item release =>
        CatalogRelease.modelValidate (inPython item) = some release) items found := by
  rw [Field.required, find_eq (Or.inl rfl)]
  simp only [Option.bind_eq_some_iff, Option.map_eq_some_iff, Option.filter_eq_some_iff,
    JsonTree.list?, decide_eq_true_iff]
  constructor
  · rintro ⟨_, ⟨value, hlookup, rfl⟩, ⟨items', hitems, hread⟩, hempty⟩
    rw [inPython, JsonTree.items?_map] at hitems
    obtain ⟨items, harr, rfl⟩ := Option.map_eq_some_iff.mp hitems
    rw [JsonTree.items?_eq_some.mp harr] at hlookup
    exact ⟨items, hlookup, hempty,
      List.forall₂_map_left_iff.mp (JsonTree.mapM_eq_some.mp hread)⟩
  · rintro ⟨items, hlookup, hempty, hread⟩
    refine ⟨_, ⟨_, hlookup, rfl⟩, ⟨_, ?_, JsonTree.mapM_eq_some.mpr
      (List.forall₂_map_left_iff.mpr hread)⟩, hempty⟩
    rw [inPython, JsonTree.items?_map]
    rfl

/-- What a catalog is for Python. -/
theorem modelValidate_eq_some :
    RefundPolicyCatalog.modelValidate (inPython value) = some releases ↔
    ∃ fields items key, value = .obj fields ∧
      noExtra RefundPolicyCatalog.model (JsonTree.mapFields PyNumber.ofLiteral fields) = true ∧
      RefundPolicyCatalog.schemaVersion.find (JsonTree.mapFields PyNumber.ofLiteral fields) =
        some (key, .str "1") ∧
      List.lookup "releases" fields = some (.arr items) ∧ releases ≠ [] ∧
      List.Forall₂ (fun item release => CatalogRelease.modelValidate (inPython item) = some release)
        items releases ∧ (releases.map Release.policyVersion).Nodup := by
  simp only [RefundPolicyCatalog.modelValidate, RefundPolicyCatalog.read, Option.filter_eq_some_iff,
    Option.bind_eq_bind, Option.bind_eq_some_iff, decide_eq_true_iff]
  constructor
  · rintro ⟨⟨fields', ⟨hfields, hextra⟩, version, hversion, hread⟩, hnodup⟩
    rw [inPython, JsonTree.fields?_map] at hfields
    obtain ⟨fields, hobj, rfl⟩ := Option.map_eq_some_iff.mp hfields
    obtain ⟨items, hlookup, hempty, hreleases⟩ := releases_inPython.mp hread
    obtain ⟨⟨key, found⟩, hfind, hfilter⟩ := Option.bind_eq_some_iff.mp hversion
    obtain ⟨hstring, hone⟩ := Option.filter_eq_some_iff.mp hfilter
    rw [of_decide_eq_true hone] at hstring
    obtain rfl : found = .str "1" := JsonTree.string?_eq_some.mp hstring
    exact ⟨fields, items, key, JsonTree.fields?_eq_some.mp hobj, hextra, hfind, hlookup, hempty,
      hreleases, hnodup⟩
  · rintro ⟨fields, items, key, rfl, hextra, hfind, hlookup, hempty, hreleases, hnodup⟩
    refine ⟨⟨_, ⟨rfl, hextra⟩, "1", ?_,
      releases_inPython.mpr ⟨items, hlookup, hempty, hreleases⟩⟩, hnodup⟩
    rw [Field.required, hfind]
    rfl

variable {items : List Document}

theorem forall₂_same {α β : Type} {R S : α → β → Prop} {as : List α} {bs cs : List β}
    (h : ∀ a b c, R a b → S a c → b = c) (hR : List.Forall₂ R as bs) (hS : List.Forall₂ S as cs) :
    bs = cs := by
  induction hR generalizing cs with
  | nil =>
    cases hS
    rfl
  | cons hab _ ih =>
    cases hS with
    | cons hac hS => rw [h _ _ _ hab hac, ih hS]

theorem forall₂_of_mem {α β : Type} {R S : α → β → Prop} {as : List α} {bs : List β}
    (h : ∀ a ∈ as, ∀ b, R a b → S a b) (hR : List.Forall₂ R as bs) : List.Forall₂ S as bs := by
  induction hR with
  | nil => exact .nil
  | cons hab _ ih =>
    exact .cons (h _ List.mem_cons_self _ hab) (ih fun a ha => h a (List.mem_cons_of_mem _ ha))

/-- With the two keys of a catalog, an object has two keys exactly where it has no others. -/
theorem length_eq_two (hnodup : (fields.map Prod.fst).Nodup)
    (hversion : "schemaVersion" ∈ fields.map Prod.fst)
    (hreleases : "releases" ∈ fields.map Prod.fst) :
    fields.length = 2 ↔ ∀ key ∈ fields.map Prod.fst, key ∈ ["schemaVersion", "releases"] := by
  have hsub : ["schemaVersion", "releases"] ⊆ fields.map Prod.fst := by
    simp [hversion, hreleases]
  have htwo : ["schemaVersion", "releases"].Nodup := by decide
  rw [← List.length_map (f := Prod.fst)]
  constructor
  · intro hlength
    have hperm := (List.subperm_of_subset htwo hsub).perm_of_length_le (by rw [hlength]; rfl)
    exact fun key hkey => hperm.mem_iff.mpr hkey
  · intro hkeys
    have hle := (List.subperm_of_subset hnodup hkeys).length_le
    have hge := (List.subperm_of_subset htwo hsub).length_le
    exact le_antisymm hle hge

theorem key_of_lookup {key : String} (h : List.lookup key fields = some value) :
    key ∈ fields.map Prod.fst := List.mem_map.mpr ⟨_, JsonTree.mem_of_lookup h, rfl⟩

theorem readCatalog_eq_ok : readCatalog document = .ok releases ↔
    RefundPolicyCatalog.modelValidate (inPython document.resolve) = some releases := by
  unfold readCatalog loads
  cases h : RefundPolicyCatalog.modelValidate (document.resolve.map PyNumber.ofLiteral) with
  | none => simp
  | some found => simp

theorem ne_nil_iff {α β : Type} {R : α → β → Prop} {as : List α} {bs : List β}
    (h : List.Forall₂ R as bs) : as ≠ [] ↔ bs ≠ [] := by
  cases h <;> simp

/-- A catalog that Node reads and that writes its numbers as integers, Python reads as the same. -/
theorem catalog_in_python
    (hnode : RefundPolicy.loadRefundPolicyCatalog (JS.parse document) = .ok releases)
    (hplain : PlainNumbers document.resolve) : readCatalog document = .ok releases := by
  obtain ⟨fields, items, hobj, hlength, hversion, hlookup, hempty, hreleases, hnodup⟩ :=
    load_eq_ok.mp hnode
  have hkeys := (length_eq_two (JsonTree.resolve_nodup hobj) (key_of_lookup hversion)
    (key_of_lookup hlookup)).mp hlength
  have hnames : ∀ field ∈ RefundPolicyCatalog.model, Unnamed fields field := by
    intro field hfield
    simp only [RefundPolicyCatalog.model, List.mem_cons, List.not_mem_nil, or_false] at hfield
    rcases hfield with rfl | rfl
    · refine Or.inr ?_
      by_contra hname
      obtain ⟨found, hfound⟩ := Option.ne_none_iff_exists'.mp hname
      exact absurd (hkeys _ (key_of_lookup hfound)) (by decide)
    · exact Or.inl rfl
  rw [hobj] at hplain
  rw [readCatalog_eq_ok, hobj, modelValidate_eq_some]
  refine ⟨fields, items, "schemaVersion", rfl, (noExtra_iff hnames).mpr hkeys, ?_, hlookup,
    (ne_nil_iff hreleases).mp hempty, ?_, hnodup⟩
  · rw [find_eq (hnames _ List.mem_cons_self), RefundPolicyCatalog.schemaVersion, hversion]
    rfl
  · refine forall₂_of_mem (fun item hitem release hrelease => ?_) hreleases
    exact release_in_python hrelease
      (JsonTree.numbers_arr.mp (plainNumbers_lookup hplain hlookup) item hitem)

/-- A catalog that Python reads under the keys of JSON, Node reads as the same. -/
theorem catalog_in_node (hpython : readCatalog document = .ok releases)
    (hkeys : NodeKeys document.resolve) :
    RefundPolicy.loadRefundPolicyCatalog (JS.parse document) = .ok releases := by
  obtain ⟨fields, items, key, hobj, hextra, hfind, hlookup, hempty, hreleases, hnodup⟩ :=
    modelValidate_eq_some.mp (readCatalog_eq_ok.mp hpython)
  rw [hobj] at hkeys
  have hnames : ∀ field ∈ RefundPolicyCatalog.model, Unnamed fields field := by
    intro field hfield
    simp only [RefundPolicyCatalog.model, List.mem_cons, List.not_mem_nil, or_false] at hfield
    rcases hfield with rfl | rfl
    · exact Or.inr (lookup_pythonName hkeys List.mem_cons_self)
    · exact Or.inl rfl
  rw [find_eq (hnames _ List.mem_cons_self)] at hfind
  obtain ⟨version, hversion, heq⟩ := Option.map_eq_some_iff.mp hfind
  obtain rfl : version = .str "1" := by
    have hstring : (inPython version).string? = some "1" :=
      JsonTree.string?_eq_some.mpr (congrArg Prod.snd heq)
    rw [inPython, JsonTree.string?_map] at hstring
    exact JsonTree.string?_eq_some.mp hstring
  refine load_eq_ok.mpr ⟨fields, items, hobj, ?_, hversion, hlookup,
    (ne_nil_iff hreleases).mpr hempty, ?_, hnodup⟩
  · exact (length_eq_two (JsonTree.resolve_nodup hobj) (key_of_lookup hversion)
      (key_of_lookup hlookup)).mpr ((noExtra_iff hnames).mp hextra)
  · refine forall₂_of_mem (fun item hitem release hrelease => ?_) hreleases
    have hitems := nodeKeys_lookup hkeys hlookup
    cases hitems with
    | arr hitems => exact release_in_node hrelease (hitems item hitem)

/-- The two readers of a catalog differ in the spelling of numbers and in the names of keys only,
and what both read is the same. -/
theorem catalogs_agree (document : Document) :
    (∀ releases, RefundPolicy.loadRefundPolicyCatalog (JS.parse document) = .ok releases →
      PlainNumbers document.resolve → readCatalog document = .ok releases) ∧
    (∀ releases, readCatalog document = .ok releases → NodeKeys document.resolve →
      RefundPolicy.loadRefundPolicyCatalog (JS.parse document) = .ok releases) ∧
    (∀ releases releases',
      RefundPolicy.loadRefundPolicyCatalog (JS.parse document) = .ok releases →
      readCatalog document = .ok releases' → releases = releases') := by
  refine ⟨fun _ => catalog_in_python, fun _ => catalog_in_node, ?_⟩
  intro releases releases' hnode hpython
  obtain ⟨fields, items, hobj, -, -, hlookup, -, hreleases, -⟩ := load_eq_ok.mp hnode
  obtain ⟨fields', items', key, hobj', -, -, hlookup', -, hreleases', -⟩ :=
    modelValidate_eq_some.mp (readCatalog_eq_ok.mp hpython)
  obtain rfl : fields = fields' := by
    rw [hobj] at hobj'
    exact JsonTree.obj.inj hobj'
  obtain rfl : items = items' := by
    rw [hlookup] at hlookup'
    exact JsonTree.arr.inj (Option.some.inj hlookup')
  exact forall₂_same (fun item release release'
    (hnode : RefundPolicy.validateRelease (inNode item) = .ok release)
    (hpython : CatalogRelease.modelValidate (inPython item) = some release') =>
      release_same hnode hpython) hreleases hreleases'

theorem catalogs_agree_releases :
    readCatalog RefundPolicy.Sample.releases =
      RefundPolicy.loadRefundPolicyCatalog (JS.parse RefundPolicy.Sample.releases) := by
  have hplain : PlainNumbers RefundPolicy.Sample.releases.resolve := by
    have hresolve : RefundPolicy.Sample.releases.resolve = RefundPolicy.Sample.releases := by rfl
    rw [hresolve]
    simp [PlainNumbers, RefundPolicy.Sample.releases, RefundPolicy.Sample.catalog,
      RefundPolicy.Sample.release, RefundPolicy.Sample.integer, NumberLiteral.integer?]
  cases hload : RefundPolicy.loadRefundPolicyCatalog (JS.parse RefundPolicy.Sample.releases) with
  | error message =>
    have hok : (RefundPolicy.loadRefundPolicyCatalog
      (JS.parse RefundPolicy.Sample.releases)).toOption.isSome = true := by decide +kernel
    rw [hload] at hok
    cases hok
  | ok releases =>
    exact (catalogs_agree RefundPolicy.Sample.releases).1 releases hload hplain

/-- Node alone reads 900.0 as an integer, and Python alone reads a field under its own name. -/
theorem catalogs_differ :
    ((RefundPolicy.loadRefundPolicyCatalog
        (JS.parse RefundPolicy.Sample.fractional)).toOption.isSome = true ∧
      readCatalog RefundPolicy.Sample.fractional = .error "INVALID_REFUND_POLICY_CATALOG") ∧
    RefundPolicy.loadRefundPolicyCatalog (JS.parse RefundPolicy.Sample.pythonNamed) =
        .error "INVALID_REFUND_POLICY_CATALOG" ∧
      (readCatalog RefundPolicy.Sample.pythonNamed).toOption.isSome = true :=
  ⟨⟨by decide +kernel, by decide +kernel⟩, by decide +kernel, by decide +kernel⟩

end CSO.System
