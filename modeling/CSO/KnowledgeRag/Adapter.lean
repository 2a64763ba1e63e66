import CSO.KnowledgeRag.Index

/-! Calls of the indexing adapter side by side on one index. -/
namespace CSO.KnowledgeRag.Adapter
open Transition (Machine Table)

/-- Where a call of `index_documents` stands. -/
inductive Phase
  | asking
  | creating
  | recovering
  | checking
  | writing (indexCreated : Bool)
  | done (answer : Except String BulkIndexResult)
  deriving Repr

/-- A call whose payload has been built. -/
structure Call where
  config : OpenSearchIndexConfig
  documents : List IndexableKnowledgeChunk
  refresh : Bool
  phase : Phase
  valid : validateDocuments config documents = .ok ()

/-- The index, the calls, and everything that has ever been written to it. -/
structure State where
  index : Option SearchIndex
  calls : List Call
  written : List IndexableKnowledgeChunk

structure BulkIndexFailure where
  documentId : String
  status : Option ℤ
  reason : String
  deriving DecidableEq, Repr

/-- What becomes of the request that a call has sent. -/
inductive Outcome
  | exists
  | created
  /-- The index is created, but the response does not arrive. -/
  | createLost
  | createRefused
  | mapping
  | indexed
  | failed (applied : List IndexableKnowledgeChunk) (failures : List BulkIndexFailure)
  /-- A bulk request without a response. -/
  | bulkLost (applied : List IndexableKnowledgeChunk) (message : String)
  /-- Another request raises. -/
  | raised (message : String)
  deriving Repr

inductive Event
  | call (config : OpenSearchIndexConfig) (documents : List IndexableKnowledgeChunk)
      (refresh : Bool)
  | proceed (i : ℕ) (outcome : Outcome)
  deriving Repr

def Call.to (call : Call) (phase : Phase) : Call := { call with phase }

/-- The index is ensured; without documents there is nothing to write. -/
def Call.ensured (call : Call) (indexCreated : Bool) : Call :=
  call.to (if call.documents = [] then
    .done (.ok ⟨call.config.indexName, indexCreated, 0, call.refresh⟩) else .writing indexCreated)

def Call.raise (call : Call) (message : String) : Call := call.to (.done (.error message))

def State.set (s : State) (i : ℕ) (call : Call) : State := { s with calls := s.calls.set i call }

def State.create (s : State) (config : OpenSearchIndexConfig) : State :=
  { s with index := some ⟨buildIndexDefinition config, Table.empty⟩ }

/-- The documents take the places of those with their ids. -/
def State.write (s : State) (documents : List IndexableKnowledgeChunk) : State :=
  { s with
    index := s.index.map fun index => { index with documents := index.documents.putAll documents }
    written := s.written ++ documents }

def bulkFailed (failures : List BulkIndexFailure) : String :=
  "OpenSearch bulk indexing failed. " ++ "; ".intercalate
    (failures.map fun failure => failure.documentId ++ ": " ++ failure.reason)

/-- What a call does next, and the state that the outcome of its request leaves. -/
def State.proceed (s : State) (i : ℕ) (call : Call) : Phase → Outcome → Option State
  | .asking, .exists =>
    some (s.set i (call.to (if s.index.isSome then .checking else .creating)))
  | .asking, .raised message => some (s.set i (call.raise message))
  | .creating, .created =>
    if s.index.isNone then some ((s.create call.config).set i (call.ensured true)) else none
  | .creating, .createLost =>
    if s.index.isNone then some ((s.create call.config).set i (call.to .recovering)) else none
  | .creating, .createRefused => some (s.set i (call.to .recovering))
  | .recovering, .exists =>
    some (s.set i (if s.index.isSome then call.to .checking
      else call.raise ("Failed to create index '" ++ call.config.indexName ++ "'.")))
  | .recovering, .raised message => some (s.set i (call.raise message))
  | .checking, .mapping =>
    match s.index with
    | some index =>
      match validateExistingIndex call.config index with
      | .ok _ => some (s.set i (call.ensured false))
      | .error message => some (s.set i (call.raise message))
    | none => none
  | .checking, .raised message => some (s.set i (call.raise message))
  | .writing indexCreated, .indexed =>
    some ((s.write call.documents).set i (call.to (.done (.ok
      ⟨call.config.indexName, indexCreated, call.documents.length, call.refresh⟩))))
  | .writing _, .failed applied failures =>
    if applied.Sublist call.documents then
      some ((s.write applied).set i (call.raise (bulkFailed failures))) else none
  | .writing _, .bulkLost applied message =>
    if applied.Sublist call.documents then
      some ((s.write applied).set i (call.raise message)) else none
  | _, _ => none

def State.step (s : State) : Event → Option State
  | .call config documents refresh =>
    if valid : validateDocuments config documents = .ok () then
      some { s with calls := s.calls ++ [⟨config, documents, refresh, .asking, valid⟩] }
    else none
  | .proceed i outcome => s.calls[i]?.bind fun call => s.proceed i call call.phase outcome

/-- The documents that a request has written. -/
def Outcome.writes (documents : List IndexableKnowledgeChunk) :
    Outcome → List IndexableKnowledgeChunk
  | indexed => documents
  | failed applied _ => applied
  | bulkLost applied _ => applied
  | _ => []

def Event.writes (s : State) : Event → List IndexableKnowledgeChunk
  | call _ _ _ => []
  | proceed i outcome =>
    match s.calls[i]? with
    | some proceeding => outcome.writes proceeding.documents
    | none => []

def adapter : Machine State Event := ⟨State.step⟩

def State.initial : State := ⟨none, [], []⟩

variable {s t : State} {e : Event} {es : List Event} {i : ℕ} {call call' : Call}
  {outcome : Outcome}

@[simp] theorem to_config (call : Call) (phase : Phase) : (call.to phase).config = call.config := rfl

@[simp] theorem to_documents (call : Call) (phase : Phase) :
    (call.to phase).documents = call.documents := rfl

@[simp] theorem to_phase (call : Call) (phase : Phase) : (call.to phase).phase = phase := rfl

@[simp] theorem ensured_config (call : Call) (indexCreated : Bool) :
    (call.ensured indexCreated).config = call.config := rfl

@[simp] theorem ensured_documents (call : Call) (indexCreated : Bool) :
    (call.ensured indexCreated).documents = call.documents := rfl

@[simp] theorem raise_config (call : Call) (message : String) :
    (call.raise message).config = call.config := rfl

@[simp] theorem raise_documents (call : Call) (message : String) :
    (call.raise message).documents = call.documents := rfl

@[simp] theorem raise_phase (call : Call) (message : String) :
    (call.raise message).phase = .done (.error message) := rfl

/-- The index has the schema of the configuration. -/
def State.Ready (s : State) (config : OpenSearchIndexConfig) : Prop :=
  ∃ index, s.index = some index ∧ index.metadata = buildIndexDefinition config

def Phase.Writing : Phase → Prop
  | writing _ => True
  | _ => False

/-- What a call does to the index when its request comes out so. -/
inductive Effect (s : State) (call : Call) (outcome : Outcome) (call' : Call) (t : State) : Prop
  | rest (hnil : outcome.writes call.documents = []) (hindex : t.index = s.index)
      (hwritten : t.written = s.written) (hready : call'.phase.Writing → t.Ready call.config)
  | create (hnil : outcome.writes call.documents = []) (hnone : s.index = none)
      (hindex : t.index = some ⟨buildIndexDefinition call.config, Table.empty⟩)
      (hwritten : t.written = s.written)
  | write (hphase : call.phase.Writing)
      (hsub : (outcome.writes call.documents).Sublist call.documents)
      (hindex : t.index = (s.write (outcome.writes call.documents)).index)
      (hwritten : t.written = s.written ++ outcome.writes call.documents)
      (hdone : ¬call'.phase.Writing)

theorem ready_of_validate {config : OpenSearchIndexConfig} {index : SearchIndex} {u : Unit}
    (h : validateExistingIndex config index = .ok u) :
    index.metadata = buildIndexDefinition config := by
  unfold validateExistingIndex at h
  split_ifs at h with hne
  rw [not_or, not_not, not_not] at hne
  obtain ⟨hversion, hdimension⟩ := hne
  unfold buildIndexDefinition
  rw [← hversion, ← hdimension]

theorem proceed_effect (h : s.proceed i call call.phase outcome = some t) : ∃ call',
    t.calls = s.calls.set i call' ∧ call'.config = call.config ∧
      call'.documents = call.documents ∧ Effect s call outcome call' t := by
  generalize hphase : call.phase = phase at h
  unfold State.proceed at h
  split at h
  · cases h
    refine ⟨_, rfl, rfl, rfl, .rest rfl rfl rfl fun hwriting => ?_⟩
    rw [to_phase] at hwriting
    split_ifs at hwriting <;> cases hwriting
  · cases h
    exact ⟨_, rfl, rfl, rfl, .rest rfl rfl rfl False.elim⟩
  · split_ifs at h with hnone
    cases h
    exact ⟨_, rfl, rfl, rfl, .create rfl (Option.isNone_iff_eq_none.mp hnone) rfl rfl⟩
  · split_ifs at h with hnone
    cases h
    exact ⟨_, rfl, rfl, rfl, .create rfl (Option.isNone_iff_eq_none.mp hnone) rfl rfl⟩
  · cases h
    exact ⟨_, rfl, rfl, rfl, .rest rfl rfl rfl False.elim⟩
  · cases h
    refine ⟨_, rfl, ?_, ?_, .rest rfl rfl rfl fun hwriting => ?_⟩
    · split_ifs <;> rfl
    · split_ifs <;> rfl
    · split_ifs at hwriting <;> cases hwriting
  · cases h
    exact ⟨_, rfl, rfl, rfl, .rest rfl rfl rfl False.elim⟩
  · -- The schema that is there has been compared with the configuration.
    split at h
    · rename_i index hindex
      split at h
      · rename_i hvalid
        cases h
        exact ⟨_, rfl, rfl, rfl, .rest rfl rfl rfl fun _ => ⟨index, hindex, ready_of_validate hvalid⟩⟩
      · cases h
        exact ⟨_, rfl, rfl, rfl, .rest rfl rfl rfl False.elim⟩
    · cases h
  · cases h
    exact ⟨_, rfl, rfl, rfl, .rest rfl rfl rfl False.elim⟩
  · cases h
    exact ⟨_, rfl, rfl, rfl, .write (hphase ▸ trivial) (List.Sublist.refl _) rfl rfl False.elim⟩
  · split_ifs at h with hsub
    cases h
    exact ⟨_, rfl, rfl, rfl, .write (hphase ▸ trivial) hsub rfl rfl False.elim⟩
  · split_ifs at h with hsub
    cases h
    exact ⟨_, rfl, rfl, rfl, .write (hphase ▸ trivial) hsub rfl rfl False.elim⟩
  · cases h

theorem step_proceed (h : adapter.step s (.proceed i outcome) = some t) : ∃ call call',
    s.calls[i]? = some call ∧ t.calls = s.calls.set i call' ∧ call'.config = call.config ∧
      call'.documents = call.documents ∧ Effect s call outcome call' t := by
  obtain ⟨call, hcall, hproceed⟩ := Option.bind_eq_some_iff.mp h
  obtain ⟨call', hcalls, hconfig, hdocuments, heffect⟩ := proceed_effect hproceed
  exact ⟨call, call', hcall, hcalls, hconfig, hdocuments, heffect⟩

theorem step_call {config : OpenSearchIndexConfig} {documents : List IndexableKnowledgeChunk}
    {refresh : Bool} (h : adapter.step s (.call config documents refresh) = some t) :
    t.index = s.index ∧ t.written = s.written ∧
      ∃ call, ¬call.phase.Writing ∧ t.calls = s.calls ++ [call] := by
  unfold adapter State.step at h
  dsimp only at h
  split_ifs at h
  cases h
  exact ⟨rfl, rfl, _, id, rfl⟩

/-! What is written fits the index. -/

theorem Call.uniform (call : Call) : ∀ a ∈ call.documents, ∀ b ∈ call.documents,
    a.embeddingModel = b.embeddingModel := by
  have h := call.valid
  unfold validateDocuments at h
  split_ifs at h with hmixed
  exact hmixed

theorem Call.dimension (call : Call) : ∀ document ∈ call.documents,
    document.embeddingModel.dimension = call.config.vectorDimension := by
  have h := call.valid
  unfold validateDocuments at h
  split_ifs at h with hmixed hdimension
  exact fun document hdocument => not_not.mp fun hne => hdimension ⟨document, hdocument, hne⟩

/-- A call writes to an index with its schema, and all that is written has the dimension of the
index. -/
structure State.Sound (s : State) : Prop where
  ready : ∀ call ∈ s.calls, call.phase.Writing → s.Ready call.config
  written : ∀ document ∈ s.written, ∃ index, s.index = some index ∧
    document.embeddingModel.dimension = index.metadata.vectorDimension

theorem sound_initial : State.initial.Sound :=
  ⟨fun _ h => absurd h List.not_mem_nil, fun _ h => absurd h List.not_mem_nil⟩

/-- The schema of an index stays. -/
theorem Effect.metadata {index : SearchIndex} (h : Effect s call outcome call' t)
    (hindex : s.index = some index) :
    ∃ index', t.index = some index' ∧ index'.metadata = index.metadata := by
  cases h with
  | rest _ hsame => exact ⟨index, hsame.trans hindex, rfl⟩
  | create _ hnone => exact absurd (hnone.symm.trans hindex) (Option.some_ne_none index).symm
  | write _ _ hwrite =>
    unfold State.write at hwrite
    rw [hindex] at hwrite
    exact ⟨_, hwrite, rfl⟩

theorem Effect.ready {config : OpenSearchIndexConfig} (h : Effect s call outcome call' t)
    (hready : s.Ready config) : t.Ready config := by
  obtain ⟨index, hindex, hmeta⟩ := hready
  obtain ⟨index', hindex', hmeta'⟩ := h.metadata hindex
  exact ⟨index', hindex', hmeta'.trans hmeta⟩

theorem Effect.written_fits (h : Effect s call outcome call' t) (hs : s.Sound) (hcall : call ∈ s.calls) :
    ∀ document ∈ t.written, ∃ index, t.index = some index ∧
      document.embeddingModel.dimension = index.metadata.vectorDimension := by
  have hkept : ∀ document ∈ s.written, ∃ index, t.index = some index ∧
      document.embeddingModel.dimension = index.metadata.vectorDimension := by
    intro document hdocument
    obtain ⟨index, hindex, hdimension⟩ := hs.written document hdocument
    obtain ⟨index', hindex', hmeta⟩ := h.metadata hindex
    exact ⟨index', hindex', by rw [hmeta, hdimension]⟩
  have hmetadata : ∀ index, s.index = some index →
      ∃ index', t.index = some index' ∧ index'.metadata = index.metadata := fun _ => h.metadata
  cases h with
  | rest _ _ hsame => exact hsame ▸ hkept
  | create _ _ _ hsame => exact hsame ▸ hkept
  | write hphase hsub _ hwritten =>
    intro document hdocument
    rw [hwritten] at hdocument
    rcases List.mem_append.mp hdocument with hold | hnew
    · exact hkept document hold
    · obtain ⟨index, hthere, hmeta⟩ := hs.ready call hcall hphase
      obtain ⟨index', hindex', hmeta'⟩ := hmetadata index hthere
      refine ⟨index', hindex', ?_⟩
      rw [hmeta', hmeta, call.dimension document (hsub.subset hnew)]
      rfl

theorem sound_step (hs : s.Sound) (h : adapter.step s e = some t) : t.Sound := by
  cases e with
  | call config documents refresh =>
    obtain ⟨hindex, hwritten, new, hnew, hcalls⟩ := step_call h
    constructor
    · intro call hcall hwriting
      rw [hcalls] at hcall
      rcases List.mem_append.mp hcall with hold | hcall
      · obtain ⟨index, hthere, hmeta⟩ := hs.ready call hold hwriting
        exact ⟨index, hindex.trans hthere, hmeta⟩
      · exact absurd (List.mem_singleton.mp hcall ▸ hwriting) hnew
    · rw [hindex, hwritten]
      exact hs.written
  | proceed i outcome =>
    obtain ⟨call, call', hcall, hcalls, hconfig, -, heffect⟩ := step_proceed h
    refine ⟨fun other hother hwriting => ?_,
      heffect.written_fits hs (List.mem_of_getElem? hcall)⟩
    rw [hcalls] at hother
    rcases List.mem_or_eq_of_mem_set hother with hold | rfl
    · exact heffect.ready (hs.ready other hold hwriting)
    · -- The call that proceeds writes next only when it has found or created its schema.
      rw [hconfig]
      cases heffect with
      | rest _ _ _ hready => exact hready hwriting
      | create _ _ hindex => exact ⟨_, hindex, rfl⟩
      | write _ _ _ _ hdone => exact absurd hwriting hdone

/-- Everything that is ever written to an index has the dimension the index was created with. -/
theorem written_dimension (h : adapter.Reachable (· = State.initial) s) :
    ∀ document ∈ s.written, ∃ index, s.index = some index ∧
      document.embeddingModel.dimension = index.metadata.vectorDimension :=
  (h.invariant (fun _ h₀ => h₀ ▸ sound_initial) fun _ _ _ => sound_step).written

/-! A call that runs by itself. -/

/-- The state with a call that has come last. -/
def State.with (s : State) (call : Call) : State := { s with calls := s.calls ++ [call] }

theorem set_with (s : State) (call call' : Call) :
    (s.with call).set s.calls.length call' = s.with call' := by
  unfold State.with State.set
  dsimp only
  rw [List.set_append_right _ _ (le_refl _), Nat.sub_self]
  rfl

theorem step_with (s : State) (call : Call) (outcome : Outcome) :
    adapter.step (s.with call) (.proceed s.calls.length outcome) =
      (s.with call).proceed s.calls.length call call.phase outcome := by
  have hlast : (s.with call).calls[s.calls.length]? = some call := List.getElem?_concat_length
  unfold adapter State.step
  dsimp only
  rw [hlast]
  rfl

/-- The index is ensured by a call by itself. -/
theorem run_ensure {ready : SearchIndex} {created : Bool} (call : Call)
    (hphase : call.phase = .asking) (h : ensureIndex call.config s.index = .ok (ready, created)) :
    ∃ es, adapter.run (s.with call) es =
      some ({ s with index := some ready }.with (call.ensured created)) := by
  cases hindex : s.index with
  | none =>
    rw [hindex] at h
    cases h
    refine ⟨[.proceed s.calls.length .exists, .proceed s.calls.length .created],
      Machine.run_cons.mpr ⟨s.with (call.to .creating), ?_, Machine.run_singleton.mpr ?_⟩⟩
    · rw [step_with, hphase]
      unfold State.proceed
      dsimp only
      rw [set_with, show (s.with call).index = none from hindex]
      rfl
    · rw [step_with, to_phase]
      unfold State.proceed
      dsimp only
      rw [show (s.with (call.to .creating)).index = none from hindex]
      exact congrArg some (set_with (s.create call.config) (call.to .creating) (call.ensured true))
  | some known =>
    rw [hindex] at h
    unfold ensureIndex at h
    dsimp only at h
    cases hvalid : validateExistingIndex call.config known with
    | error message =>
      rw [hvalid] at h
      cases h
    | ok _ =>
      rw [hvalid] at h
      cases h
      refine ⟨[.proceed s.calls.length .exists, .proceed s.calls.length .mapping],
        Machine.run_cons.mpr ⟨s.with (call.to .checking), ?_, Machine.run_singleton.mpr ?_⟩⟩
      · rw [step_with, hphase]
        unfold State.proceed
        dsimp only
        rw [set_with, show (s.with call).index = some ready from hindex]
        rfl
      · rw [step_with, to_phase]
        unfold State.proceed
        dsimp only
        rw [show (s.with (call.to .checking)).index = some ready from hindex]
        dsimp only
        rw [to_config, hvalid, ← hindex]
        exact congrArg some (set_with s (call.to .checking) (call.ensured false))

theorem step_indexed (s : State) (call : Call) {created : Bool}
    (hphase : call.phase = .writing created) :
    adapter.step (s.with call) (.proceed s.calls.length .indexed) =
      some ((s.write call.documents).with (call.to (.done (.ok
        ⟨call.config.indexName, created, call.documents.length, call.refresh⟩)))) := by
  rw [step_with, hphase]
  exact congrArg some (set_with (s.write call.documents) call _)

/-- A call that succeeds by itself is a run, at the end of which its documents are written. -/
theorem run_indexDocuments {config : OpenSearchIndexConfig}
    {documents : List IndexableKnowledgeChunk} {refresh : Bool} {result : SearchIndex}
    {answer : BulkIndexResult}
    (h : indexDocuments s.index config documents refresh = .ok (result, answer)) :
    ∃ es t, adapter.run s es = some t ∧ t.index = some result ∧
      t.written = s.written ++ documents ∧
      ∃ call, t.calls = s.calls ++ [call] ∧ call.phase = .done (.ok answer) := by
  unfold indexDocuments buildBulkIndexPayload at h
  cases hvalid : validateDocuments config documents with
  | error message =>
    rw [hvalid] at h
    cases h
  | ok _ =>
    cases hensure : ensureIndex config s.index with
    | error message =>
      rw [hvalid, hensure] at h
      cases h
    | ok ensured =>
      obtain ⟨ready, created⟩ := ensured
      rw [hvalid, hensure] at h
      cases h
      have hcall : adapter.step s (.call config documents refresh) =
          some (s.with ⟨config, documents, refresh, .asking, hvalid⟩) := dif_pos hvalid
      obtain ⟨es, hrun⟩ := run_ensure ⟨config, documents, refresh, .asking, hvalid⟩ rfl hensure
      by_cases hnil : documents = []
      · subst hnil
        exact ⟨_, _, Machine.run_cons.mpr ⟨_, hcall, hrun⟩, rfl, (List.append_nil _).symm, _, rfl,
          rfl⟩
      · unfold Call.ensured at hrun
        rw [if_neg hnil] at hrun
        have hwrite := step_indexed { s with index := some ready }
          (Call.to ⟨config, documents, refresh, .asking, hvalid⟩ (.writing created)) (to_phase _ _)
        refine ⟨.call config documents refresh :: es ++ [.proceed s.calls.length .indexed], _,
          Machine.run_append.mpr ⟨_, Machine.run_cons.mpr ⟨_, hcall, hrun⟩,
            Machine.run_singleton.mpr hwrite⟩, ?_, rfl, _, rfl, rfl⟩
        rw [SearchIndex.bulk, List.map_map]
        exact congrArg (fun rows => some { ready with documents := ready.documents.putAll rows })
          (List.map_id documents).symm

/-! Two models of one dimension. -/

namespace Sample
open KnowledgeRag.Sample (config sourceHash documentId)

def document (modelName chunkId : String) : IndexableKnowledgeChunk where
  indexDocumentId := documentId chunkId
  ingestionJobId := "job-1"
  knowledgeReleaseId := "release-1"
  tenantId := "acme"
  environmentId := "production"
  knowledgeDocumentId := "guide"
  sourceDocumentId := "guide-source"
  sourceVersion := "1"
  chunkId := chunkId
  parentSectionId := "section-001"
  chunkOrdinalWithinSection := 1
  title := "Guide"
  sectionPath := ["Refunds"]
  pageStart := none
  pageEnd := none
  content := "Refunds take five days."
  contentSha256 := sourceHash
  sourceUri := "guide.md"
  sourceContentSha256 := sourceHash
  embeddingVector := [1]
  embeddingModel := ⟨"local", modelName, "1", 1⟩
  classification := .customerSafe
  locale := "en"
  effectiveFrom := none
  effectiveUntil := none
  parserVersion := "1"
  chunkingStrategyVersion := "structure-aware-parent-child-v1"
  artifactSha256 := sourceHash
  length_vector := rfl

theorem validate (modelName chunkId : String) :
    validateDocuments config [document modelName chunkId] = .ok () := by
  unfold validateDocuments
  rw [if_neg (by simp), if_neg (by simp [document, config])]

/-- One chunk is written with each of two models. -/
theorem exists_run : ∃ es s, adapter.run .initial es = some s ∧
    s.written = [document "embed" "section-001-chunk-001", document "other" "section-001-chunk-002"] := by
  obtain ⟨result, _, hfirst, hmeta⟩ := indexDocuments_ok true
    (validate "embed" "section-001-chunk-001") (show Compatible config State.initial.index from trivial)
  obtain ⟨es, s, hrun, hs, hwritten, -⟩ := run_indexDocuments hfirst
  obtain ⟨result', _, hsecond, -⟩ := indexDocuments_ok true
    (validate "other" "section-001-chunk-002") (show Compatible config (some result) from hmeta)
  rw [← hs] at hsecond
  obtain ⟨es', t, hrun', -, hwritten', -⟩ := run_indexDocuments hsecond
  refine ⟨es ++ es', t, Machine.run_append.mpr ⟨s, hrun, hrun'⟩, ?_⟩
  rw [hwritten', hwritten]
  rfl

end Sample

/-! The model of what is written. -/

/-- All documents carry the same model identity. -/
def OneModel (documents : List IndexableKnowledgeChunk) : Prop :=
  ∀ a ∈ documents, ∀ b ∈ documents, a.embeddingModel = b.embeddingModel

instance (documents : List IndexableKnowledgeChunk) : Decidable (OneModel documents) :=
  inferInstanceAs (Decidable (∀ a ∈ documents, ∀ b ∈ documents, a.embeddingModel = b.embeddingModel))

/-- The documents that the step writes have the provider, the name and the version of all that has
been written before. -/
def SameName (s : State) (e : Event) (_ : State) : Prop :=
  ∀ document ∈ e.writes s, ∀ other ∈ s.written,
    document.embeddingModel.provider = other.embeddingModel.provider ∧
      document.embeddingModel.modelName = other.embeddingModel.modelName ∧
      document.embeddingModel.modelVersion = other.embeddingModel.modelVersion

theorem writes_of_call (h : s.calls[i]? = some call) :
    (Event.proceed i outcome).writes s = outcome.writes call.documents := by
  unfold Event.writes
  dsimp only
  rw [h]

theorem written_step (h : adapter.step s e = some t) : t.written = s.written ++ e.writes s := by
  cases e with
  | call config documents refresh =>
    obtain ⟨-, hwritten, -⟩ := step_call h
    exact hwritten.trans (List.append_nil _).symm
  | proceed i outcome =>
    obtain ⟨call, call', hcall, -, -, -, heffect⟩ := step_proceed h
    rw [writes_of_call hcall]
    cases heffect with
    | rest hnil _ hsame => rw [hnil, List.append_nil, hsame]
    | create hnil _ _ hsame => rw [hnil, List.append_nil, hsame]
    | write _ _ _ hwritten => exact hwritten

theorem written_run (h : adapter.run s es = some t) : s.written ⊆ t.written := by
  induction es generalizing s with
  | nil => exact Option.some.inj h ▸ List.Subset.refl _
  | cons e es ih =>
    obtain ⟨m, hstep, hrun⟩ := Machine.run_cons.mp h
    have hsub : s.written ⊆ m.written := written_step hstep ▸ List.subset_append_left _ _
    exact List.Subset.trans hsub (ih hrun)

/-- A batch is uniform in itself. -/
theorem oneModel_writes (h : adapter.step s e = some t) : OneModel (e.writes s) := by
  cases e with
  | call config documents refresh => exact fun a ha => absurd ha List.not_mem_nil
  | proceed i outcome =>
    obtain ⟨call, call', hcall, -, -, -, heffect⟩ := step_proceed h
    rw [writes_of_call hcall]
    have hsub : outcome.writes call.documents ⊆ call.documents := by
      cases heffect with
      | rest hnil => exact hnil ▸ List.nil_subset _
      | create hnil => exact hnil ▸ List.nil_subset _
      | write _ hsub => exact hsub.subset
    exact fun a ha b hb => call.uniform a (hsub ha) b (hsub hb)

theorem oneModel_step (hs : s.Sound) (hone : OneModel s.written) (h : adapter.step s e = some t)
    (hsame : SameName s e t) : OneModel t.written := by
  have hsound := (sound_step hs h).written
  have hbatch := oneModel_writes h
  rw [written_step h] at hsound ⊢
  have hmixed : ∀ a ∈ e.writes s, ∀ b ∈ s.written, a.embeddingModel = b.embeddingModel := by
    intro a ha b hb
    obtain ⟨hprovider, hname, hversion⟩ := hsame a ha b hb
    -- The index has one dimension, the names agree by assumption.
    have hdimension : a.embeddingModel.dimension = b.embeddingModel.dimension := by
      obtain ⟨index, hindex, hda⟩ := hsound a (List.mem_append_right _ ha)
      obtain ⟨index', hindex', hdb⟩ := hsound b (List.mem_append_left _ hb)
      obtain rfl := Option.some.inj (hindex.symm.trans hindex')
      rw [hda, hdb]
    exact EmbeddingModel.ext hprovider hname hversion hdimension
  intro a ha b hb
  rcases List.mem_append.mp ha with ha | ha <;> rcases List.mem_append.mp hb with hb | hb
  · exact hone a ha b hb
  · exact (hmixed b hb a ha).symm
  · exact hmixed a ha b hb
  · exact hbatch a ha b hb

/-- Along a run to a state whose documents have one model, every step keeps the names. -/
theorem sameName_of_oneModel (hrun : adapter.run s es = some t) (hone : OneModel t.written) :
    adapter.Along SameName s es := by
  induction es generalizing s with
  | nil => trivial
  | cons e es ih =>
    obtain ⟨m, hstep, hrest⟩ := Machine.run_cons.mp hrun
    rw [Machine.along_cons_of_step hstep]
    refine ⟨fun a ha b hb => ?_, ih hrest⟩
    have hsub := written_run hrest
    rw [written_step hstep] at hsub
    rw [hone a (hsub (List.mem_append_right _ ha)) b (hsub (List.mem_append_left _ hb))]
    exact ⟨rfl, rfl, rfl⟩

/-- All that is ever written to an index has one model if and only if no call writes documents
whose model has another provider, name or version than what has been written before. -/
theorem one_model (hrun : adapter.run .initial es = some s) :
    OneModel s.written ↔ adapter.Along SameName .initial es := by
  refine ⟨sameName_of_oneModel hrun, fun hsame => ?_⟩
  have hboth : s.Sound ∧ OneModel s.written := Machine.run_invariant_along
    (I := fun s => s.Sound ∧ OneModel s.written) (fun _ _ _ h hstep hname => ⟨sound_step h.1 hstep, oneModel_step h.1 h.2 hstep hname⟩)
    ⟨sound_initial, fun _ h => absurd h List.not_mem_nil⟩ hsame hrun
  exact hboth.2

theorem one_model_two : ∃ es s, adapter.run .initial es = some s ∧ s.written.length = 2 ∧
    (OneModel s.written ↔ adapter.Along SameName .initial es) := by
  obtain ⟨es, s, hrun, hwritten⟩ := Sample.exists_run
  exact ⟨es, s, hrun, by rw [hwritten]; rfl, one_model hrun⟩

/-- Calls with different models of one dimension both succeed. -/
theorem models_mixed : ¬∀ es s, adapter.run .initial es = some s → OneModel s.written := by
  intro hone
  obtain ⟨es, s, hrun, hwritten⟩ := Sample.exists_run
  have hsame := hone es s hrun
  rw [hwritten] at hsame
  have hmodel := hsame _ List.mem_cons_self _ (List.mem_cons_of_mem _ List.mem_cons_self)
  have hname : "embed" = "other" := congrArg EmbeddingModel.modelName hmodel
  exact absurd hname (by decide)

end CSO.KnowledgeRag.Adapter
