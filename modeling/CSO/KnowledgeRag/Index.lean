import CSO.KnowledgeRag.Release
import CSO.Transition.Machine
import CSO.Transition.Upsert

/-! The search index that knowledge releases are published to. -/
namespace CSO.KnowledgeRag
open Transition (Machine Table)

structure OpenSearchIndexConfig where
  indexName : String
  vectorDimension : ℕ
  numberOfShards : ℕ := 1
  numberOfReplicas : ℕ := 1
  hnswM : ℕ := 16
  hnswEfConstruction : ℕ := 128
  schemaVersion : String := "knowledge-search-v1"
  deriving DecidableEq, Repr

/-- The `_meta` of an index. -/
structure IndexMeta where
  schemaVersion : String
  vectorDimension : ℕ
  deriving DecidableEq, Repr

/-- What an index is created with, as far as it is read again. -/
def buildIndexDefinition (config : OpenSearchIndexConfig) : IndexMeta :=
  ⟨config.schemaVersion, config.vectorDimension⟩

def validateDocuments (config : OpenSearchIndexConfig)
    (documents : List IndexableKnowledgeChunk) : Except String Unit :=
  if ¬(∀ a ∈ documents, ∀ b ∈ documents, a.embeddingModel = b.embeddingModel) then
    .error "One bulk indexing operation cannot mix embedding models."
  else if ∃ document ∈ documents, document.embeddingModel.dimension ≠ config.vectorDimension then
    .error "Embedding model dimension does not match index vector dimension."
  else .ok ()

/-- An `index` operation of a bulk request. -/
structure BulkOperation where
  index : String
  id : String
  source : IndexableKnowledgeChunk
  deriving DecidableEq, Repr

def buildBulkIndexPayload (config : OpenSearchIndexConfig)
    (documents : List IndexableKnowledgeChunk) : Except String (List BulkOperation) := do
  validateDocuments config documents
  return documents.map fun document => ⟨config.indexName, document.indexDocumentId, document⟩

/-- The documents of an index under their ids. -/
abbrev IndexedDocuments := Table IndexableKnowledgeChunk String
  IndexableKnowledgeChunk.indexDocumentId

structure SearchIndex where
  metadata : IndexMeta
  documents : IndexedDocuments

def validateExistingIndex (config : OpenSearchIndexConfig) (index : SearchIndex) :
    Except String Unit :=
  if index.metadata.schemaVersion ≠ config.schemaVersion ∨
      index.metadata.vectorDimension ≠ config.vectorDimension then
    .error ("Index '" ++ config.indexName ++ "' has an incompatible schema. Expected version '" ++
      config.schemaVersion ++ "' with vector dimension " ++ toString config.vectorDimension ++
      "; found version '" ++ index.metadata.schemaVersion ++ "' with vector dimension " ++
      toString index.metadata.vectorDimension ++ ".")
  else .ok ()

/-- The index, and whether it has been created. -/
def ensureIndex (config : OpenSearchIndexConfig) :
    Option SearchIndex → Except String (SearchIndex × Bool)
  | some index => do
    validateExistingIndex config index
    return (index, false)
  | none => .ok (⟨buildIndexDefinition config, Table.empty⟩, true)

/-- A bulk request without errors: every document takes the place of the one with its id. -/
def SearchIndex.bulk (index : SearchIndex) (payload : List BulkOperation) : SearchIndex :=
  { index with documents := index.documents.putAll (payload.map BulkOperation.source) }

structure BulkIndexResult where
  indexName : String
  indexCreated : Bool
  documentsIndexed : ℕ
  refreshRequested : Bool
  deriving DecidableEq, Repr

def indexDocuments (index : Option SearchIndex) (config : OpenSearchIndexConfig)
    (documents : List IndexableKnowledgeChunk) (refresh : Bool) :
    Except String (SearchIndex × BulkIndexResult) := do
  let payload ← buildBulkIndexPayload config documents
  let (index, indexCreated) ← ensureIndex config index
  return (index.bulk payload, ⟨config.indexName, indexCreated, documents.length, refresh⟩)

def publishKnowledgeRelease (index : Option SearchIndex)
    (compilation : KnowledgeReleaseCompilation) (config : OpenSearchIndexConfig) :
    Except String (SearchIndex × BulkIndexResult) :=
  if config.vectorDimension ≠ compilation.embeddingModel.dimension then
    .error "Index vector dimension must match the compilation embedding model."
  else indexDocuments index config compilation.indexDocuments true

/-- A publication of a compiled release. -/
structure Publication where
  compilation : KnowledgeReleaseCompilation
  config : OpenSearchIndexConfig
  deriving DecidableEq, Repr

/-- The compilation is what the compiler has made of some manifest. -/
def KnowledgeReleaseCompilation.Compiled (compilation : KnowledgeReleaseCompilation) : Prop :=
  ∃ ingestion manifest embeddingProvider ingestionJobId,
    compileKnowledgeRelease ingestion manifest embeddingProvider ingestionJobId = .ok compilation

/-- An index through publications that succeed. -/
def publications : Machine (Option SearchIndex) Publication where
  step index publication :=
    match publishKnowledgeRelease index publication.compilation publication.config with
    | .ok (index, _) => some (some index)
    | .error _ => none

/-- The documents that an index holds for a release. -/
def SearchIndex.Holds (index : SearchIndex) (scope : ReleaseScope)
    (document : IndexableKnowledgeChunk) : Prop :=
  index.documents.find? document.indexDocumentId = some document ∧ document.scope = scope

variable {index index' : Option SearchIndex} {result : SearchIndex} {publication : Publication}
  {ps : List Publication}

/-- Everything that the publications have written, in order. -/
def written (ps : List Publication) : List IndexableKnowledgeChunk :=
  ps.flatMap fun publication => publication.compilation.indexDocuments

/-- The documents of an index that may not be there yet. -/
def documentsOf : Option SearchIndex → IndexedDocuments
  | some index => index.documents
  | none => Table.empty

theorem ensureIndex_documents {config : OpenSearchIndexConfig} {created : Bool}
    (h : ensureIndex config index = .ok (result, created)) :
    result.documents = documentsOf index := by
  cases index with
  | none =>
    cases h
    rfl
  | some known =>
    unfold ensureIndex at h
    dsimp only at h
    cases hvalid : validateExistingIndex config known with
    | error message =>
      rw [hvalid] at h
      cases h
    | ok _ =>
      rw [hvalid] at h
      cases h
      rfl

theorem indexDocuments_documents {config : OpenSearchIndexConfig} {refresh : Bool}
    {documents : List IndexableKnowledgeChunk} {answer : BulkIndexResult}
    (h : indexDocuments index config documents refresh = .ok (result, answer)) :
    result.documents = (documentsOf index).putAll documents := by
  unfold indexDocuments buildBulkIndexPayload at h
  cases hvalid : validateDocuments config documents with
  | error message =>
    rw [hvalid] at h
    cases h
  | ok _ =>
    cases hensure : ensureIndex config index with
    | error message =>
      rw [hvalid, hensure] at h
      cases h
    | ok ensured =>
      obtain ⟨known, created⟩ := ensured
      rw [hvalid, hensure] at h
      cases h
      rw [SearchIndex.bulk, List.map_map, ensureIndex_documents hensure]
      exact congrArg _ (List.map_id documents)

theorem publish_documents (h : publications.step index publication = some index') :
    documentsOf index' =
      (documentsOf index).putAll publication.compilation.indexDocuments := by
  unfold publications at h
  dsimp only at h
  split at h
  · rename_i result answer hpublish
    cases h
    unfold publishKnowledgeRelease at hpublish
    split_ifs at hpublish
    exact indexDocuments_documents hpublish
  · cases h

theorem run_documents (h : publications.run index ps = some index') :
    documentsOf index' = (documentsOf index).putAll (written ps) := by
  induction ps generalizing index with
  | nil => exact congrArg documentsOf (Option.some.inj h).symm
  | cons publication ps ih =>
    obtain ⟨next, hstep, hrun⟩ := Machine.run_cons.mp h
    rw [ih hrun, publish_documents hstep, ← Table.putAll_append]
    rfl

/-! Publications that succeed. -/

/-- A compilation has one model, so its dimension is the only thing that is checked. -/
theorem validateDocuments_compiled {compilation : KnowledgeReleaseCompilation}
    {config : OpenSearchIndexConfig} (hcompiled : compilation.Compiled)
    (hdimension : config.vectorDimension = compilation.embeddingModel.dimension) :
    validateDocuments config compilation.indexDocuments = .ok () := by
  obtain ⟨_, _, _, _, hcompile⟩ := hcompiled
  have hmodel := compileKnowledgeRelease_model hcompile
  unfold validateDocuments
  rw [if_neg (not_not.mpr fun a ha b hb => (hmodel a ha).trans (hmodel b hb).symm), if_neg]
  rintro ⟨d, hd, hne⟩
  rw [hmodel d hd] at hne
  exact hne hdimension.symm

/-- The index is not there yet, or has the schema that the configuration asks for. -/
def Compatible (config : OpenSearchIndexConfig) : Option SearchIndex → Prop
  | none => True
  | some index => index.metadata = buildIndexDefinition config

theorem ensureIndex_ok {config : OpenSearchIndexConfig} (h : Compatible config index) :
    ∃ ready created, ensureIndex config index = .ok (ready, created) ∧
      ready.metadata = buildIndexDefinition config := by
  cases index with
  | none => exact ⟨_, _, rfl, rfl⟩
  | some known =>
    have hmeta : known.metadata = buildIndexDefinition config := h
    refine ⟨known, false, ?_, hmeta⟩
    unfold ensureIndex validateExistingIndex
    dsimp only
    rw [if_neg (by simp [hmeta, buildIndexDefinition])]
    rfl

theorem indexDocuments_ok {config : OpenSearchIndexConfig}
    {documents : List IndexableKnowledgeChunk} (refresh : Bool)
    (hvalid : validateDocuments config documents = .ok ()) (hindex : Compatible config index) :
    ∃ result answer, indexDocuments index config documents refresh = .ok (result, answer) ∧
      result.metadata = buildIndexDefinition config := by
  obtain ⟨ready, created, hensure, hmeta⟩ := ensureIndex_ok hindex
  refine ⟨ready.bulk (documents.map fun document =>
      ⟨config.indexName, document.indexDocumentId, document⟩),
    ⟨config.indexName, created, documents.length, refresh⟩, ?_, hmeta⟩
  unfold indexDocuments buildBulkIndexPayload
  rw [hvalid, hensure]
  rfl

/-- A compiled release is published to an index of its dimension. -/
theorem publish_ok (hcompiled : publication.compilation.Compiled)
    (hdimension : publication.config.vectorDimension =
      publication.compilation.embeddingModel.dimension)
    (hindex : Compatible publication.config index) :
    ∃ result, publications.step index publication = some (some result) ∧
      result.metadata = buildIndexDefinition publication.config := by
  obtain ⟨result, answer, hresult, hmeta⟩ :=
    indexDocuments_ok true (validateDocuments_compiled hcompiled hdimension) hindex
  refine ⟨result, ?_, hmeta⟩
  unfold publications publishKnowledgeRelease
  dsimp only
  rw [if_neg (not_not.mpr hdimension), hresult]

/-! A release of one source in two versions. -/

namespace Sample

def sourceHash : String := JS.Sha256.hex "Refunds take five days."

def registration : KnowledgeSourceRegistration :=
  ⟨"guide", "guide-source", "1", "guide.md", "text/markdown", sourceHash, .customerSafe, "en", none, none⟩

def manifest : KnowledgeReleaseManifest where
  tenantId := "acme"
  environmentId := "production"
  knowledgeReleaseId := "release-1"
  registrations := [registration]
  ne_nil := List.cons_ne_nil _ _
  nodup_documents := List.nodup_singleton _
  nodup_revisions := List.nodup_singleton _

def chunk (chunkId : String) : ChunkDraft :=
  ⟨chunkId, "section-001", 1, "guide.md", sourceHash, "Guide", ["Refunds"],
    "Refunds take five days.", sourceHash, none, none⟩

/-- The source is read as registered and cut into the chunks. -/
def ingestion (chunkIds : List String) : Ingestion where
  parseSource sourceUri := .ok ⟨"Guide", sourceUri, "text/markdown", sourceHash, "1", []⟩
  chunkDocument _ := chunkIds.map chunk
  chunkingStrategyVersion := "structure-aware-parent-child-v1"
  artifactSha256 artifact := JS.Sha256.hex artifact.idempotencyKey

def config : OpenSearchIndexConfig := ⟨"knowledge", 1, 1, 1, 16, 128, "knowledge-search-v1"⟩

def documentId (chunkId : String) : String := indexDocumentId manifest.scope "guide" chunkId

/-- A publication of the source in the chunks. -/
def Publishes (chunkIds : List String) (publication : Publication) : Prop :=
  publication.compilation.Compiled ∧ publication.config = config ∧
    publication.compilation.scope = manifest.scope ∧
    publication.compilation.embeddingModel.dimension = 1 ∧
    publication.compilation.indexDocuments.map IndexableKnowledgeChunk.indexDocumentId =
      chunkIds.map documentId

def model : EmbeddingModel := ⟨"local", "embed", "1", 1⟩

theorem exists_publishes {chunkIds : List String} (hnil : chunkIds ≠ [])
    (hchunks : chunkIds.Nodup) (hids : (chunkIds.map documentId).Nodup) :
    ∃ publication, Publishes chunkIds publication := by
  have hchunkIds : (chunkIds.map chunk).map ChunkDraft.chunkId = chunkIds := by
    rw [List.map_map]
    exact List.map_id chunkIds
  have hembed : ∀ content : String, ((fun _ : String => ([1] : List ℚ)) content).length =
    model.dimension := fun _ => rfl
  have hparse : (ingestion chunkIds).parseSource registration.sourceUri =
    .ok ⟨"Guide", "guide.md", "text/markdown", sourceHash, "1", []⟩ := rfl
  obtain ⟨source, hsource, hdocuments⟩ := compileSource_ok manifest "job-1" hembed hparse rfl rfl
    (hchunkIds.symm ▸ hchunks)
  have hdocuments' : source.2.map IndexableKnowledgeChunk.indexDocumentId =
      chunkIds.map documentId := by
    rw [hdocuments]
    exact List.map_map
  have hsources : manifest.registrations.mapM (compileSource (ingestion chunkIds) manifest
      (.each model fun _ => [1]) "job-1") = .ok [source] := by
    rw [show manifest.registrations = [registration] from rfl, List.mapM_cons, hsource]
    rfl
  have hsame : [source].flatMap Prod.snd = source.2 := List.append_nil _
  obtain ⟨compilation, hcompile, hscope, hmodel, hindex⟩ := compileKnowledgeRelease_ok
    (by decide) hsources
    (fun h => hnil (List.map_eq_nil_iff.mp (hdocuments'.symm.trans (by rw [← hsame, h]; rfl))))
    (by rw [hsame, hdocuments']; exact hids)
  refine ⟨⟨compilation, config⟩, ⟨_, _, _, _, hcompile⟩, rfl, hscope, ?_, ?_⟩
  · exact congrArg EmbeddingModel.dimension hmodel
  · exact (congrArg _ (hindex.trans hsame)).trans hdocuments'

set_option maxRecDepth 20000 in
theorem documentId_ne :
    documentId "section-001-chunk-001" ≠ documentId "section-001-chunk-002" := by
  have hfirst : (documentId "section-001-chunk-001").toList.getD 10 'a' = '2' := by decide +kernel
  have hsecond : (documentId "section-001-chunk-002").toList.getD 10 'a' = '4' := by decide +kernel
  intro h
  rw [h, hsecond] at hfirst
  exact absurd hfirst (by decide)

/-- The source has two chunks in its first version, and lost the second one in the next. -/
theorem exists_republication : ∃ first second result,
    Publishes ["section-001-chunk-001", "section-001-chunk-002"] first ∧
      Publishes ["section-001-chunk-001"] second ∧
      (∀ p ∈ [first] ++ second :: [], p.compilation.Compiled) ∧
      publications.run none ([first] ++ second :: []) = some (some result) := by
  obtain ⟨first, hfirst⟩ := exists_publishes (by decide : ["section-001-chunk-001",
    "section-001-chunk-002"] ≠ []) (by decide) (by simpa using documentId_ne)
  obtain ⟨second, hsecond⟩ := exists_publishes (by decide : ["section-001-chunk-001"] ≠ [])
    (by decide) (List.nodup_singleton _)
  have ⟨hcompiled, hconfig, _, hdimension, _⟩ := hfirst
  have ⟨hcompiled', hconfig', _, hdimension', _⟩ := hsecond
  obtain ⟨middle, hstep, hmeta⟩ := publish_ok hcompiled
    ((congrArg OpenSearchIndexConfig.vectorDimension hconfig).trans hdimension.symm)
    (show Compatible first.config none from trivial)
  rw [hconfig, ← hconfig'] at hmeta
  obtain ⟨result, hstep', -⟩ := publish_ok hcompiled'
    ((congrArg OpenSearchIndexConfig.vectorDimension hconfig').trans hdimension'.symm)
    (show Compatible second.config (some middle) from hmeta)
  refine ⟨first, second, result, hfirst, hsecond, fun p hp => ?_,
    Machine.run_cons.mpr ⟨_, hstep, Machine.run_cons.mpr ⟨_, hstep', rfl⟩⟩⟩
  rcases List.mem_cons.mp hp with rfl | hp
  · exact hcompiled
  · exact List.mem_singleton.mp hp ▸ hcompiled'

end Sample

/-! What a publication leaves. -/

variable {before after : List Publication} {document : IndexableKnowledgeChunk}
  {scope : ReleaseScope}

/-- No document of the publication has been written again since. -/
def Kept (publication : Publication) (after : List Publication) : Prop :=
  ∀ document ∈ publication.compilation.indexDocuments, ∀ other ∈ written after,
    other.indexDocumentId ≠ document.indexDocumentId

/-- Every document that was written for the release before has been written again since. -/
def Covered (scope : ReleaseScope) (before after : List IndexableKnowledgeChunk) : Prop :=
  ∀ earlier document later, before = earlier ++ document :: later → document.scope = scope →
    ∃ other ∈ later ++ after, other.indexDocumentId = document.indexDocumentId

theorem written_split (before after : List Publication) (publication : Publication) :
    written (before ++ publication :: after) =
      written before ++ (publication.compilation.indexDocuments ++ written after) := by
  unfold written
  rw [List.flatMap_append, List.flatMap_cons]

/-- The latest publication of a release, none of whose documents is written again, is held. -/
theorem holds_of_kept
    (hrun : publications.run none (before ++ publication :: after) = some (some result))
    (hkept : Kept publication after)
    (hscope : ∀ d ∈ publication.compilation.indexDocuments, d.scope = scope)
    (hdocument : document ∈ publication.compilation.indexDocuments) :
    result.Holds scope document := by
  refine ⟨?_, hscope document hdocument⟩
  have hdocuments := run_documents hrun
  obtain ⟨front, back, hsplit⟩ := List.append_of_mem hdocument
  have hwritten : written (before ++ publication :: after) =
      (written before ++ front) ++ document :: (back ++ written after) := by
    rw [written_split, hsplit]
    simp only [List.append_assoc, List.cons_append]
  rw [hwritten] at hdocuments
  refine (congrArg (fun T => Table.find? T document.indexDocumentId) hdocuments).trans
    (Table.find?_putAll_eq_some _ _ _ fun other hother => ?_)
  rcases List.mem_append.mp hother with hback | hafter
  · -- The compilation has no document twice.
    have hnodup := publication.compilation.nodup
    rw [hsplit, List.map_append, List.map_cons] at hnodup
    have htail := (List.nodup_cons.mp (List.nodup_append.mp hnodup).2.1).1
    exact fun heq => htail (heq ▸ List.mem_map_of_mem hback)
  · exact hkept document hdocument other hafter

/-- What the index holds was written, and by the last one to write under its id. -/
theorem exists_of_holds
    (hrun : publications.run none ps = some (some result)) (h : result.Holds scope document) :
    ∃ front back, written ps = front ++ document :: back ∧
      ∀ other ∈ back, other.indexDocumentId ≠ document.indexDocumentId := by
  have hdocuments : result.documents = Table.empty.putAll (written ps) := run_documents hrun
  have hfind := h.1
  rw [hdocuments] at hfind
  exact (Table.exists_of_find?_putAll hfind).2

theorem scope_of_compiled {compilation : KnowledgeReleaseCompilation} (h : compilation.Compiled) :
    ∀ d ∈ compilation.indexDocuments, d.scope = compilation.scope := by
  obtain ⟨_, _, _, _, hcompile⟩ := h
  exact compileKnowledgeRelease_scope hcompile

theorem scope_of_written (h : ∀ p ∈ ps, p.compilation.Compiled) (hdocument : document ∈ written ps) :
    ∃ p ∈ ps, document.scope = p.compilation.scope := by
  obtain ⟨p, hp, hdocument⟩ := List.mem_flatMap.mp hdocument
  exact ⟨p, hp, scope_of_compiled (h p hp) document hdocument⟩

/-- After publications on an index, it holds exactly the documents of the latest compilation of a
release if and only if none of them has been written again for another release, and every document
that was written for the release before has been written again since. -/
theorem publication_exact
    (hrun : publications.run none (before ++ publication :: after) = some (some result))
    (hcompiled : ∀ p ∈ before ++ publication :: after, p.compilation.Compiled)
    (hlatest : ∀ p ∈ after, p.compilation.scope ≠ publication.compilation.scope) :
    (∀ document, result.Holds publication.compilation.scope document ↔
        document ∈ publication.compilation.indexDocuments) ↔
      Kept publication after ∧ Covered publication.compilation.scope (written before)
        (publication.compilation.indexDocuments ++ written after) := by
  have hscope := scope_of_compiled (hcompiled publication (by simp))
  have hafter : ∀ d ∈ written after, d.scope ≠ publication.compilation.scope := by
    intro d hd
    obtain ⟨p, hp, heq⟩ := scope_of_written (fun p hp => hcompiled p (by simp [hp])) hd
    exact heq ▸ hlatest p hp
  have hdocuments : result.documents = Table.empty.putAll (written before ++
      (publication.compilation.indexDocuments ++ written after)) := by
    rw [← written_split]
    exact run_documents hrun
  constructor
  · intro hexact
    refine ⟨fun d hd other hother heq => ?_, fun earlier d later hsplit hd => ?_⟩
    · -- The last one to write under the id belongs to another release.
      have hheld := ((hexact d).mpr hd).1
      rw [hdocuments, ← List.append_assoc, Table.putAll_append] at hheld
      obtain ⟨last, hlast, hfind⟩ := Table.find?_putAll_mem _ ⟨other, hother, heq⟩
      rw [hfind] at hheld
      exact hafter last hlast (Option.some.inj hheld ▸ hscope d hd)
    · by_contra hnone
      have hheld : result.Holds publication.compilation.scope d := by
        refine ⟨?_, hd⟩
        rw [hdocuments, hsplit, List.append_assoc, List.cons_append]
        exact Table.find?_putAll_eq_some _ _ _ fun other hother heq => hnone ⟨other, hother, heq⟩
      exact hnone ⟨d, by simp [(hexact d).mp hheld], rfl⟩
  · rintro ⟨hkept, hcovered⟩ d
    refine ⟨fun hheld => ?_, holds_of_kept hrun hkept hscope⟩
    obtain ⟨front, back, hsplit, hback⟩ := exists_of_holds hrun hheld
    have hmem : d ∈ publication.compilation.indexDocuments ++ written after := by
      rw [written_split] at hsplit
      rcases List.append_eq_append_iff.mp hsplit.symm with ⟨tail, hbefore, hrest⟩ | ⟨tail, -, hrest⟩
      · cases tail with
        | nil =>
          rw [List.nil_append] at hrest
          rw [← hrest]
          exact List.mem_cons_self
        | cons other later =>
          rw [List.cons_append] at hrest
          obtain ⟨rfl, hlater⟩ := List.cons.inj hrest
          obtain ⟨other, hother, heq⟩ := hcovered front d later hbefore hheld.2
          exact absurd heq (hback other (hlater ▸ hother))
      · rw [hrest]
        exact List.mem_append_right _ List.mem_cons_self
    rcases List.mem_append.mp hmem with hlatest | hother
    · exact hlatest
    · exact absurd hheld.2 (hafter d hother)

theorem publication_exact_republication : ∃ first second result,
    publications.run none ([first] ++ second :: []) = some (some result) ∧
      ((∀ document, result.Holds second.compilation.scope document ↔
          document ∈ second.compilation.indexDocuments) ↔
        Kept second [] ∧ Covered second.compilation.scope (written [first])
          (second.compilation.indexDocuments ++ written [])) := by
  obtain ⟨first, second, result, -, -, hcompiled, hrun⟩ := Sample.exists_republication
  exact ⟨first, second, result, hrun, publication_exact hrun hcompiled
    fun p hp => absurd hp List.not_mem_nil⟩

/-- A chunk that the latest compilation of its release has lost is held on. -/
theorem lost_chunk_held : ¬∀ (before after : List Publication) (publication : Publication)
    (result : SearchIndex),
    publications.run none (before ++ publication :: after) = some (some result) →
      (∀ p ∈ before ++ publication :: after, p.compilation.Compiled) →
      (∀ p ∈ after, p.compilation.scope ≠ publication.compilation.scope) →
      ∀ document, result.Holds publication.compilation.scope document ↔
        document ∈ publication.compilation.indexDocuments := by
  intro hexact
  obtain ⟨first, second, result, hfirst, hsecond, hcompiled, hrun⟩ := Sample.exists_republication
  have hexactly := hexact [first] [] second result hrun hcompiled
    fun p hp => absurd hp List.not_mem_nil
  obtain ⟨d₁, rest, hfirsts, -, hrest⟩ := List.map_eq_cons_iff.mp hfirst.2.2.2.2
  obtain ⟨d₂, others, rfl, hid₂, hnil⟩ := List.map_eq_cons_iff.mp hrest
  obtain rfl := List.map_eq_nil_iff.mp hnil
  have hseconds : ∀ d ∈ second.compilation.indexDocuments,
      d.indexDocumentId ≠ d₂.indexDocumentId := by
    intro d hd
    have hid := List.mem_map_of_mem (f := IndexableKnowledgeChunk.indexDocumentId) hd
    rw [hsecond.2.2.2.2] at hid
    rw [List.mem_singleton.mp hid, hid₂]
    exact Sample.documentId_ne
  have hwritten : written ([first] ++ second :: []) =
      [d₁] ++ d₂ :: second.compilation.indexDocuments := by
    simp [written, hfirsts]
  have hheld : result.Holds second.compilation.scope d₂ := by
    constructor
    · have hdocuments : result.documents = Table.empty.putAll _ := run_documents hrun
      rw [hdocuments, hwritten]
      exact Table.find?_putAll_eq_some _ _ _ hseconds
    · rw [scope_of_compiled hfirst.1 d₂ (by simp [hfirsts]), hfirst.2.2.1, hsecond.2.2.1]
  exact hseconds d₂ ((hexactly d₂).mp hheld) rfl

end CSO.KnowledgeRag
