import CSO.JS.Text
import Mathlib.Data.Rat.Defs

/-! The governed records of a knowledge index: chunks of a source with their embeddings. -/
namespace CSO.KnowledgeRag

@[ext]
structure EmbeddingModel where
  provider : String
  modelName : String
  modelVersion : String
  dimension : ℕ
  deriving DecidableEq, Repr

inductive KnowledgeDocumentClassification
  | customerSafe
  | internal
  | restricted
  deriving DecidableEq, Repr

structure ChunkDraft where
  chunkId : String
  parentSectionId : String
  chunkOrdinalWithinSection : ℕ
  sourceUri : String
  sourceContentSha256 : String
  title : String
  sectionPath : List String
  content : String
  contentSha256 : String
  pageStart : Option ℕ
  pageEnd : Option ℕ
  deriving DecidableEq, Repr

/-- A vector has as many components as its model has dimensions. -/
structure EmbeddedChunk where
  chunkId : String
  contentSha256 : String
  vector : List ℚ
  embeddingModel : EmbeddingModel
  length_vector : vector.length = embeddingModel.dimension
  deriving DecidableEq, Repr

structure EmbeddingProvider where
  model : EmbeddingModel
  embedDocuments : List String → Except String (List (List ℚ))

def embedChunk (model : EmbeddingModel) (chunk : ChunkDraft) (vector : List ℚ) :
    Except String EmbeddedChunk :=
  if h : vector.length = model.dimension then
    .ok ⟨chunk.chunkId, chunk.contentSha256, vector, model, h⟩
  else .error "Vector length must match embedding model dimension"

def embedChunks (chunks : List ChunkDraft) (provider : EmbeddingProvider) :
    Except String (List EmbeddedChunk) := do
  let vectors ← provider.embedDocuments (chunks.map ChunkDraft.content)
  if vectors.length ≠ chunks.length then
    .error "Embedding provider must return one vector for every input chunk."
  else (chunks.zip vectors).mapM fun (chunk, vector) => embedChunk provider.model chunk vector

structure IngestionArtifact where
  ingestionJobId : String
  idempotencyKey : String
  knowledgeReleaseId : String
  tenantId : String
  environmentId : String
  knowledgeDocumentId : String
  sourceDocumentId : String
  sourceVersion : String
  title : String
  sourceUri : String
  sourceContentSha256 : String
  classification : KnowledgeDocumentClassification
  locale : String
  effectiveFrom : Option String
  effectiveUntil : Option String
  parserVersion : String
  chunkingStrategyVersion : String
  chunks : List ChunkDraft
  artifactSha256 : String
  deriving DecidableEq, Repr

/-- The complete governed record to be written to an index. -/
structure IndexableKnowledgeChunk where
  indexDocumentId : String
  ingestionJobId : String
  knowledgeReleaseId : String
  tenantId : String
  environmentId : String
  knowledgeDocumentId : String
  sourceDocumentId : String
  sourceVersion : String
  chunkId : String
  parentSectionId : String
  chunkOrdinalWithinSection : ℕ
  title : String
  sectionPath : List String
  pageStart : Option ℕ
  pageEnd : Option ℕ
  content : String
  contentSha256 : String
  sourceUri : String
  sourceContentSha256 : String
  embeddingVector : List ℚ
  embeddingModel : EmbeddingModel
  classification : KnowledgeDocumentClassification
  locale : String
  effectiveFrom : Option String
  effectiveUntil : Option String
  parserVersion : String
  chunkingStrategyVersion : String
  artifactSha256 : String
  length_vector : embeddingVector.length = embeddingModel.dimension
  deriving DecidableEq, Repr

/-- The release that a record belongs to. -/
structure ReleaseScope where
  tenantId : String
  environmentId : String
  knowledgeReleaseId : String
  deriving DecidableEq, Repr

def IndexableKnowledgeChunk.scope (document : IndexableKnowledgeChunk) : ReleaseScope :=
  ⟨document.tenantId, document.environmentId, document.knowledgeReleaseId⟩

def IngestionArtifact.scope (artifact : IngestionArtifact) : ReleaseScope :=
  ⟨artifact.tenantId, artifact.environmentId, artifact.knowledgeReleaseId⟩

def indexDocumentId (scope : ReleaseScope) (knowledgeDocumentId chunkId : String) : String :=
  "knowledge-" ++ JS.Sha256.hex (scope.tenantId ++ "\x00" ++ scope.environmentId ++ "\x00" ++
    scope.knowledgeReleaseId ++ "\x00" ++ knowledgeDocumentId ++ "\x00" ++ chunkId)

/-- The record of a chunk, if its embedding is of the same content. -/
def indexChunk (artifact : IngestionArtifact) (embeddedChunks : List EmbeddedChunk)
    (chunk : ChunkDraft) : Except String IndexableKnowledgeChunk :=
  match embeddedChunks.find? fun embedded => embedded.chunkId = chunk.chunkId with
  | none => .error "Embedding results must contain exactly the artifact chunk IDs."
  | some embedded =>
    if embedded.contentSha256.toLower ≠ chunk.contentSha256.toLower then
      .error ("Embedding content hash does not match chunk '" ++ chunk.chunkId ++ "'.")
    else .ok {
      indexDocumentId := indexDocumentId artifact.scope artifact.knowledgeDocumentId chunk.chunkId
      ingestionJobId := artifact.ingestionJobId
      knowledgeReleaseId := artifact.knowledgeReleaseId
      tenantId := artifact.tenantId
      environmentId := artifact.environmentId
      knowledgeDocumentId := artifact.knowledgeDocumentId
      sourceDocumentId := artifact.sourceDocumentId
      sourceVersion := artifact.sourceVersion
      chunkId := chunk.chunkId
      parentSectionId := chunk.parentSectionId
      chunkOrdinalWithinSection := chunk.chunkOrdinalWithinSection
      title := chunk.title
      sectionPath := chunk.sectionPath
      pageStart := chunk.pageStart
      pageEnd := chunk.pageEnd
      content := chunk.content
      contentSha256 := chunk.contentSha256
      sourceUri := chunk.sourceUri
      sourceContentSha256 := chunk.sourceContentSha256
      embeddingVector := embedded.vector
      embeddingModel := embedded.embeddingModel
      classification := artifact.classification
      locale := artifact.locale
      effectiveFrom := artifact.effectiveFrom
      effectiveUntil := artifact.effectiveUntil
      parserVersion := artifact.parserVersion
      chunkingStrategyVersion := artifact.chunkingStrategyVersion
      artifactSha256 := artifact.artifactSha256
      length_vector := embedded.length_vector }

def buildIndexDocuments (artifact : IngestionArtifact) (embeddedChunks : List EmbeddedChunk) :
    Except String (List IndexableKnowledgeChunk) :=
  let chunkIds := artifact.chunks.map ChunkDraft.chunkId
  let embeddedIds := embeddedChunks.map EmbeddedChunk.chunkId
  if ¬chunkIds.Nodup then .error "Ingestion artifact contains duplicate chunk IDs"
  else if ¬embeddedIds.Nodup then .error "Embedding results contain duplicate chunk IDs"
  else if ¬(chunkIds ⊆ embeddedIds ∧ embeddedIds ⊆ chunkIds) then
    .error "Embedding results must contain exactly the artifact chunk IDs."
  else if ¬(∀ a ∈ embeddedChunks, ∀ b ∈ embeddedChunks, a.embeddingModel = b.embeddingModel) then
    .error "All chunks in one indexing operation must use the same embedding model"
  else artifact.chunks.mapM (indexChunk artifact embeddedChunks)

variable {artifact : IngestionArtifact} {embeddedChunks : List EmbeddedChunk} {chunk : ChunkDraft}
  {chunks : List ChunkDraft} {provider : EmbeddingProvider}
  {document : IndexableKnowledgeChunk} {documents : List IndexableKnowledgeChunk}

theorem indexChunk_scope (h : indexChunk artifact embeddedChunks chunk = .ok document) :
    document.scope = artifact.scope ∧ document.indexDocumentId =
      indexDocumentId document.scope document.knowledgeDocumentId document.chunkId := by
  unfold indexChunk at h
  split at h
  · cases h
  · split_ifs at h
    cases h
    exact ⟨rfl, rfl⟩

/-- The items of a list that is computed item by item. -/
theorem mem_of_mapM {α β : Type} {f : α → Except String β} {items : List α} {values : List β}
    (h : items.mapM f = .ok values) : ∀ value ∈ values, ∃ item ∈ items, f item = .ok value := by
  induction items generalizing values with
  | nil =>
    cases h
    exact fun value hvalue => absurd hvalue List.not_mem_nil
  | cons item items ih =>
    rw [List.mapM_cons] at h
    cases hitem : f item with
    | error message =>
      rw [hitem] at h
      cases h
    | ok value =>
      cases hrest : items.mapM f with
      | error message =>
        rw [hitem, hrest] at h
        cases h
      | ok rest =>
        rw [hitem, hrest] at h
        cases h
        intro v hv
        rcases List.mem_cons.mp hv with rfl | hv
        · exact ⟨item, List.mem_cons_self, hitem⟩
        · obtain ⟨i, hi, hfi⟩ := ih hrest v hv
          exact ⟨i, List.mem_cons_of_mem _ hi, hfi⟩

/-- Every record of an artifact belongs to its release. -/
theorem buildIndexDocuments_scope (h : buildIndexDocuments artifact embeddedChunks = .ok documents) :
    ∀ document ∈ documents, document.scope = artifact.scope := by
  unfold buildIndexDocuments at h
  dsimp only at h
  split_ifs at h
  intro document hdocument
  obtain ⟨chunk, -, hchunk⟩ := mem_of_mapM h document hdocument
  exact (indexChunk_scope hchunk).1

/-- An embedded chunk has the model of its provider. -/
theorem embedChunks_model (h : embedChunks chunks provider = .ok embeddedChunks) :
    ∀ embedded ∈ embeddedChunks, embedded.embeddingModel = provider.model := by
  unfold embedChunks at h
  cases hvectors : provider.embedDocuments (chunks.map ChunkDraft.content) with
  | error message =>
    rw [hvectors] at h
    cases h
  | ok vectors =>
    rw [hvectors] at h
    simp only [bind, Except.bind] at h
    split_ifs at h
    intro embedded hembedded
    obtain ⟨⟨chunk, vector⟩, -, hchunk⟩ := mem_of_mapM h embedded hembedded
    dsimp only at hchunk
    unfold embedChunk at hchunk
    split_ifs at hchunk
    cases hchunk
    rfl

theorem indexChunk_model (h : indexChunk artifact embeddedChunks chunk = .ok document) :
    ∃ embedded ∈ embeddedChunks, document.embeddingModel = embedded.embeddingModel := by
  unfold indexChunk at h
  split at h
  · cases h
  · rename_i embedded hfind
    split_ifs at h
    cases h
    exact ⟨embedded, List.mem_of_find?_eq_some hfind, rfl⟩

/-- Every record has the model of one of the embeddings. -/
theorem buildIndexDocuments_model (h : buildIndexDocuments artifact embeddedChunks = .ok documents) :
    ∀ document ∈ documents, ∃ embedded ∈ embeddedChunks,
      document.embeddingModel = embedded.embeddingModel := by
  unfold buildIndexDocuments at h
  dsimp only at h
  split_ifs at h
  intro document hdocument
  obtain ⟨chunk, -, hchunk⟩ := mem_of_mapM h document hdocument
  exact indexChunk_model hchunk

/-! Chunks that are indexed without an error. -/

/-- The embedding of a chunk is found under its id. -/
theorem find_embedded {embed : ChunkDraft → EmbeddedChunk}
    (hid : ∀ chunk, (embed chunk).chunkId = chunk.chunkId)
    (hnodup : (chunks.map ChunkDraft.chunkId).Nodup) (hchunk : chunk ∈ chunks) :
    (chunks.map embed).find? (fun embedded => embedded.chunkId = chunk.chunkId) =
      some (embed chunk) := by
  induction chunks with
  | nil => cases hchunk
  | cons first rest ih =>
    obtain ⟨hfirst, hrest⟩ := List.nodup_cons.mp hnodup
    rw [List.map_cons, List.find?_cons]
    rcases List.mem_cons.mp hchunk with rfl | hchunk
    · simp [hid]
    · have hne : first.chunkId ≠ chunk.chunkId := fun heq =>
        hfirst (heq ▸ List.mem_map_of_mem hchunk)
      simp only [hid, hne, decide_false]
      exact ih hrest hchunk

/-- The values of a list that is computed without an error. -/
theorem mapM_ok {α β γ : Type} {f : α → Except String β} {g : β → γ} {k : α → γ} {items : List α}
    (h : ∀ item ∈ items, ∃ value, f item = .ok value ∧ g value = k item) :
    ∃ values, items.mapM f = .ok values ∧ values.map g = items.map k := by
  induction items with
  | nil => exact ⟨[], rfl, rfl⟩
  | cons item items ih =>
    obtain ⟨value, hvalue, hg⟩ := h item List.mem_cons_self
    obtain ⟨values, hvalues, hmap⟩ := ih fun i hi => h i (List.mem_cons_of_mem _ hi)
    refine ⟨value :: values, ?_, by rw [List.map_cons, List.map_cons, hg, hmap]⟩
    rw [List.mapM_cons, hvalue, hvalues]
    rfl

theorem indexChunk_ok {embedded : EmbeddedChunk}
    (hfind : embeddedChunks.find? (fun embedded => embedded.chunkId = chunk.chunkId) =
      some embedded) (hhash : embedded.contentSha256 = chunk.contentSha256) :
    ∃ document, indexChunk artifact embeddedChunks chunk = .ok document ∧
      document.indexDocumentId =
        indexDocumentId artifact.scope artifact.knowledgeDocumentId chunk.chunkId := by
  unfold indexChunk
  rw [hfind]
  dsimp only
  rw [if_neg (not_not.mpr (congrArg String.toLower hhash))]
  exact ⟨_, rfl, rfl⟩

/-- Chunks with ids of their own are indexed under the ids of the artifact. -/
theorem buildIndexDocuments_ok {model : EmbeddingModel} (embed : ChunkDraft → EmbeddedChunk)
    (hid : ∀ chunk, (embed chunk).chunkId = chunk.chunkId)
    (hhash : ∀ chunk, (embed chunk).contentSha256 = chunk.contentSha256)
    (hmodel : ∀ chunk, (embed chunk).embeddingModel = model)
    (hnodup : (artifact.chunks.map ChunkDraft.chunkId).Nodup) :
    ∃ documents, buildIndexDocuments artifact (artifact.chunks.map embed) = .ok documents ∧
      documents.map IndexableKnowledgeChunk.indexDocumentId = artifact.chunks.map fun chunk =>
        indexDocumentId artifact.scope artifact.knowledgeDocumentId chunk.chunkId := by
  have hids : (artifact.chunks.map embed).map EmbeddedChunk.chunkId =
      artifact.chunks.map ChunkDraft.chunkId := by
    rw [List.map_map]
    exact List.map_congr_left fun chunk _ => hid chunk
  have hone : ∀ a ∈ artifact.chunks.map embed, ∀ b ∈ artifact.chunks.map embed,
      a.embeddingModel = b.embeddingModel := by
    intro a ha b hb
    obtain ⟨c, -, rfl⟩ := List.mem_map.mp ha
    obtain ⟨d, -, rfl⟩ := List.mem_map.mp hb
    rw [hmodel, hmodel]
  unfold buildIndexDocuments
  dsimp only
  rw [hids, if_neg (not_not.mpr hnodup), if_neg (not_not.mpr hnodup),
    if_neg (not_not.mpr ⟨List.Subset.refl _, List.Subset.refl _⟩), if_neg (not_not.mpr hone)]
  exact mapM_ok fun chunk hchunk => indexChunk_ok (find_embedded hid hnodup hchunk) (hhash chunk)

/-- A provider that embeds each text by itself. -/
def EmbeddingProvider.each (model : EmbeddingModel) (embed : String → List ℚ) :
    EmbeddingProvider := ⟨model, fun contents => .ok (contents.map embed)⟩

theorem embedChunks_each {model : EmbeddingModel} {embed : String → List ℚ}
    (h : ∀ content, (embed content).length = model.dimension) :
    embedChunks chunks (.each model embed) = .ok (chunks.map fun chunk =>
      ⟨chunk.chunkId, chunk.contentSha256, embed chunk.content, model, h chunk.content⟩) := by
  unfold embedChunks EmbeddingProvider.each
  dsimp only [bind, Except.bind]
  rw [if_neg (by simp), List.map_map]
  induction chunks with
  | nil => rfl
  | cons chunk chunks ih =>
    rw [List.map_cons, List.zip_cons_cons, List.mapM_cons, ih, List.map_cons]
    unfold embedChunk
    rw [Function.comp_apply, dif_pos (h chunk.content)]
    rfl

end CSO.KnowledgeRag
