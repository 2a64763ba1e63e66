import CSO.KnowledgeRag.Documents

/-! The compilation of a knowledge release from its registered sources. -/
namespace CSO.KnowledgeRag

structure KnowledgeSourceRegistration where
  knowledgeDocumentId : String
  sourceDocumentId : String
  sourceVersion : String
  sourceUri : String
  expectedSourceContentType : String
  expectedSourceContentSha256 : String
  classification : KnowledgeDocumentClassification
  locale : String
  effectiveFrom : Option String
  effectiveUntil : Option String
  deriving DecidableEq, Repr

/-- No document and no source revision is registered twice. -/
structure KnowledgeReleaseManifest where
  tenantId : String
  environmentId : String
  knowledgeReleaseId : String
  registrations : List KnowledgeSourceRegistration
  ne_nil : registrations ≠ []
  nodup_documents :
    (registrations.map KnowledgeSourceRegistration.knowledgeDocumentId).Nodup
  nodup_revisions :
    (registrations.map fun registration =>
      (registration.sourceDocumentId, registration.sourceVersion)).Nodup

def KnowledgeReleaseManifest.scope (manifest : KnowledgeReleaseManifest) : ReleaseScope :=
  ⟨manifest.tenantId, manifest.environmentId, manifest.knowledgeReleaseId⟩

structure NormalizedSection where
  sectionId : String
  headingPath : List String
  text : String
  pageStart : Option ℕ
  pageEnd : Option ℕ
  deriving DecidableEq, Repr

structure NormalizedDocument where
  title : String
  sourceUri : String
  sourceContentType : String
  sourceContentSha256 : String
  parserVersion : String
  sections : List NormalizedSection
  deriving DecidableEq, Repr

/-- What an ingestion reads and what it leaves to the parsers and the tokenizer. -/
structure Ingestion where
  parseSource : String → Except String NormalizedDocument
  chunkDocument : NormalizedDocument → List ChunkDraft
  chunkingStrategyVersion : String
  artifactSha256 : IngestionArtifact → String

def idempotencyKey (manifest : KnowledgeReleaseManifest)
    (registration : KnowledgeSourceRegistration) : String :=
  manifest.tenantId ++ ":" ++ manifest.environmentId ++ ":" ++ manifest.knowledgeReleaseId ++ ":" ++
    registration.knowledgeDocumentId ++ ":" ++ registration.sourceVersion ++ ":" ++
    registration.expectedSourceContentSha256

/-- `process_ingestion` on the request of a registered source. -/
def ingestRegisteredSource (ingestion : Ingestion) (manifest : KnowledgeReleaseManifest)
    (registration : KnowledgeSourceRegistration) (ingestionJobId : String) :
    Except String IngestionArtifact := do
  let document ← ingestion.parseSource registration.sourceUri
  if document.sourceContentType ≠ registration.expectedSourceContentType then
    .error "Registered source content type does not match parsed source content type."
  else if document.sourceContentSha256.toLower ≠
      registration.expectedSourceContentSha256.toLower then
    .error "Registered source hash does not match the source file that was read."
  else
    let artifact : IngestionArtifact := {
      ingestionJobId
      idempotencyKey := idempotencyKey manifest registration
      knowledgeReleaseId := manifest.knowledgeReleaseId
      tenantId := manifest.tenantId
      environmentId := manifest.environmentId
      knowledgeDocumentId := registration.knowledgeDocumentId
      sourceDocumentId := registration.sourceDocumentId
      sourceVersion := registration.sourceVersion
      title := document.title
      sourceUri := registration.sourceUri
      sourceContentSha256 := document.sourceContentSha256
      classification := registration.classification
      locale := registration.locale
      effectiveFrom := registration.effectiveFrom
      effectiveUntil := registration.effectiveUntil
      parserVersion := document.parserVersion
      chunkingStrategyVersion := ingestion.chunkingStrategyVersion
      chunks := ingestion.chunkDocument document
      artifactSha256 := "" }
    .ok { artifact with artifactSha256 := ingestion.artifactSha256 artifact }

/-- Verified contents for one release, with no record twice. -/
structure KnowledgeReleaseCompilation where
  tenantId : String
  environmentId : String
  knowledgeReleaseId : String
  ingestionJobId : String
  embeddingModel : EmbeddingModel
  artifacts : List IngestionArtifact
  indexDocuments : List IndexableKnowledgeChunk
  ne_nil : indexDocuments ≠ []
  nodup : (indexDocuments.map IndexableKnowledgeChunk.indexDocumentId).Nodup
  deriving DecidableEq, Repr

def KnowledgeReleaseCompilation.scope (compilation : KnowledgeReleaseCompilation) : ReleaseScope :=
  ⟨compilation.tenantId, compilation.environmentId, compilation.knowledgeReleaseId⟩

/-- `str.isspace`. -/
def isSpace (c : Char) : Bool :=
  let n := c.toNat
  (0x09 ≤ n && n ≤ 0x0d) || (0x1c ≤ n && n ≤ 0x20) || n = 0x85 || n = 0xa0 || n = 0x1680 ||
    (0x2000 ≤ n && n ≤ 0x200a) || n = 0x2028 || n = 0x2029 || n = 0x202f || n = 0x205f || n = 0x3000

/-- A source of the release, ingested and embedded. -/
def compileSource (ingestion : Ingestion) (manifest : KnowledgeReleaseManifest)
    (embeddingProvider : EmbeddingProvider) (ingestionJobId : String)
    (registration : KnowledgeSourceRegistration) :
    Except String (IngestionArtifact × List IndexableKnowledgeChunk) := do
  let artifact ← ingestRegisteredSource ingestion manifest registration ingestionJobId
  let embeddedChunks ← embedChunks artifact.chunks embeddingProvider
  let documents ← buildIndexDocuments artifact embeddedChunks
  return (artifact, documents)

def compileKnowledgeRelease (ingestion : Ingestion) (manifest : KnowledgeReleaseManifest)
    (embeddingProvider : EmbeddingProvider) (ingestionJobId : String) :
    Except String KnowledgeReleaseCompilation :=
  if ingestionJobId.toList.all isSpace then .error "ingestion_job_id must be non-empty"
  else do
    let sources ← manifest.registrations.mapM
      (compileSource ingestion manifest embeddingProvider ingestionJobId)
    let indexDocuments := sources.flatMap Prod.snd
    if hnil : indexDocuments ≠ [] then
      if hnodup : (indexDocuments.map IndexableKnowledgeChunk.indexDocumentId).Nodup then
        .ok {
          tenantId := manifest.tenantId
          environmentId := manifest.environmentId
          knowledgeReleaseId := manifest.knowledgeReleaseId
          ingestionJobId
          embeddingModel := embeddingProvider.model
          artifacts := sources.map Prod.fst
          indexDocuments
          ne_nil := hnil
          nodup := hnodup }
      else .error "A release compilation must not contain duplicate index documents."
    else .error "List should have at least 1 item after validation, not 0"

variable {ingestion : Ingestion} {manifest : KnowledgeReleaseManifest}
  {embeddingProvider : EmbeddingProvider} {ingestionJobId : String}
  {registration : KnowledgeSourceRegistration} {artifact : IngestionArtifact}
  {documents : List IndexableKnowledgeChunk} {compilation : KnowledgeReleaseCompilation}

theorem ingestRegisteredSource_scope
    (h : ingestRegisteredSource ingestion manifest registration ingestionJobId = .ok artifact) :
    artifact.scope = manifest.scope := by
  unfold ingestRegisteredSource at h
  cases hparse : ingestion.parseSource registration.sourceUri with
  | error message =>
    rw [hparse] at h
    cases h
  | ok document =>
    rw [hparse] at h
    simp only [bind, Except.bind] at h
    split_ifs at h
    cases h
    rfl

/-- A source that is what was registered is ingested with all its chunks. -/
theorem ingestRegisteredSource_ok (manifest : KnowledgeReleaseManifest) (ingestionJobId : String)
    {document : NormalizedDocument}
    (hparse : ingestion.parseSource registration.sourceUri = .ok document)
    (htype : document.sourceContentType = registration.expectedSourceContentType)
    (hhash : document.sourceContentSha256 = registration.expectedSourceContentSha256) :
    ∃ artifact, ingestRegisteredSource ingestion manifest registration ingestionJobId =
        .ok artifact ∧ artifact.scope = manifest.scope ∧
      artifact.knowledgeDocumentId = registration.knowledgeDocumentId ∧
      artifact.chunks = ingestion.chunkDocument document := by
  unfold ingestRegisteredSource
  rw [hparse]
  dsimp only [bind, Except.bind]
  rw [if_neg (not_not.mpr htype), if_neg (not_not.mpr (congrArg String.toLower hhash))]
  exact ⟨_, rfl, rfl, rfl, rfl⟩

theorem compileSource_spec (h : compileSource ingestion manifest embeddingProvider ingestionJobId
    registration = .ok (artifact, documents)) : ∃ embeddedChunks,
    ingestRegisteredSource ingestion manifest registration ingestionJobId = .ok artifact ∧
      embedChunks artifact.chunks embeddingProvider = .ok embeddedChunks ∧
      buildIndexDocuments artifact embeddedChunks = .ok documents := by
  unfold compileSource at h
  cases hartifact : ingestRegisteredSource ingestion manifest registration ingestionJobId with
  | error message =>
    rw [hartifact] at h
    cases h
  | ok artifact' =>
    cases hembed : embedChunks artifact'.chunks embeddingProvider with
    | error message =>
      simp only [hartifact, bind, Except.bind, hembed] at h
      cases h
    | ok embeddedChunks =>
      cases hbuild : buildIndexDocuments artifact' embeddedChunks with
      | error message =>
        simp only [hartifact, bind, Except.bind, hembed, hbuild] at h
        cases h
      | ok documents' =>
        simp only [hartifact, bind, Except.bind, hembed, hbuild] at h
        cases h
        exact ⟨embeddedChunks, rfl, hembed, hbuild⟩

theorem compileSource_scope (h : compileSource ingestion manifest embeddingProvider ingestionJobId
    registration = .ok (artifact, documents)) :
    ∀ document ∈ documents, document.scope = manifest.scope := by
  obtain ⟨embeddedChunks, hartifact, -, hbuild⟩ := compileSource_spec h
  intro document hdocument
  rw [buildIndexDocuments_scope hbuild document hdocument, ingestRegisteredSource_scope hartifact]

theorem compileSource_model (h : compileSource ingestion manifest embeddingProvider ingestionJobId
    registration = .ok (artifact, documents)) :
    ∀ document ∈ documents, document.embeddingModel = embeddingProvider.model := by
  obtain ⟨embeddedChunks, -, hembed, hbuild⟩ := compileSource_spec h
  intro document hdocument
  obtain ⟨embedded, hembedded, hmodel⟩ := buildIndexDocuments_model hbuild document hdocument
  rw [hmodel, embedChunks_model hembed embedded hembedded]

theorem compileKnowledgeRelease_spec
    (h : compileKnowledgeRelease ingestion manifest embeddingProvider ingestionJobId =
      .ok compilation) : ∃ sources,
    manifest.registrations.mapM
        (compileSource ingestion manifest embeddingProvider ingestionJobId) = .ok sources ∧
      compilation.scope = manifest.scope ∧
      compilation.embeddingModel = embeddingProvider.model ∧
      compilation.indexDocuments = sources.flatMap Prod.snd := by
  unfold compileKnowledgeRelease at h
  split_ifs at h
  cases hsources : manifest.registrations.mapM
      (compileSource ingestion manifest embeddingProvider ingestionJobId) with
  | error message =>
    rw [hsources] at h
    cases h
  | ok sources =>
    rw [hsources] at h
    simp only [bind, Except.bind] at h
    split_ifs at h
    cases h
    exact ⟨sources, rfl, rfl, rfl, rfl⟩

/-- Every record of a compilation belongs to the release that was compiled. -/
theorem compileKnowledgeRelease_scope
    (h : compileKnowledgeRelease ingestion manifest embeddingProvider ingestionJobId =
      .ok compilation) :
    ∀ document ∈ compilation.indexDocuments, document.scope = compilation.scope := by
  obtain ⟨sources, hsources, hscope, -, hdocuments⟩ := compileKnowledgeRelease_spec h
  intro document hdocument
  rw [hdocuments] at hdocument
  obtain ⟨⟨artifact, documents⟩, hsource, hdocument⟩ := List.mem_flatMap.mp hdocument
  obtain ⟨registration, -, hcompile⟩ := mem_of_mapM hsources _ hsource
  rw [hscope, compileSource_scope hcompile document hdocument]

/-- Every record of a compilation has the model that the compilation names. -/
theorem compileKnowledgeRelease_model
    (h : compileKnowledgeRelease ingestion manifest embeddingProvider ingestionJobId =
      .ok compilation) :
    ∀ document ∈ compilation.indexDocuments,
      document.embeddingModel = compilation.embeddingModel := by
  obtain ⟨sources, hsources, -, hmodel, hdocuments⟩ := compileKnowledgeRelease_spec h
  intro document hdocument
  rw [hdocuments] at hdocument
  obtain ⟨⟨artifact, documents⟩, hsource, hdocument⟩ := List.mem_flatMap.mp hdocument
  obtain ⟨registration, -, hcompile⟩ := mem_of_mapM hsources _ hsource
  rw [hmodel, compileSource_model hcompile document hdocument]

/-! Releases that compile. -/

/-- A source as it was registered, cut into chunks with ids of their own, compiles. -/
theorem compileSource_ok (manifest : KnowledgeReleaseManifest) (ingestionJobId : String)
    {model : EmbeddingModel} {embed : String → List ℚ} {document : NormalizedDocument}
    (h : ∀ content, (embed content).length = model.dimension)
    (hparse : ingestion.parseSource registration.sourceUri = .ok document)
    (htype : document.sourceContentType = registration.expectedSourceContentType)
    (hhash : document.sourceContentSha256 = registration.expectedSourceContentSha256)
    (hnodup : ((ingestion.chunkDocument document).map ChunkDraft.chunkId).Nodup) :
    ∃ source, compileSource ingestion manifest (.each model embed) ingestionJobId registration =
        .ok source ∧ source.2.map IndexableKnowledgeChunk.indexDocumentId =
      (ingestion.chunkDocument document).map fun chunk =>
        indexDocumentId manifest.scope registration.knowledgeDocumentId chunk.chunkId := by
  obtain ⟨artifact, hartifact, hscope, hdocument, hchunks⟩ :=
    ingestRegisteredSource_ok manifest ingestionJobId hparse htype hhash
  rw [← hchunks] at hnodup ⊢
  obtain ⟨documents, hdocuments, hids⟩ := buildIndexDocuments_ok
    (fun chunk => ⟨chunk.chunkId, chunk.contentSha256, embed chunk.content, model,
      h chunk.content⟩)
    (fun _ => rfl) (fun _ => rfl) (fun _ => rfl) hnodup
  refine ⟨(artifact, documents), ?_, by rw [hids, hscope, hdocument]⟩
  unfold compileSource
  simp only [hartifact, bind, Except.bind, embedChunks_each h, hdocuments]
  rfl

theorem compileKnowledgeRelease_ok {provider : EmbeddingProvider}
    {sources : List (IngestionArtifact × List IndexableKnowledgeChunk)}
    (hjob : ¬ingestionJobId.toList.all isSpace)
    (hsources : manifest.registrations.mapM
      (compileSource ingestion manifest provider ingestionJobId) = .ok sources)
    (hnil : sources.flatMap Prod.snd ≠ [])
    (hnodup : ((sources.flatMap Prod.snd).map IndexableKnowledgeChunk.indexDocumentId).Nodup) :
    ∃ compilation, compileKnowledgeRelease ingestion manifest provider ingestionJobId =
        .ok compilation ∧ compilation.scope = manifest.scope ∧
      compilation.embeddingModel = provider.model ∧
      compilation.indexDocuments = sources.flatMap Prod.snd := by
  unfold compileKnowledgeRelease
  rw [if_neg hjob, hsources]
  dsimp only [bind, Except.bind]
  rw [dif_pos hnil, dif_pos hnodup]
  exact ⟨_, rfl, rfl, rfl, rfl⟩

end CSO.KnowledgeRag
