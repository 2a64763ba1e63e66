import CSO.KnowledgeRag.Release
import CSO.Python.Regex

/-! The chunks of a document: its sentences, joined up to a budget of tokens. -/
namespace CSO.KnowledgeRag
open Python (Regex)
open Python.Regex

/-- A text of code points. -/
abbrev Text := List Char

/-- `tiktoken.Encoding` -/
structure Encoding (τ : Type) where
  encode : Text → List τ
  decode : List τ → Text

structure ChunkingConfig where
  targetTokenCount : ℕ
  overlapTokenCount : ℕ
  chunkingStrategyVersion : String
  overlap_lt : overlapTokenCount < targetTokenCount
  strategy_ne : chunkingStrategyVersion ≠ ""

/-- A draft with what the index does not take over. -/
structure CountedChunkDraft extends ChunkDraft where
  tokenCount : ℕ
  chunkingStrategyVersion : String
  deriving DecidableEq, Repr

/-- `^[a-fA-F0-9]{64}$` -/
def IsSha256 (s : String) : Prop :=
  s.length = 64 ∧ ∀ c ∈ s.toList, c.isDigit ∨ ('a' ≤ c ∧ c ≤ 'f') ∨ ('A' ≤ c ∧ c ≤ 'F')

instance (s : String) : Decidable (IsSha256 s) := inferInstanceAs (Decidable (_ ∧ _))

/-- The pages of a part are given together, and in order. -/
def PageRange (pageStart pageEnd : Option ℕ) : Prop :=
  match pageStart, pageEnd with
  | none, none => True
  | some first, some last => 0 < first ∧ first ≤ last
  | _, _ => False

instance : (pageStart pageEnd : Option ℕ) → Decidable (PageRange pageStart pageEnd)
  | none, none => inferInstanceAs (Decidable True)
  | some first, some last => inferInstanceAs (Decidable (0 < first ∧ first ≤ last))
  | none, some _ => inferInstanceAs (Decidable False)
  | some _, none => inferInstanceAs (Decidable False)

/-- What the model of a draft admits. -/
def CountedChunkDraft.Admitted (draft : CountedChunkDraft) : Prop :=
  draft.chunkId ≠ "" ∧ draft.parentSectionId ≠ "" ∧ 1 ≤ draft.chunkOrdinalWithinSection ∧
    draft.sourceUri ≠ "" ∧ IsSha256 draft.sourceContentSha256 ∧ draft.title ≠ "" ∧
    draft.sectionPath ≠ [] ∧ draft.content ≠ "" ∧ IsSha256 draft.contentSha256 ∧
    0 < draft.tokenCount ∧ PageRange draft.pageStart draft.pageEnd ∧
    draft.chunkingStrategyVersion ≠ ""

instance (draft : CountedChunkDraft) : Decidable draft.Admitted :=
  inferInstanceAs (Decidable (_ ∧ _))

/-- `(?<=[.!?])\s+` -/
def sentenceBoundaryPattern : Regex :=
  seq (behind fun c => c ∈ ['.', '!', '?']) (plus space)

section

variable {τ : Type} (encoding : Encoding τ)

def tokenCount (text : Text) : ℕ := (encoding.encode text).length

def joinText (left right : Text) : Text := if left = [] then right else left ++ ' ' :: right

/-- The last tokens of a text. -/
def tailByTokens (text : Text) (count : ℕ) : Text :=
  if count = 0 then []
  else
    let tokens := encoding.encode text
    Python.strip (encoding.decode (tokens.drop (tokens.length - count)))

/-- A text cut after so many tokens each time. -/
def splitByTokenBudget (text : Text) (tokenBudget : ℕ) : List Text :=
  let tokens := encoding.encode text
  (List.range ((tokens.length + tokenBudget - 1) / tokenBudget)).map fun i =>
    Python.strip (encoding.decode ((tokens.drop (i * tokenBudget)).take tokenBudget))

/-- The pieces between the ends of sentences, stripped, those that are not blank. -/
def sentencesOf (text : Text) : List Text :=
  let (first, more) := sentenceBoundaryPattern.split (fun _ => false) text
  ((first :: more.map Prod.snd).map Python.strip).filter (· ≠ [])

def splitIntoUnits (text : Text) (maximumUnitTokenCount : ℕ) : List Text :=
  (sentencesOf text).flatMap fun sentence =>
    if tokenCount encoding sentence ≤ maximumUnitTokenCount then [sentence]
    else splitByTokenBudget encoding sentence maximumUnitTokenCount

variable (config : ChunkingConfig)

def maximumUnitTokenCount : ℕ := config.targetTokenCount - config.overlapTokenCount

def units (text : Text) : List Text := splitIntoUnits encoding text (maximumUnitTokenCount config)

/-- The content does not take the unit. -/
def Full (current unit : Text) : Prop :=
  current ≠ [] ∧ config.targetTokenCount < tokenCount encoding (joinText current unit)

instance (current unit : Text) : Decidable (Full encoding config current unit) :=
  inferInstanceAs (Decidable (_ ∧ _))

/-- What the next unit is joined to: the content, or its overlap where it is full. -/
def carried (current unit : Text) : Text :=
  if Full encoding config current unit then
    tailByTokens encoding current config.overlapTokenCount
  else current

/-- The overlap that is left beside a unit. -/
def allowedOverlap (unit : Text) : ℕ := config.targetTokenCount - tokenCount encoding unit

/-- The unit with what is carried over, which gives way where both are too long. -/
def candidate (carriedOver unit : Text) : Text :=
  if config.targetTokenCount < tokenCount encoding (joinText carriedOver unit) then
    joinText (tailByTokens encoding carriedOver (allowedOverlap encoding config unit)) unit
  else joinText carriedOver unit

/-- What a pass of the loop leaves as the running content. -/
def nextContent (current unit : Text) : Text :=
  candidate encoding config (carried encoding config current unit) unit

structure ChunkLoop where
  chunkContents : List Text
  currentContent : Text
  deriving DecidableEq, Repr

def pass (s : ChunkLoop) (unit : Text) : ChunkLoop where
  chunkContents :=
    if Full encoding config s.currentContent unit then s.chunkContents ++ [s.currentContent]
    else s.chunkContents
  currentContent := nextContent encoding config s.currentContent unit

def chunkContents (units : List Text) : List Text :=
  let s := units.foldl (pass encoding config) ⟨[], []⟩
  if s.currentContent ≠ [] then s.chunkContents ++ [s.currentContent] else s.chunkContents

/-- The format `03d`. -/
def ordinalText (n : ℕ) : String :=
  String.ofList (List.replicate (3 - (Nat.toDigits 10 n).length) '0' ++ Nat.toDigits 10 n)

def toChunkDraft (document : NormalizedDocument) (part : NormalizedSection) (content : Text)
    (chunkOrdinal : ℕ) : Option CountedChunkDraft :=
  let draft : CountedChunkDraft := {
    chunkId := part.sectionId ++ "-chunk-" ++ ordinalText chunkOrdinal
    parentSectionId := part.sectionId
    chunkOrdinalWithinSection := chunkOrdinal
    sourceUri := document.sourceUri
    sourceContentSha256 := document.sourceContentSha256
    title := document.title
    sectionPath := part.headingPath
    content := String.ofList content
    contentSha256 := JS.Sha256.hex (String.ofList content)
    tokenCount := tokenCount encoding content
    pageStart := part.pageStart
    pageEnd := part.pageEnd
    chunkingStrategyVersion := config.chunkingStrategyVersion }
  if draft.Admitted then some draft else none

def chunkSection (document : NormalizedDocument) (part : NormalizedSection) :
    Option (List CountedChunkDraft) :=
  ((chunkContents encoding config (units encoding config part.text.toList)).zipIdx 1).mapM
    fun (content, chunkOrdinal) => toChunkDraft encoding config document part content chunkOrdinal

def chunkDocument (document : NormalizedDocument) : Option (List CountedChunkDraft) :=
  (document.sections.mapM (chunkSection encoding config document)).map List.flatten

end

end CSO.KnowledgeRag
