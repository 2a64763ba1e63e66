import CSO.KnowledgeRag.Coverage

/-! The parsers of markdown, HTML and DOCX sources: what they take for a heading and for body text,
and how they gather the sections between. -/
namespace CSO.KnowledgeRag
open Python (strip)

/-- What the parsers read of a source, one after another. -/
inductive Block (α : Type)
  | heading (level : ℕ) (text : α)
  | body (text : α)
  deriving DecidableEq, Repr

section

variable {α β : Type}

def Block.map (f : α → β) : Block α → Block β
  | heading level text => heading level (f text)
  | body text => body (f text)

def Block.heading? : Block α → Option (ℕ × α)
  | heading level text => some (level, text)
  | body _ => none

def Block.body? : Block α → Option α
  | heading _ _ => none
  | body text => some text

/-- `_SectionAccumulator` -/
structure SectionAccumulator (α : Type) where
  heading : α
  headingPath : List α
  paragraphs : List α
  deriving DecidableEq, Repr

def SectionAccumulator.map (f : α → β) (accumulated : SectionAccumulator α) :
    SectionAccumulator β where
  heading := f accumulated.heading
  headingPath := accumulated.headingPath.map f
  paragraphs := accumulated.paragraphs.map f

/-- What a parser keeps between two blocks. -/
structure Parsing (α : Type) where
  title : Option α
  headingStack : List α
  sections : List (SectionAccumulator α)
  currentSection : Option (SectionAccumulator α)
  deriving DecidableEq, Repr

namespace Parsing

def start : Parsing α := ⟨none, [], [], none⟩

/-- `flush_current_section`: a section without paragraphs stays the current one. -/
def flush (s : Parsing α) : Parsing α :=
  match s.currentSection with
  | none => s
  | some current =>
    if current.paragraphs.isEmpty then s
    else { s with sections := s.sections ++ [current], currentSection := none }

/-- `heading_stack[: heading_level - 1]`, where `[: -1]` leaves out the last. -/
def cutStack (level : ℕ) (stack : List α) : List α :=
  if level = 0 then stack.dropLast else stack.take (level - 1)

def step (introduction : α) (s : Parsing α) : Block α → Parsing α
  | .heading level text =>
    let s := s.flush
    if level = 1 then { s with title := some text, headingStack := [text] }
    else
      let headingStack := cutStack level s.headingStack ++ [text]
      { s with
        headingStack := headingStack
        currentSection := some ⟨text, headingStack, []⟩ }
  | .body text =>
    let current := s.currentSection.getD ⟨introduction, [introduction], []⟩
    { s with currentSection := some { current with paragraphs := current.paragraphs ++ [text] } }

end Parsing

def parseBlocks (introduction : α) (blocks : List (Block α)) : Parsing α :=
  (blocks.foldl (Parsing.step introduction) Parsing.start).flush

def sectionsOf (introduction : α) (blocks : List (Block α)) : List (SectionAccumulator α) :=
  (parseBlocks introduction blocks).sections

end

def introduction : Text := "Introduction".toList

def parserVersion : String := "parser-v1"

def normalizedSection (accumulated : SectionAccumulator Text) (n : ℕ) : NormalizedSection where
  sectionId := "section-" ++ ordinalText n
  headingPath := accumulated.headingPath.map String.ofList
  text := String.ofList (List.intercalate "\n\n".toList accumulated.paragraphs)
  pageStart := none
  pageEnd := none

/-- The document of a source, which has to have a section. -/
def normalizedDocument (blocks : List (Block Text)) (untitled sourceUri sourceContentType
    sourceContentSha256 : String) : Option NormalizedDocument :=
  let parsed := parseBlocks introduction blocks
  let sections := (parsed.sections.zipIdx 1).map fun (accumulated, n) =>
    normalizedSection accumulated n
  if sections.isEmpty then none
  else some {
    title := (parsed.title.map String.ofList).getD untitled
    sourceUri := sourceUri
    sourceContentType := sourceContentType
    sourceContentSha256 := sourceContentSha256
    parserVersion := parserVersion
    sections := sections }

/-! Markdown. -/

/-- The characters that end a line. -/
def isLineBreak (c : Char) : Bool :=
  c ∈ ['\n', '\r', '\x0b', '\x0c', '\x1c', '\x1d', '\x1e', '\u0085', '\u2028', '\u2029']

/-- `str.splitlines`, from the line that is read on. -/
def splitLines (line : Text) : Text → List Text
  | [] => if line = [] then [] else [line]
  | '\r' :: '\n' :: rest => line :: splitLines [] rest
  | c :: rest => if isLineBreak c then line :: splitLines [] rest else splitLines (line ++ [c]) rest

/-- `^(#{1,6})\s+(.+?)\s*$`, matched against a stripped line. -/
def markdownHeading (line : Text) : Option (ℕ × Text) :=
  let marks := line.takeWhile (· = '#')
  let rest := line.dropWhile (· = '#')
  let heading := rest.dropWhile Python.isSpace
  if 1 ≤ marks.length ∧ marks.length ≤ 6 ∧ heading.length < rest.length ∧ heading ≠ [] then
    some (marks.length, heading)
  else none

def markdownBlock (rawLine : Text) : Option (Block Text) :=
  let line := strip rawLine
  match markdownHeading line with
  | some (level, heading) => some (.heading level heading)
  | none => if line = [] then none else some (.body line)

def markdownBlocks (content : Text) : List (Block Text) :=
  (splitLines [] content).filterMap markdownBlock

def parseMarkdown (content : Text) (sourceUri sourceContentSha256 : String) :
    Option NormalizedDocument :=
  normalizedDocument (markdownBlocks content) "Untitled Markdown Document" sourceUri "text/markdown"
    sourceContentSha256

/-! HTML. -/

/-- A tree of elements and strings, by its first node, what is in that and what comes after. -/
inductive Forest (σ : Type)
  | nil
  | string (s : σ) (next : Forest σ)
  | element (name : String) (children next : Forest σ)
  deriving DecidableEq, Repr

section

variable {σ : Type} (textOf : σ → Text)

namespace Forest

/-- `descendants` that are strings -/
def strings : Forest σ → List σ
  | nil => []
  | string s next => s :: next.strings
  | element _ children next => children.strings ++ next.strings

/-- `stripped_strings` -/
def strippedStrings (forest : Forest σ) : List σ :=
  forest.strings.filter fun s => strip (textOf s) ≠ []

end Forest

def headingNames : List (String × ℕ) := [("h1", 1), ("h2", 2), ("h3", 3), ("h4", 4)]

def bodyNames : List String := ["p", "li"]

/-- What an element found gives, if it has a text. -/
def htmlBlock (name : String) (strings : List σ) : Option (Block (List σ)) :=
  if strings.isEmpty then none
  else
    match headingNames.lookup name with
    | some level => some (.heading level strings)
    | none => if name ∈ bodyNames then some (.body strings) else none

/-- `find_all`: an element stands before those in it. -/
def htmlBlocks : Forest σ → List (Block (List σ))
  | .nil => []
  | .string _ next => htmlBlocks next
  | .element name children next =>
    (htmlBlock name (children.strippedStrings textOf)).toList ++ htmlBlocks children ++
      htmlBlocks next

/-- `" ".join` -/
def joinStrings (strings : List σ) : Text :=
  List.intercalate [' '] (strings.map fun s => strip (textOf s))

def parseHtml (root : Forest σ) (sourceUri sourceContentSha256 : String) :
    Option NormalizedDocument :=
  normalizedDocument ((htmlBlocks textOf root).map (Block.map (joinStrings textOf)))
    "Untitled HTML Document" sourceUri "text/html" sourceContentSha256

end

/-! DOCX. -/

structure DocxParagraph where
  text : Text
  styleName : Text
  deriving DecidableEq, Repr

/-- `^Heading\s+(\d+)$` and the number, with the values Unicode gives to decimal digits. -/
def headingStyleLevel (digitValue : Char → Option ℕ) (styleName : Text) : Option ℕ :=
  let line := if styleName.getLast? = some '\n' then styleName.dropLast else styleName
  let rest := line.drop "Heading".length
  let digits := rest.dropWhile Python.isSpace
  if "Heading".toList.isPrefixOf line ∧ digits.length < rest.length ∧ digits ≠ [] then
    (digits.mapM digitValue).map (List.foldl (fun n digit => 10 * n + digit) 0)
  else none

def docxBlock (digitValue : Char → Option ℕ) (paragraph : DocxParagraph) : Option (Block Text) :=
  let text := strip paragraph.text
  if text = [] then none
  else
    match headingStyleLevel digitValue paragraph.styleName with
    | some level => some (.heading level text)
    | none => some (.body text)

def docxBlocks (digitValue : Char → Option ℕ) (paragraphs : List DocxParagraph) :
    List (Block Text) :=
  paragraphs.filterMap (docxBlock digitValue)

def parseDocx (digitValue : Char → Option ℕ) (paragraphs : List DocxParagraph)
    (untitled sourceUri sourceContentSha256 : String) : Option NormalizedDocument :=
  normalizedDocument (docxBlocks digitValue paragraphs) untitled sourceUri
    "application/vnd.openxmlformats-officedocument.wordprocessingml.document" sourceContentSha256

/-! The body text of the sections. -/

section

variable {α β : Type} {introduction : α}

namespace Parsing

/-- All paragraphs so far, those of the current section last. -/
def allParagraphs (s : Parsing α) : List α :=
  s.sections.flatMap SectionAccumulator.paragraphs ++
    (s.currentSection.map SectionAccumulator.paragraphs).getD []

theorem allParagraphs_flush (s : Parsing α) : s.flush.allParagraphs = s.allParagraphs := by
  obtain ⟨title, stack, sections, current⟩ := s
  cases current with
  | none => rfl
  | some current =>
    rw [flush]
    dsimp only
    split_ifs
    · rfl
    · simp [allParagraphs]

/-- After a flush the current section has no paragraph. -/
theorem currentSection_flush {s : Parsing α} {current : SectionAccumulator α}
    (h : s.flush.currentSection = some current) :
    current.paragraphs = [] ∧ s.currentSection = some current := by
  obtain ⟨title, stack, sections, open?⟩ := s
  cases open? with
  | none => cases h
  | some other =>
    rw [flush] at h
    dsimp only at h
    split_ifs at h with hempty
    cases h
    exact ⟨List.isEmpty_iff.mp hempty, rfl⟩

theorem allParagraphs_step (s : Parsing α) (block : Block α) :
    (s.step introduction block).allParagraphs = s.allParagraphs ++ block.body?.toList := by
  cases block with
  | heading level text =>
    have hkeep := allParagraphs_flush s
    rw [step]
    dsimp only
    split_ifs
    · simpa [Block.body?, allParagraphs] using hkeep
    · have hopen : (s.flush.currentSection.map SectionAccumulator.paragraphs).getD [] = [] := by
        cases hcurrent : s.flush.currentSection with
        | none => rfl
        | some current => exact (currentSection_flush hcurrent).1
      rw [allParagraphs, hopen, List.append_nil] at hkeep
      simpa [Block.body?, allParagraphs] using hkeep
  | body text =>
    cases hcurrent : s.currentSection with
    | none => simp [step, allParagraphs, hcurrent, Block.body?]
    | some current => simp [step, allParagraphs, hcurrent, Block.body?]

theorem allParagraphs_foldl (s : Parsing α) (blocks : List (Block α)) :
    (blocks.foldl (step introduction) s).allParagraphs =
      s.allParagraphs ++ blocks.filterMap Block.body? := by
  induction blocks generalizing s with
  | nil => exact (List.append_nil _).symm
  | cons block blocks ih =>
    rw [List.foldl_cons, ih, allParagraphs_step, List.append_assoc]
    cases hbody : block.body? with
    | none => rw [List.filterMap_cons_none hbody]; rfl
    | some text => rw [List.filterMap_cons_some hbody]; rfl

end Parsing

/-- The paragraphs of the sections are the body text, in order. -/
theorem flatMap_paragraphs (blocks : List (Block α)) :
    (sectionsOf introduction blocks).flatMap SectionAccumulator.paragraphs =
      blocks.filterMap Block.body? := by
  have hall := @Parsing.allParagraphs_foldl α introduction Parsing.start blocks
  rw [← Parsing.allParagraphs_flush] at hall
  have hopen : ((parseBlocks introduction blocks).currentSection.map
      SectionAccumulator.paragraphs).getD [] = [] := by
    cases hcurrent : (parseBlocks introduction blocks).currentSection with
    | none => rfl
    | some current => exact (Parsing.currentSection_flush hcurrent).1
  rw [Parsing.allParagraphs, ← parseBlocks, hopen, List.append_nil] at hall
  exact hall

/-! The parsers do not look into the texts. -/

def Parsing.map (f : α → β) (s : Parsing α) : Parsing β where
  title := s.title.map f
  headingStack := s.headingStack.map f
  sections := s.sections.map (SectionAccumulator.map f)
  currentSection := s.currentSection.map (SectionAccumulator.map f)

namespace Parsing

variable (f : α → β) (s : Parsing α)

theorem map_flush : (s.map f).flush = s.flush.map f := by
  obtain ⟨title, stack, sections, current⟩ := s
  cases current with
  | none => rfl
  | some current =>
    obtain ⟨heading, path, paragraphs⟩ := current
    cases paragraphs with
    | nil => rfl
    | cons text paragraphs => simp [flush, map, SectionAccumulator.map]

theorem map_cutStack (level : ℕ) (stack : List α) :
    cutStack level (stack.map f) = (cutStack level stack).map f := by
  rw [cutStack, cutStack]
  split_ifs
  · exact List.map_dropLast.symm
  · exact List.map_take.symm

theorem map_step (block : Block α) :
    (s.map f).step (f introduction) (block.map f) = (s.step introduction block).map f := by
  cases block with
  | heading level text =>
    rw [Block.map, step, step, map_flush]
    dsimp only
    split_ifs
    · rfl
    · have hstack : cutStack level (s.flush.map f).headingStack =
          (cutStack level s.flush.headingStack).map f := map_cutStack f level _
      rw [hstack]
      simp [map, SectionAccumulator.map]
  | body text =>
    rw [Block.map, step, step]
    cases hcurrent : s.currentSection with
    | none => simp [map, SectionAccumulator.map, hcurrent]
    | some current => simp [map, SectionAccumulator.map, hcurrent]

theorem map_foldl (blocks : List (Block α)) :
    (blocks.map (Block.map f)).foldl (step (f introduction)) (s.map f) =
      (blocks.foldl (step introduction) s).map f := by
  induction blocks generalizing s with
  | nil => rfl
  | cons block blocks ih => rw [List.map_cons, List.foldl_cons, map_step, ih, List.foldl_cons]

end Parsing

theorem sectionsOf_map (f : α → β) (blocks : List (Block α)) :
    sectionsOf (f introduction) (blocks.map (Block.map f)) =
      (sectionsOf introduction blocks).map (SectionAccumulator.map f) := by
  have hfold := @Parsing.map_foldl α β introduction f Parsing.start blocks
  have hstart : (Parsing.start : Parsing α).map f = Parsing.start := rfl
  rw [hstart] at hfold
  rw [sectionsOf, parseBlocks, hfold, Parsing.map_flush]
  rfl

end

end CSO.KnowledgeRag
