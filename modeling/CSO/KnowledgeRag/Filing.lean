import CSO.KnowledgeRag.HeadingChain
import Mathlib.Data.List.DropRight
import Mathlib.Data.List.Pairwise

/-! Under which heading the parsers file a line of body text. -/
namespace CSO.KnowledgeRag

section

variable {α : Type} {introduction : α}

def headingsOf (blocks : List (Block α)) : List (ℕ × α) := blocks.filterMap Block.heading?

def bodiesOf (blocks : List (Block α)) : List α := blocks.filterMap Block.body?

/-- The parser after so many blocks. -/
def parsed (introduction : α) (blocks : List (Block α)) : Parsing α :=
  blocks.foldl (Parsing.step introduction) Parsing.start

theorem parsed_append (blocks : List (Block α)) (block : Block α) :
    parsed introduction (blocks ++ [block]) = (parsed introduction blocks).step introduction block := by
  rw [parsed, List.foldl_append]
  rfl

theorem headingsOf_append (blocks more : List (Block α)) :
    headingsOf (blocks ++ more) = headingsOf blocks ++ headingsOf more := List.filterMap_append

namespace Parsing

@[simp] theorem headingStack_flush (s : Parsing α) : s.flush.headingStack = s.headingStack := by
  obtain ⟨title, stack, sections, current⟩ := s
  cases current with
  | none => rfl
  | some current =>
    rw [flush]
    dsimp only
    split_ifs <;> rfl

/-- The section the next line is added to. -/
def openSection (introduction : α) (s : Parsing α) : SectionAccumulator α :=
  s.currentSection.getD ⟨introduction, [introduction], []⟩

theorem flush_keeps_sections (s : Parsing α) : s.sections <+: s.flush.sections := by
  obtain ⟨title, stack, sections, current⟩ := s
  cases current with
  | none => exact List.prefix_refl _
  | some current =>
    rw [flush]
    dsimp only
    split_ifs
    · exact List.prefix_refl _
    · exact List.prefix_append _ _

theorem step_sections_heading (s : Parsing α) (level : ℕ) (text : α) :
    (s.step introduction (.heading level text)).sections = s.flush.sections := by
  rw [step]
  dsimp only
  split_ifs <;> rfl

theorem step_keeps_sections (s : Parsing α) (block : Block α) :
    s.sections <+: (s.step introduction block).sections := by
  cases block with
  | heading level text =>
    rw [step_sections_heading]
    exact flush_keeps_sections s
  | body text => exact List.prefix_refl _

theorem foldl_keeps_sections (s : Parsing α) (blocks : List (Block α)) :
    s.sections <+: (blocks.foldl (step introduction) s).sections := by
  induction blocks generalizing s with
  | nil => exact List.prefix_refl _
  | cons block blocks ih => exact (step_keeps_sections s block).trans (ih _)

theorem mem_flush_sections {s : Parsing α} {current : SectionAccumulator α}
    (h : s.currentSection = some current) (hsome : current.paragraphs ≠ []) :
    current ∈ s.flush.sections := by
  obtain ⟨title, stack, sections, open?⟩ := s
  cases h
  have hempty : ¬current.paragraphs.isEmpty = true := fun h => hsome (List.isEmpty_iff.mp h)
  rw [flush]
  dsimp only
  rw [if_neg hempty]
  exact List.mem_append_right _ List.mem_cons_self

/-- A section with paragraphs ends up among the sections, with its path and what is added to it. -/
theorem current_filed {s : Parsing α} {current : SectionAccumulator α}
    (h : s.currentSection = some current) (hsome : current.paragraphs ≠ [])
    (blocks : List (Block α)) :
    ∃ part ∈ (blocks.foldl (step introduction) s).flush.sections,
      part.headingPath = current.headingPath ∧
      ∃ more, part.paragraphs = current.paragraphs ++ more ∧ more ⊆ bodiesOf blocks := by
  induction blocks generalizing s current with
  | nil =>
    exact ⟨current, mem_flush_sections h hsome, rfl, [], (List.append_nil _).symm,
      List.nil_subset _⟩
  | cons block blocks ih =>
    cases block with
    | heading level text =>
      have hmem : current ∈ (s.step introduction (.heading level text)).sections := by
        rw [step_sections_heading]
        exact mem_flush_sections h hsome
      have hlater := ((@foldl_keeps_sections α introduction _ blocks).trans
        (flush_keeps_sections _)).subset hmem
      exact ⟨current, hlater, rfl, [], (List.append_nil _).symm, List.nil_subset _⟩
    | body text =>
      have hnext : (s.step introduction (.body text)).currentSection =
          some { current with paragraphs := current.paragraphs ++ [text] } := by
        rw [step]
        simp only [h, Option.getD_some]
      obtain ⟨part, hpart, hpath, more, hmore, hbodies⟩ :=
        ih hnext (List.append_ne_nil_of_right_ne_nil _ (List.cons_ne_nil _ _))
      refine ⟨part, hpart, hpath, text :: more, ?_, ?_⟩
      · rw [hmore, List.append_assoc]
        rfl
      · exact List.cons_subset_cons text hbodies

end Parsing

open Parsing

/-- The stack of the parser is the one cut by its length. -/
theorem headingStack_parsed (blocks : List (Block α)) :
    (parsed introduction blocks).headingStack = (indexStack (headingsOf blocks)).map Prod.snd := by
  induction blocks using List.reverseRecOn with
  | nil => rfl
  | append_singleton blocks block ih =>
    rw [parsed_append, headingsOf_append]
    cases block with
    | heading level text =>
      have hheading : headingsOf [Block.heading level text] = [(level, text)] := rfl
      rw [hheading, indexStack_append, pushHeading, step]
      dsimp only
      split_ifs
      · rfl
      · rw [headingStack_flush, ih, List.map_append, cutStack, cutStack]
        split_ifs
        · rw [List.map_dropLast]
          rfl
        · rw [List.map_take]
          rfl
    | body text =>
      have hheading : headingsOf [Block.body text] = [] := rfl
      rw [hheading, List.append_nil, ← ih]
      rfl

/-- Body text is added to the open section. -/
theorem openSection_bodies (blocks bodies : List (Block α)) (hbodies : headingsOf bodies = []) :
    (openSection introduction (parsed introduction (blocks ++ bodies))).headingPath =
        (openSection introduction (parsed introduction blocks)).headingPath ∧
      (openSection introduction (parsed introduction (blocks ++ bodies))).paragraphs =
        (openSection introduction (parsed introduction blocks)).paragraphs ++ bodiesOf bodies := by
  induction bodies using List.reverseRecOn with
  | nil =>
    rw [List.append_nil]
    exact ⟨rfl, (List.append_nil _).symm⟩
  | append_singleton bodies block ih =>
    rw [headingsOf_append, List.append_eq_nil_iff] at hbodies
    obtain ⟨hpath, hparagraphs⟩ := ih hbodies.1
    cases block with
    | heading level text => exact absurd hbodies.2 (List.cons_ne_nil _ _)
    | body text =>
      have hbody : bodiesOf (bodies ++ [.body text]) = bodiesOf bodies ++ [text] :=
        List.filterMap_append
      rw [← List.append_assoc, parsed_append, hbody, ← List.append_assoc, ← hparagraphs, ← hpath]
      exact ⟨rfl, rfl⟩

/-! Sections without text. -/

def isBody : Block α → Bool
  | .heading _ _ => false
  | .body _ => true

def isTopHeading : Block α → Bool
  | .heading level _ => level == 1
  | .body _ => false

/-- The blocks end in a heading below the first level, apart from headings of the first level after
it. -/
def EndsInHeading (blocks : List (Block α)) : Prop :=
  ∃ level text, (blocks.reverse.dropWhile isTopHeading).head? = some (.heading level text)

theorem endsInHeading_top {blocks : List (Block α)} {text : α} :
    EndsInHeading (blocks ++ [.heading 1 text]) ↔ EndsInHeading blocks := by
  have htop : isTopHeading (Block.heading 1 text) = true := rfl
  rw [EndsInHeading, List.reverse_append, List.reverse_singleton, List.singleton_append,
    List.dropWhile_cons_of_pos htop]
  rfl

/-- The section of such a heading is still the current one. -/
theorem currentSection_empty (blocks : List (Block α)) :
    (∀ current, (parsed introduction blocks).currentSection = some current →
      current.paragraphs = [] → EndsInHeading blocks ∧
        ∃ heading ∈ headingsOf blocks, current.headingPath.getLast? = some heading.2) ∧
    (EndsInHeading blocks → ∃ current, (parsed introduction blocks).currentSection = some current ∧
      current.paragraphs = []) := by
  induction blocks using List.reverseRecOn with
  | nil => exact ⟨nofun, fun ⟨_, _, h⟩ => by cases h⟩
  | append_singleton blocks block ih =>
    rw [parsed_append]
    cases block with
    | heading level text =>
      have hheadings : headingsOf (blocks ++ [.heading level text]) =
          headingsOf blocks ++ [(level, text)] := headingsOf_append blocks _
      by_cases hone : level = 1
      · subst hone
        have hcurrent : ((parsed introduction blocks).step introduction
            (.heading 1 text)).currentSection =
            (parsed introduction blocks).flush.currentSection := rfl
        rw [hcurrent, endsInHeading_top, hheadings]
        constructor
        · intro current hopen hempty
          obtain ⟨hin, heading, hmem, hlast⟩ := ih.1 current (currentSection_flush hopen).2 hempty
          exact ⟨hin, heading, List.mem_append_left _ hmem, hlast⟩
        · intro hin
          obtain ⟨current, hopen, hempty⟩ := ih.2 hin
          refine ⟨current, ?_, hempty⟩
          have hflush : (parsed introduction blocks).flush = parsed introduction blocks := by
            rw [flush, hopen]
            dsimp only
            rw [if_pos (List.isEmpty_iff.mpr hempty)]
          rw [hflush, hopen]
      · have hcurrent : ((parsed introduction blocks).step introduction
            (.heading level text)).currentSection =
            some ⟨text, cutStack level (parsed introduction blocks).flush.headingStack ++ [text], []⟩ := by
          rw [step]
          dsimp only
          rw [if_neg hone]
        have hends : EndsInHeading (blocks ++ [.heading level text]) := by
          have htop : ¬isTopHeading (Block.heading level text) = true := fun h =>
            hone (beq_iff_eq.mp h)
          refine ⟨level, text, ?_⟩
          rw [List.reverse_append, List.reverse_singleton, List.singleton_append,
            List.dropWhile_cons_of_neg htop, List.head?_cons]
        rw [hcurrent, hheadings]
        constructor
        · intro current hopen _
          cases hopen
          exact ⟨hends, (level, text), List.mem_append_right _ List.mem_cons_self,
            List.getLast?_concat⟩
        · intro _
          exact ⟨_, rfl, rfl⟩
    | body text =>
      constructor
      · intro current hopen hempty
        rw [step] at hopen
        cases hopen
        exact absurd (List.append_eq_nil_iff.mp hempty).2 (List.cons_ne_nil _ _)
      · rintro ⟨level, heading, hhead⟩
        have htop : ¬isTopHeading (Block.body text) = true := Bool.false_ne_true
        rw [List.reverse_append, List.reverse_singleton, List.singleton_append,
          List.dropWhile_cons_of_neg htop, List.head?_cons] at hhead
        cases hhead

/-- The section a line after a heading of the first level is added to. -/
theorem openSection_top {blocks : List (Block α)} {text : α} :
    openSection introduction (parsed introduction (blocks ++ [.heading 1 text])) =
      (parsed introduction blocks).flush.currentSection.getD
        ⟨introduction, [introduction], []⟩ := by
  rw [parsed_append, step]
  rfl

/-- The section a line after another heading is added to. -/
theorem openSection_heading {blocks : List (Block α)} {level : ℕ} {text : α} (hlevel : level ≠ 1) :
    openSection introduction (parsed introduction (blocks ++ [.heading level text])) =
      ⟨text, (indexStack (headingsOf (blocks ++ [.heading level text]))).map Prod.snd, []⟩ := by
  rw [← @headingStack_parsed α introduction, parsed_append, step]
  dsimp only
  rw [if_neg hlevel]
  rfl

/-- Blocks are body text only, or there is a last heading with body text after it. -/
theorem blocks_cases (blocks : List (Block α)) :
    headingsOf blocks = [] ∨ ∃ before level text bodies,
      blocks = before ++ [.heading level text] ++ bodies ∧ headingsOf bodies = [] := by
  induction blocks using List.reverseRecOn with
  | nil => exact .inl rfl
  | append_singleton blocks block ih =>
    cases block with
    | heading level text => exact .inr ⟨blocks, level, text, [], (List.append_nil _).symm, rfl⟩
    | body line =>
      have hbody : headingsOf [Block.body line] = [] := rfl
      rcases ih with hnone | ⟨before, level, text, bodies, rfl, hbodies⟩
      · exact .inl (by rw [headingsOf_append, hnone, hbody]; rfl)
      · refine .inr ⟨before, level, text, bodies ++ [.body line], List.append_assoc _ _ _, ?_⟩
        rw [headingsOf_append, hbodies, hbody]
        rfl

end

end CSO.KnowledgeRag
