import CSO.KnowledgeRag.Filing

/-! Which sources have every line of body text filed under its own heading. -/
namespace CSO.KnowledgeRag

/-- A text with its place in the source, so that equal texts are told apart. -/
structure Line where
  number : ℕ
  text : Text
  deriving DecidableEq, Repr

/-- The blocks of a source, numbered from 1. -/
def number (blocks : List (Block Text)) : List (Block Line) :=
  (blocks.zipIdx 1).map fun (block, n) => block.map (Line.mk n)

/-- The heading of an introduction has no place. -/
def introductionLine : Line := ⟨0, introduction⟩

/-- The numbers do not change what the parsers do. -/
theorem sectionsOf_number (blocks : List (Block Text)) :
    sectionsOf introduction blocks =
      (sectionsOf introductionLine (number blocks)).map (SectionAccumulator.map Line.text) := by
  have herase : (number blocks).map (Block.map Line.text) = blocks := by
    have hblock : ∀ pair : Block Text × ℕ,
        (pair.1.map (Line.mk pair.2)).map Line.text = pair.1 := by
      rintro ⟨block, n⟩
      cases block <;> rfl
    rw [number, List.map_map]
    exact (List.map_congr_left fun pair _ => hblock pair).trans (List.zipIdx_map_fst 1 blocks)
  rw [← sectionsOf_map, herase]
  rfl

/-- What a part has to be to hold a line after these blocks: an introduction of its own where the
closest heading is of the first level or there is none, and else the part of the chain of the
nearest headings, which is opened by the closest of them. -/
def UnderHeading (before : List (Block Line)) (part : SectionAccumulator Line) : Prop :=
  match (headingsOf before).getLast? with
  | none => part.headingPath = [introductionLine]
  | some (level, heading) =>
    if level = 1 then
      part.headingPath = [introductionLine] ∧ ∀ line ∈ part.paragraphs, heading.number < line.number
    else part.headingPath = (headingChain (headingsOf before)).map Prod.snd

/-- Every line of body text belongs to a section under its own heading. -/
def Filed (blocks : List (Block Text)) : Prop :=
  ∀ before line after, number blocks = before ++ .body line :: after →
    ∃ part ∈ sectionsOf introductionLine (number blocks), line ∈ part.paragraphs ∧
      UnderHeading before part

/-- The headings before a line leave the parsers with the right section: a heading of the first
level does not follow one without text, and below it the levels of the stack increase, from the
last heading of level 0 on where there is one. -/
def Orderly (before : List (Block Line)) : Prop :=
  match (headingsOf before).getLast? with
  | none => True
  | some (level, _) =>
    if level = 1 then ¬EndsInHeading (before.rdropWhile isBody)
    else Increasing (indexStack (headingsOf before)) ∧ Rooted (headingsOf before)

def OrderlyHeadings (blocks : List (Block Text)) : Prop :=
  ∀ before line after, number blocks = before ++ .body line :: after → Orderly before

/-! The numbers. -/

def Block.text {α : Type} : Block α → α
  | heading _ text => text
  | body text => text

theorem numbers_number (blocks : List (Block Text)) :
    (number blocks).map (fun block => block.text.number) = List.range' 1 blocks.length := by
  have hblock : ∀ pair : Block Text × ℕ, (pair.1.map (Line.mk pair.2)).text.number = pair.2 := by
    rintro ⟨block, n⟩
    cases block <;> rfl
  rw [number, List.map_map]
  exact (List.map_congr_left fun pair _ => hblock pair).trans (List.zipIdx_map_snd 1 blocks)

theorem number_sorted (blocks : List (Block Text)) :
    (number blocks).Pairwise fun a b => a.text.number < b.text.number := by
  rw [← List.pairwise_map, numbers_number]
  exact List.pairwise_lt_range'

theorem number_positive {blocks : List (Block Text)} {block : Block Line}
    (h : block ∈ number blocks) : 1 ≤ block.text.number := by
  have hmem : block.text.number ∈ (number blocks).map (fun block => block.text.number) :=
    List.mem_map_of_mem h
  rw [numbers_number] at hmem
  exact (List.mem_range'_1.mp hmem).1

theorem mem_headingsOf {α : Type} {blocks : List (Block α)} {heading : ℕ × α} :
    heading ∈ headingsOf blocks ↔ .heading heading.1 heading.2 ∈ blocks := by
  rw [headingsOf, List.mem_filterMap]
  constructor
  · rintro ⟨block, hblock, hheading⟩
    cases block with
    | heading level text =>
      cases hheading
      exact hblock
    | body text => cases hheading
  · intro hmem
    exact ⟨_, hmem, rfl⟩

theorem mem_bodiesOf {α : Type} {blocks : List (Block α)} {text : α} :
    text ∈ bodiesOf blocks ↔ .body text ∈ blocks := by
  rw [bodiesOf, List.mem_filterMap]
  constructor
  · rintro ⟨block, hblock, hbody⟩
    cases block with
    | heading level text => cases hbody
    | body text =>
      cases hbody
      exact hblock
  · intro hmem
    exact ⟨_, hmem, rfl⟩

section

variable {blocks : List (Block Text)} {before after : List (Block Line)} {line : Line}

/-- Lines are distinct. -/
theorem bodies_nodup (blocks : List (Block Text)) : (bodiesOf (number blocks)).Nodup := by
  refine List.Pairwise.filterMap Block.body? ?_ (number_sorted blocks)
  rintro (⟨_, _⟩ | a) (⟨_, _⟩ | b) hlt x hx y hy
  · cases hx
  · cases hx
  · cases hy
  · cases hx
    cases hy
    rintro rfl
    exact Nat.lt_irrefl _ hlt

theorem headings_sorted (h : number blocks = before ++ .body line :: after) :
    (headingsOf before).Pairwise fun a b => a.2.number < b.2.number := by
  have hsorted := number_sorted blocks
  rw [h, List.pairwise_append] at hsorted
  refine List.Pairwise.filterMap Block.heading? ?_ hsorted.1
  rintro (⟨_, _⟩ | a) (⟨_, _⟩ | b) hlt x hx y hy
  · cases hx
    cases hy
    exact hlt
  · cases hy
  · cases hx
  · cases hx

theorem isBody_of_headingsOf {α : Type} {blocks : List (Block α)} (h : headingsOf blocks = []) :
    ∀ block ∈ blocks, isBody block = true := by
  intro block hblock
  cases block with
  | heading level text =>
    have hmem : (level, text) ∈ headingsOf blocks := mem_headingsOf.mpr hblock
    rw [h] at hmem
    cases hmem
  | body text => rfl

/-- A line is in one part only. -/
theorem part_unique {part other : SectionAccumulator Line}
    (hpart : part ∈ sectionsOf introductionLine (number blocks))
    (hother : other ∈ sectionsOf introductionLine (number blocks))
    (hline : line ∈ part.paragraphs) (hline' : line ∈ other.paragraphs) : part = other := by
  have hnodup := bodies_nodup blocks
  rw [bodiesOf, ← @flatMap_paragraphs Line introductionLine, List.nodup_flatMap] at hnodup
  have hsymm : Std.Symm (Function.onFun List.Disjoint (@SectionAccumulator.paragraphs Line)) :=
    ⟨fun _ _ hdisjoint _ hleft hright => hdisjoint hright hleft⟩
  by_contra hne
  exact hnodup.2.forall hpart hother hne hline hline'

/-- The part of a line: that of the open section, with lines of the rest added. -/
theorem part_exists (h : number blocks = before ++ .body line :: after) :
    ∃ part ∈ sectionsOf introductionLine (number blocks), line ∈ part.paragraphs ∧
      part.headingPath =
        (Parsing.openSection introductionLine (parsed introductionLine before)).headingPath ∧
      ∃ more, part.paragraphs =
        (Parsing.openSection introductionLine (parsed introductionLine before)).paragraphs ++
          line :: more ∧ more ⊆ bodiesOf after := by
  have hcurrent : (parsed introductionLine (before ++ [.body line])).currentSection =
      some { Parsing.openSection introductionLine (parsed introductionLine before) with
        paragraphs := (Parsing.openSection introductionLine
          (parsed introductionLine before)).paragraphs ++ [line] } := by
    rw [parsed_append]
    rfl
  obtain ⟨part, hpart, hpath, more, hmore, hbodies⟩ := Parsing.current_filed hcurrent
    (List.append_ne_nil_of_right_ne_nil _ (List.cons_ne_nil _ _)) after
  have hsections : sectionsOf introductionLine (number blocks) =
      (after.foldl (Parsing.step introductionLine)
        (parsed introductionLine (before ++ [.body line]))).flush.sections := by
    rw [h, sectionsOf, parseBlocks, parsed, ← List.foldl_append, List.append_assoc]
    rfl
  rw [List.append_assoc] at hmore
  refine ⟨part, by rw [hsections]; exact hpart, ?_, hpath, more, hmore, hbodies⟩
  rw [hmore]
  exact List.mem_append_right _ List.mem_cons_self

theorem map_inj_of_mem {α β : Type} {f : α → β} {l m : List α}
    (h : ∀ x ∈ l, ∀ y ∈ m, f x = f y → x = y) (hmap : l.map f = m.map f) : l = m := by
  induction l generalizing m with
  | nil => exact (List.map_eq_nil_iff.mp hmap.symm).symm
  | cons x l ih =>
    cases m with
    | nil => cases hmap
    | cons y m =>
      rw [List.map_cons, List.map_cons, List.cons.injEq] at hmap
      rw [h x List.mem_cons_self y List.mem_cons_self hmap.1, ih (fun a ha b hb =>
        h a (List.mem_cons_of_mem x ha) b (List.mem_cons_of_mem y hb)) hmap.2]

/-- The stack gives the path of a line exactly where it is the chain. -/
theorem path_eq_iff (h : number blocks = before ++ .body line :: after) :
    (indexStack (headingsOf before)).map Prod.snd =
        (headingChain (headingsOf before)).map Prod.snd ↔
      Increasing (indexStack (headingsOf before)) ∧ Rooted (headingsOf before) := by
  have hsorted := headings_sorted h
  have hnumbers : ((headingsOf before).map Prod.snd).Nodup := by
    refine List.pairwise_map.mpr (hsorted.imp fun hlt heq => ?_)
    rw [heq] at hlt
    exact Nat.lt_irrefl _ hlt
  rw [← indexStack_eq_iff hnumbers.of_map]
  constructor
  · exact map_inj_of_mem (fun x hx y hy => List.inj_on_of_nodup_map hnumbers
      (indexStack_subset _ hx) (headingChain_subset _ hy))
  · intro hsame
    rw [hsame]

/-- A line is under its heading exactly where the headings before it are in order. -/
theorem underHeading_iff (h : number blocks = before ++ .body line :: after) :
    (∃ part ∈ sectionsOf introductionLine (number blocks), line ∈ part.paragraphs ∧
      UnderHeading before part) ↔ Orderly before := by
  obtain ⟨part, hpart, hline, hpath, more, hparagraphs, hmore⟩ := part_exists h
  have hpartOnly : (∃ part ∈ sectionsOf introductionLine (number blocks), line ∈ part.paragraphs ∧
      UnderHeading before part) ↔ UnderHeading before part := by
    constructor
    · rintro ⟨other, hother, hotherLine, hunder⟩
      rwa [part_unique hpart hother hline hotherLine]
    · intro hunder
      exact ⟨part, hpart, hline, hunder⟩
  rw [hpartOnly, UnderHeading, Orderly]
  rcases blocks_cases before with hnone | ⟨pre, level, text, bodies, hbefore, hbodies⟩
  · rw [hnone, List.getLast?_nil]
    have hopen := (@openSection_bodies Line introductionLine [] before hnone).1
    rw [List.nil_append] at hopen
    exact iff_of_true (hpath.trans hopen) trivial
  · have hlast : (headingsOf before).getLast? = some (level, text) := by
      rw [hbefore, headingsOf_append, headingsOf_append, hbodies, List.append_nil]
      exact List.getLast?_concat
    obtain ⟨hopenPath, hopenParagraphs⟩ :=
      @openSection_bodies Line introductionLine (pre ++ [.heading level text]) bodies hbodies
    rw [← hbefore] at hopenPath hopenParagraphs
    rw [hlast]
    dsimp only
    by_cases hlevel : level = 1
    · rw [if_pos hlevel, if_pos hlevel]
      subst hlevel
      rw [openSection_top] at hopenPath hopenParagraphs
      have hcut : before.rdropWhile isBody = pre ++ [.heading 1 text] := by
        have hall : ∀ block ∈ bodies.reverse, isBody block = true := fun block hblock =>
          isBody_of_headingsOf hbodies block (List.mem_reverse.mp hblock)
        have hheading : ¬isBody (Block.heading 1 text) = true := Bool.false_ne_true
        rw [hbefore, List.rdropWhile, List.reverse_append, List.dropWhile_append_of_pos hall,
          List.reverse_append, List.reverse_singleton, List.singleton_append,
          List.dropWhile_cons_of_neg hheading, List.reverse_cons, List.reverse_reverse]
      rw [hcut, endsInHeading_top]
      by_cases hends : EndsInHeading pre
      · -- The section of the heading without text takes the line.
        obtain ⟨current, hcurrent, hempty⟩ := (currentSection_empty pre).2 hends
        obtain ⟨-, heading, hheading, hend⟩ := (currentSection_empty pre).1 current hcurrent hempty
        have hflush : (parsed introductionLine pre).flush = parsed introductionLine pre := by
          rw [Parsing.flush, hcurrent]
          dsimp only
          rw [if_pos (List.isEmpty_iff.mpr hempty)]
        rw [hflush, hcurrent, Option.getD_some] at hopenPath
        refine iff_of_false (fun hunder => ?_) (not_not_intro hends)
        rw [hpath, hopenPath] at hunder
        rw [hunder.1] at hend
        have hmem : Block.heading heading.1 heading.2 ∈ number blocks := by
          rw [h, hbefore]
          simp [mem_headingsOf.mp hheading]
        have hpositive := number_positive hmem
        rw [Block.text, ← Option.some.inj hend] at hpositive
        exact absurd hpositive (by decide)
      · have hnone : (parsed introductionLine pre).flush.currentSection = none := by
          cases hcurrent : (parsed introductionLine pre).flush.currentSection with
          | none => rfl
          | some current =>
            obtain ⟨hempty, hopen⟩ := Parsing.currentSection_flush hcurrent
            exact absurd ((currentSection_empty pre).1 current hopen hempty).1 hends
        rw [hnone, Option.getD_none] at hopenPath hopenParagraphs
        refine iff_of_true ⟨hpath.trans hopenPath, fun other hother => ?_⟩ hends
        rw [hparagraphs, hopenParagraphs, List.nil_append] at hother
        have hlater : Block.body other ∈ bodies ++ .body line :: after := by
          rcases List.mem_append.mp hother with hother | hother
          · exact List.mem_append_left _ (mem_bodiesOf.mp hother)
          · rcases List.mem_cons.mp hother with rfl | hother
            · exact List.mem_append_right _ List.mem_cons_self
            · exact List.mem_append_right _ (List.mem_cons_of_mem _
                (mem_bodiesOf.mp (hmore hother)))
        have hsorted := number_sorted blocks
        rw [h, hbefore, List.append_assoc, List.append_assoc, List.pairwise_append] at hsorted
        exact List.rel_of_pairwise_cons hsorted.2.1 hlater
    · rw [if_neg hlevel, if_neg hlevel, hpath, hopenPath, openSection_heading hlevel,
        ← path_eq_iff h, hbefore, headingsOf_append _ bodies, hbodies, List.append_nil]

end

/-- The lines of a source are filed under their own headings exactly where the headings before each
of them are in order. -/
theorem filed_iff (blocks : List (Block Text)) : Filed blocks ↔ OrderlyHeadings blocks := by
  constructor
  · intro hfiled before line after h
    exact (underHeading_iff h).mp (hfiled before line after h)
  · intro horderly before line after h
    exact (underHeading_iff h).mpr (horderly before line after h)

/-- So it is with markdown, with the block elements of HTML and with the paragraphs of DOCX. -/
theorem sources_filed_iff {σ : Type} (content : Text) (textOf : σ → Text) (root : Forest σ)
    (digitValue : Char → Option ℕ) (paragraphs : List DocxParagraph) :
    (Filed (markdownBlocks content) ↔ OrderlyHeadings (markdownBlocks content)) ∧
      (Filed ((htmlBlocks textOf root).map (Block.map (joinStrings textOf))) ↔
        OrderlyHeadings ((htmlBlocks textOf root).map (Block.map (joinStrings textOf)))) ∧
      (Filed (docxBlocks digitValue paragraphs) ↔
        OrderlyHeadings (docxBlocks digitValue paragraphs)) :=
  ⟨filed_iff _, filed_iff _, filed_iff _⟩

/-- A line after a title that follows a heading without text goes under that heading, and one under
skipped levels has a heading in its path that is not above it. -/
theorem headings_misfile : ¬Filed (markdownBlocks "## A\n# T\nbody".toList) ∧
    ¬Filed (markdownBlocks "# T\n#### D\n### C\nbody".toList) := by
  constructor
  · intro hfiled
    obtain ⟨part, hpart, -, hunder⟩ := hfiled
      [.heading 2 ⟨1, ['A']⟩, .heading 1 ⟨2, ['T']⟩] ⟨3, "body".toList⟩ [] (by decide)
    have hsections : sectionsOf introductionLine (number (markdownBlocks "## A\n# T\nbody".toList)) =
        [⟨⟨1, ['A']⟩, [⟨1, ['A']⟩], [⟨3, "body".toList⟩]⟩] := by decide
    rw [hsections, List.mem_singleton] at hpart
    subst hpart
    exact absurd hunder.1 (by decide)
  · intro hfiled
    obtain ⟨part, hpart, -, hunder⟩ := hfiled
      [.heading 1 ⟨1, ['T']⟩, .heading 4 ⟨2, ['D']⟩, .heading 3 ⟨3, ['C']⟩] ⟨4, "body".toList⟩ []
      (by decide)
    have hsections : sectionsOf introductionLine
        (number (markdownBlocks "# T\n#### D\n### C\nbody".toList)) =
        [⟨⟨3, ['C']⟩, [⟨1, ['T']⟩, ⟨2, ['D']⟩, ⟨3, ['C']⟩], [⟨4, "body".toList⟩]⟩] := by decide
    rw [hsections, List.mem_singleton] at hpart
    subst hpart
    have hpath : [Line.mk 1 ['T'], ⟨2, ['D']⟩, ⟨3, ['C']⟩] = [⟨1, ['T']⟩, ⟨3, ['C']⟩] := hunder
    exact absurd hpath (by decide)

end CSO.KnowledgeRag
