import CSO.KnowledgeRag.FiledLines

/-! How often the sections of a source hold each piece of its body text. -/
namespace CSO.KnowledgeRag
open Python (strip)

/-! Markdown. -/

/-- The lines that are neither blank nor headings. -/
def bodyLines (content : Text) : List Text :=
  ((splitLines [] content).map strip).filter fun line => line ≠ [] ∧ markdownHeading line = none

theorem body?_markdownBlock (line : Text) : (markdownBlock line).bind Block.body? =
    if strip line ≠ [] ∧ markdownHeading (strip line) = none then some (strip line) else none := by
  rw [markdownBlock]
  cases hheading : markdownHeading (strip line) with
  | some heading =>
    have hnever : ¬(strip line ≠ [] ∧ some heading = none) := fun h => Option.some_ne_none _ h.2
    dsimp only
    rw [if_neg hnever]
    rfl
  | none =>
    dsimp only
    by_cases hblank : strip line = []
    · rw [if_pos hblank, if_neg fun h => h.1 hblank]
      rfl
    · rw [if_neg hblank, if_pos ⟨hblank, rfl⟩]
      rfl

theorem bodiesOf_markdown (content : Text) : bodiesOf (markdownBlocks content) = bodyLines content := by
  rw [bodiesOf, markdownBlocks, bodyLines, List.filterMap_filterMap]
  induction splitLines [] content with
  | nil => rfl
  | cons line lines ih =>
    have hline := body?_markdownBlock line
    rw [List.filterMap_cons, hline, List.map_cons, List.filter_cons, ih]
    by_cases hbody : strip line ≠ [] ∧ markdownHeading (strip line) = none
    · rw [if_pos hbody, if_pos (decide_eq_true hbody)]
    · rw [if_neg hbody, if_neg (by simpa using hbody)]

/-- What `parse_source` gives for markdown holds its body lines, each once and in order, under
distinct section ids; it fails where there are none. -/
def KeepsLines (content : Text) (sourceUri sourceContentSha256 : String) : Prop :=
  match parseMarkdown content sourceUri sourceContentSha256 with
  | none => bodyLines content = []
  | some document =>
    (document.sections.map NormalizedSection.sectionId).Nodup ∧
      ∃ paragraphs : List (List Text), paragraphs.flatten = bodyLines content ∧
        document.sections.map NormalizedSection.text = paragraphs.map fun texts =>
          String.ofList (List.intercalate "\n\n".toList texts)

theorem sectionId_inj {n m : ℕ} (h : "section-" ++ ordinalText n = "section-" ++ ordinalText m) :
    n = m := by
  have hlists := congrArg String.toList h
  rw [String.toList_append, String.toList_append] at hlists
  exact ordinalText_injective (String.toList_injective (List.append_cancel_left hlists))

theorem sectionIds_nodup (parts : List (SectionAccumulator Text)) :
    (((parts.zipIdx 1).map fun (accumulated, n) => normalizedSection accumulated n).map
      NormalizedSection.sectionId).Nodup := by
  have hids : (((parts.zipIdx 1).map fun (accumulated, n) => normalizedSection accumulated n).map
      NormalizedSection.sectionId) =
      (List.range' 1 parts.length).map fun n => "section-" ++ ordinalText n := by
    rw [← List.zipIdx_map_snd 1 parts, List.map_map, List.map_map]
    rfl
  rw [hids]
  exact List.Nodup.map (fun n m => sectionId_inj) List.nodup_range'

theorem parseMarkdown_keeps (content : Text) (sourceUri sourceContentSha256 : String) :
    KeepsLines content sourceUri sourceContentSha256 := by
  have hparagraphs := @flatMap_paragraphs Text introduction (markdownBlocks content)
  rw [← bodiesOf, bodiesOf_markdown] at hparagraphs
  rw [KeepsLines, parseMarkdown, normalizedDocument]
  dsimp only
  by_cases hempty : (((parseBlocks introduction (markdownBlocks content)).sections.zipIdx 1).map
      fun (accumulated, n) => normalizedSection accumulated n).isEmpty = true
  · rw [if_pos hempty]
    have hnone : sectionsOf introduction (markdownBlocks content) = [] :=
      List.zipIdx_eq_nil_iff.mp (List.map_eq_nil_iff.mp (List.isEmpty_iff.mp hempty))
    rw [hnone] at hparagraphs
    exact hparagraphs.symm
  · rw [if_neg hempty]
    refine ⟨sectionIds_nodup _, (sectionsOf introduction (markdownBlocks content)).map
      SectionAccumulator.paragraphs, ?_, ?_⟩
    · rw [← List.flatMap_def, hparagraphs]
    · let joined : SectionAccumulator Text → String := fun accumulated =>
        String.ofList (List.intercalate "\n\n".toList accumulated.paragraphs)
      have hjoined : ∀ parts : List (SectionAccumulator Text),
          (parts.zipIdx 1).map (fun pair => joined pair.1) = parts.map joined := by
        intro parts
        have hmap : (parts.zipIdx 1).map (joined ∘ Prod.fst) =
            ((parts.zipIdx 1).map Prod.fst).map joined := List.map_map.symm
        rw [List.zipIdx_map_fst] at hmap
        exact hmap
      rw [List.map_map, List.map_map]
      exact hjoined _

/-! HTML. -/

namespace Forest

variable {σ : Type} (textOf : σ → Text)

/-- The strings that are not blank, do not lie in a heading, and lie in so many `p` and `li`
elements at least, where there are some around already. -/
def held (least holders : ℕ) : Forest σ → List σ
  | nil => []
  | string s next =>
    (if least ≤ holders ∧ strip (textOf s) ≠ [] then [s] else []) ++ next.held least holders
  | element name children next =>
    (if (headingNames.lookup name).isSome then []
      else children.held least (if name ∈ bodyNames then holders + 1 else holders)) ++
      next.held least holders

/-- The strings of a tree with their places. -/
def numbered (n : ℕ) : Forest Text → Forest Line
  | nil => nil
  | string s next => string ⟨n, s⟩ (next.numbered (n + 1))
  | element name children next =>
    element name (children.numbered n) (next.numbered (n + children.strings.length))

end Forest

/-- The strings that the sections of a tree are made of, one after another. -/
def sectionStrings {σ : Type} (textOf : σ → Text) (heading : List σ) (root : Forest σ) : List σ :=
  ((sectionsOf heading (htmlBlocks textOf root)).flatMap SectionAccumulator.paragraphs).flatten

/-- Every string in a `p` or `li` element, and not in a heading, is in the sections once, in the
order of the document. -/
def KeepsStrings (root : Forest Text) : Prop :=
  let strings := (root.numbered 1).held Line.text 1 0
  (sectionStrings Line.text [introductionLine] (root.numbered 1)).filter (· ∈ strings) = strings

/-- No such string lies in two of these elements. -/
def HeldOnce (root : Forest Text) : Prop := root.held id 2 0 = []

namespace Forest

variable {σ : Type} {textOf : σ → Text}

theorem held_subset (least holders : ℕ) (forest : Forest σ) :
    forest.held textOf least holders ⊆ forest.strings := by
  induction forest generalizing holders with
  | nil => exact List.Subset.refl _
  | string s next ih =>
    intro x hx
    rcases List.mem_append.mp hx with hx | hx
    · split_ifs at hx with hholds
      · exact List.mem_cons.mpr (.inl (List.mem_singleton.mp hx))
      · cases hx
    · exact List.mem_cons_of_mem s (ih holders hx)
  | element name children next ihChildren ihNext =>
    intro x hx
    rcases List.mem_append.mp hx with hx | hx
    · split_ifs at hx
      · cases hx
      · exact List.mem_append_left _ (ihChildren _ hx)
      · exact List.mem_append_left _ (ihChildren _ hx)
    · exact List.mem_append_right _ (ihNext holders hx)

/-- Where there are elements enough around, those within do not count. -/
theorem held_enough {least holders holders' : ℕ} (h : least ≤ holders) (h' : least ≤ holders')
    (forest : Forest σ) :
    forest.held textOf least holders = forest.held textOf least holders' := by
  induction forest generalizing holders holders' with
  | nil => rfl
  | string s next ih =>
    rw [held, held, ih h h']
    simp only [h, h', true_and]
  | element name children next ihChildren ihNext =>
    rw [held, held, ihNext h h']
    congr 2
    by_cases hbody : name ∈ bodyNames
    · rw [if_pos hbody, if_pos hbody]
      exact ihChildren (Nat.le_succ_of_le h) (Nat.le_succ_of_le h')
    · rw [if_neg hbody, if_neg hbody]
      exact ihChildren h h'

/-- Another element around makes up for one that is asked for. -/
theorem held_succ (least holders : ℕ) (forest : Forest σ) :
    forest.held textOf (least + 1) (holders + 1) = forest.held textOf least holders := by
  induction forest generalizing holders with
  | nil => rfl
  | string s next ih =>
    rw [held, held, ih]
    simp only [Nat.add_le_add_iff_right]
  | element name children next ihChildren ihNext =>
    rw [held, held, ihNext]
    congr 2
    by_cases hbody : name ∈ bodyNames
    · rw [if_pos hbody, if_pos hbody]
      exact ihChildren (holders + 1)
    · rw [if_neg hbody, if_neg hbody]
      exact ihChildren holders

/-- The strings in `p` and `li` elements, once for each. -/
def visited (textOf : σ → Text) : Forest σ → List σ
  | nil => []
  | string _ next => next.visited textOf
  | element name children next =>
    (if name ∈ bodyNames then children.strippedStrings textOf else []) ++
      children.visited textOf ++ next.visited textOf

theorem visited_subset (forest : Forest σ) : forest.visited textOf ⊆ forest.strings := by
  induction forest with
  | nil => exact List.Subset.refl _
  | string s next ih => exact List.subset_cons_of_subset s ih
  | element name children next ihChildren ihNext =>
    intro x hx
    rcases List.mem_append.mp hx with hx | hx
    · rcases List.mem_append.mp hx with hx | hx
      · split_ifs at hx
        · exact List.mem_append_left _ (List.mem_of_mem_filter hx)
        · cases hx
      · exact List.mem_append_left _ (ihChildren hx)
    · exact List.mem_append_right _ (ihNext hx)

end Forest

open Forest

section

variable {σ : Type} {textOf : σ → Text}

/-- No name is that of a heading and of body text. -/
theorem headingNames_lookup_of_mem {name : String} (h : name ∈ bodyNames) :
    headingNames.lookup name = none := by
  rcases List.mem_cons.mp h with rfl | h
  · rfl
  · rw [List.mem_singleton.mp h]
    rfl

theorem bodiesOf_htmlBlocks (forest : Forest σ) :
    (bodiesOf (htmlBlocks textOf forest)).flatten = forest.visited textOf := by
  have happend : ∀ a b : List (Block (List σ)), bodiesOf (a ++ b) = bodiesOf a ++ bodiesOf b :=
    fun _ _ => List.filterMap_append
  induction forest with
  | nil => rfl
  | string s next ih => exact ih
  | element name children next ihChildren ihNext =>
    rw [htmlBlocks, happend, happend, List.flatten_append, List.flatten_append, ihChildren, ihNext,
      visited]
    congr 2
    rw [htmlBlock]
    by_cases hempty : (children.strippedStrings textOf).isEmpty = true
    · rw [if_pos hempty, List.isEmpty_iff.mp hempty, ite_self]
      rfl
    · rw [if_neg hempty]
      by_cases hbody : name ∈ bodyNames
      · rw [headingNames_lookup_of_mem hbody, if_pos hbody]
        dsimp only
        rw [if_pos hbody]
        exact List.append_nil _
      · rw [if_neg hbody, if_neg hbody]
        cases headingNames.lookup name with
        | some level => rfl
        | none => rfl

theorem sectionStrings_eq (heading : List σ) (root : Forest σ) :
    sectionStrings textOf heading root = root.visited textOf := by
  rw [sectionStrings, flatMap_paragraphs, ← bodiesOf, bodiesOf_htmlBlocks]

variable [DecidableEq σ]

theorem filter_mem_append {l m a b : List σ} (hl : ∀ x ∈ l, x ∉ b) (hm : ∀ x ∈ m, x ∉ a) :
    (l ++ m).filter (· ∈ a ++ b) = l.filter (· ∈ a) ++ m.filter (· ∈ b) := by
  rw [List.filter_append]
  congr 1
  · refine List.filter_congr fun x hx => ?_
    simp [hl x hx]
  · refine List.filter_congr fun x hx => ?_
    simp [hm x hx]

/-- Of the strings of an element those outside headings are kept. -/
theorem filter_strippedStrings {forest : Forest σ} (hnodup : forest.strings.Nodup) :
    (forest.strippedStrings textOf).filter (· ∈ forest.held textOf 0 0) =
      forest.held textOf 0 0 := by
  induction forest with
  | nil => rfl
  | string s next ih =>
    rw [strings, List.nodup_cons] at hnodup
    have hnext := ih hnodup.2
    have hstripped : (string s next).strippedStrings textOf =
        (if strip (textOf s) ≠ [] then [s] else []) ++ next.strippedStrings textOf := by
      rw [strippedStrings, strings, List.filter_cons]
      by_cases hblank : strip (textOf s) = []
      · simp [hblank, strippedStrings]
      · simp [hblank, strippedStrings]
    rw [hstripped, held]
    simp only [Nat.le_refl, true_and]
    rw [filter_mem_append, hnext]
    · congr 1
      split_ifs
      · simp
      · rfl
    · intro x hx hmem
      split_ifs at hx
      · rw [List.mem_singleton.mp hx] at hmem
        exact hnodup.1 (held_subset 0 0 next hmem)
      · cases hx
    · intro x hx hmem
      split_ifs at hmem
      · rw [List.mem_singleton.mp hmem] at hx
        exact hnodup.1 (List.mem_of_mem_filter hx)
      · cases hmem
  | element name children next ihChildren ihNext =>
    rw [strings, List.nodup_append] at hnodup
    obtain ⟨hchildren, hnext, hdisjoint⟩ := hnodup
    have hstripped : (element name children next).strippedStrings textOf =
        children.strippedStrings textOf ++ next.strippedStrings textOf := List.filter_append _ _
    have hheld : children.held textOf 0 (if name ∈ bodyNames then 0 + 1 else 0) =
        children.held textOf 0 0 := held_enough (Nat.zero_le _) (Nat.zero_le _) children
    rw [hstripped, held, hheld, filter_mem_append, ihNext hnext]
    · congr 1
      split_ifs
      · exact List.filter_eq_nil_iff.mpr fun x _ => by simp
      · exact ihChildren hchildren
    · intro x hx hmem
      exact hdisjoint x (List.mem_of_mem_filter hx) x (held_subset 0 0 next hmem) rfl
    · intro x hx hmem
      split_ifs at hmem
      · cases hmem
      · exact hdisjoint x (held_subset 0 0 children hmem) x (List.mem_of_mem_filter hx) rfl

/-- What is visited lies in an element. -/
theorem held_of_visited {forest : Forest σ} (hnodup : forest.strings.Nodup) {x : σ}
    (hx : x ∈ forest.visited textOf) :
    x ∈ forest.held textOf 0 0 ↔ x ∈ forest.held textOf 1 0 := by
  induction forest with
  | nil => cases hx
  | string s next ih =>
    rw [strings, List.nodup_cons] at hnodup
    have hne : x ≠ s := fun heq => hnodup.1 (heq ▸ visited_subset next hx)
    rw [held, held, List.mem_append, List.mem_append, ← ih hnodup.2 hx]
    have hnot : x ∉ if 0 ≤ 0 ∧ strip (textOf s) ≠ [] then [s] else [] := by
      split_ifs
      · exact fun hmem => hne (List.mem_singleton.mp hmem)
      · exact List.not_mem_nil
    have hnot' : x ∉ if 1 ≤ 0 ∧ strip (textOf s) ≠ [] then [s] else [] := by
      split_ifs
      · exact fun hmem => hne (List.mem_singleton.mp hmem)
      · exact List.not_mem_nil
    rw [or_iff_right hnot, or_iff_right hnot']
  | element name children next ihChildren ihNext =>
    rw [strings, List.nodup_append] at hnodup
    obtain ⟨hchildren, hnext, hdisjoint⟩ := hnodup
    rw [visited, List.append_assoc, ← List.append_assoc, List.mem_append] at hx
    rw [held, held, List.mem_append, List.mem_append]
    by_cases hin : x ∈ children.strings
    · have hout : x ∉ next.strings := fun hmem => hdisjoint x hin x hmem rfl
      rw [or_iff_left fun hmem => hout (held_subset 0 0 next hmem),
        or_iff_left fun hmem => hout (held_subset 1 0 next hmem)]
      by_cases hheading : (headingNames.lookup name).isSome = true
      · rw [if_pos hheading, if_pos hheading]
      · rw [if_neg hheading, if_neg hheading]
        by_cases hbody : name ∈ bodyNames
        · rw [if_pos hbody, held_succ, held_enough (Nat.zero_le _) (Nat.le_refl 0)]
        · rw [if_neg hbody]
          rcases hx with hx | hx
          · rw [if_neg hbody, List.nil_append] at hx
            exact ihChildren hchildren hx
          · exact absurd (visited_subset next hx) hout
    · have hnot : ∀ least, x ∉ if (headingNames.lookup name).isSome = true then []
          else children.held textOf least (if name ∈ bodyNames then 0 + 1 else 0) := by
        intro least hmem
        split_ifs at hmem
        · cases hmem
        · exact hin (held_subset least _ children hmem)
        · exact hin (held_subset least _ children hmem)
      rw [or_iff_right (hnot 0), or_iff_right (hnot 1)]
      rcases hx with hx | hx
      · rcases List.mem_append.mp hx with hx | hx
        · split_ifs at hx
          · exact absurd (List.mem_of_mem_filter hx) hin
          · cases hx
        · exact absurd (visited_subset children hx) hin
      · exact ihNext hnext hx

/-- The visited strings that are to be kept. -/
def kept (textOf : σ → Text) (forest : Forest σ) : List σ :=
  (forest.visited textOf).filter (· ∈ forest.held textOf 1 0)

theorem kept_of_held_nil {forest : Forest σ} (h : forest.held textOf 1 0 = []) :
    kept textOf forest = [] := by
  rw [kept, h]
  exact List.filter_eq_nil_iff.mpr fun x _ => by simp

/-- Nothing is left out, and nothing comes twice exactly where no string lies in two elements. -/
theorem kept_eq_iff {forest : Forest σ} (hnodup : forest.strings.Nodup) :
    (forest.held textOf 1 0).length ≤ (kept textOf forest).length ∧
      (kept textOf forest = forest.held textOf 1 0 ↔ forest.held textOf 2 0 = []) := by
  induction forest with
  | nil => exact ⟨Nat.le_refl 0, iff_of_true rfl rfl⟩
  | string s next ih =>
    rw [strings, List.nodup_cons] at hnodup
    exact ih hnodup.2
  | element name children next ihChildren ihNext =>
    rw [strings, List.nodup_append] at hnodup
    obtain ⟨hchildren, hnext, hdisjoint⟩ := hnodup
    obtain ⟨hchildrenLe, hchildrenIff⟩ := ihChildren hchildren
    obtain ⟨hnextLe, hnextIff⟩ := ihNext hnext
    have hapart : ∀ x ∈ children.strings, x ∉ next.held textOf 1 0 := fun x hx hmem =>
      hdisjoint x hx x (held_subset 1 0 next hmem) rfl
    have hapart' : ∀ x ∈ next.visited textOf, ∀ least holders,
        x ∉ children.held textOf least holders := fun x hx least holders hmem =>
      hdisjoint x (held_subset least holders children hmem) x (visited_subset next hx) rfl
    by_cases hbody : name ∈ bodyNames
    · -- The strings of the element come first, those of the elements in it once more.
      have hheading : ¬(headingNames.lookup name).isSome = true := by
        rw [headingNames_lookup_of_mem hbody]
        exact Bool.false_ne_true
      have hone : (element name children next).held textOf 1 0 =
          children.held textOf 0 0 ++ next.held textOf 1 0 := by
        rw [held, if_neg hheading, if_pos hbody, held_succ]
      have htwo : (element name children next).held textOf 2 0 =
          children.held textOf 1 0 ++ next.held textOf 2 0 := by
        rw [held, if_neg hheading, if_pos hbody, held_succ]
      have hagain : (children.visited textOf).filter (· ∈ children.held textOf 0 0) =
          kept textOf children :=
        List.filter_congr fun x hx => by simp [held_of_visited hchildren hx]
      have hkept : kept textOf (element name children next) =
          children.held textOf 0 0 ++ (kept textOf children ++ kept textOf next) := by
        rw [kept, hone, visited, if_pos hbody, filter_mem_append, List.filter_append,
          filter_strippedStrings hchildren, hagain, List.append_assoc]
        · rfl
        · intro x hx
          rcases List.mem_append.mp hx with hx | hx
          · exact hapart x (List.mem_of_mem_filter hx)
          · exact hapart x (visited_subset children hx)
        · exact fun x hx => hapart' x hx 0 0
      rw [hone, htwo, hkept, List.append_cancel_left_eq, List.append_eq_nil_iff, ← hnextIff]
      simp only [List.length_append]
      refine ⟨by omega, ?_⟩
      constructor
      · intro hsame
        have hlength := congrArg List.length hsame
        rw [List.length_append] at hlength
        have hnone : kept textOf children = [] := List.length_eq_zero_iff.mp (by omega)
        have hheld : children.held textOf 1 0 = [] := List.length_eq_zero_iff.mp (by
          rw [hnone, List.length_nil] at hchildrenLe
          omega)
        rw [hnone, List.nil_append] at hsame
        exact ⟨hheld, hsame⟩
      · rintro ⟨hheld, hsame⟩
        rw [kept_of_held_nil hheld, List.nil_append, hsame]
    · have hvisited : (element name children next).visited textOf =
          children.visited textOf ++ next.visited textOf := by
        rw [visited, if_neg hbody, List.nil_append]
      by_cases hheading : (headingNames.lookup name).isSome = true
      · have hheld : ∀ least, (element name children next).held textOf least 0 =
            next.held textOf least 0 := by
          intro least
          rw [held, if_pos hheading, List.nil_append]
        have hnone : (children.visited textOf).filter (· ∈ next.held textOf 1 0) = [] :=
          List.filter_eq_nil_iff.mpr fun x hx => by simp [hapart x (visited_subset children hx)]
        have hkept : kept textOf (element name children next) = kept textOf next := by
          rw [kept, hheld, hvisited, List.filter_append, hnone]
          rfl
        rw [hheld, hheld, hkept]
        exact ⟨hnextLe, hnextIff⟩
      · have hheld : ∀ least, (element name children next).held textOf least 0 =
            children.held textOf least 0 ++ next.held textOf least 0 := by
          intro least
          rw [held, if_neg hheading, if_neg hbody]
        have hkept : kept textOf (element name children next) =
            kept textOf children ++ kept textOf next := by
          rw [kept, hheld, hvisited, filter_mem_append]
          · rfl
          · exact fun x hx => hapart x (visited_subset children hx)
          · exact fun x hx => hapart' x hx 1 0
        rw [hheld, hheld, hkept, List.append_eq_nil_iff, ← hchildrenIff, ← hnextIff]
        simp only [List.length_append]
        refine ⟨by omega, ?_⟩
        constructor
        · intro hsame
          have hlength := congrArg List.length hsame
          rw [List.length_append, List.length_append] at hlength
          exact List.append_inj hsame (by omega)
        · rintro ⟨hfirst, hsecond⟩
          rw [hfirst, hsecond]

end

/-! The places of strings. -/

namespace Forest

theorem strings_numbered (root : Forest Text) (n : ℕ) :
    (root.numbered n).strings = (root.strings.zipIdx n).map fun (s, i) => Line.mk i s := by
  induction root generalizing n with
  | nil => rfl
  | string s next ih => rw [numbered, strings, strings, List.zipIdx_cons, ih]; rfl
  | element name children next ihChildren ihNext =>
    rw [numbered, strings, strings, ihChildren, ihNext, List.zipIdx_append, List.map_append]

theorem nodup_numbered (root : Forest Text) (n : ℕ) : (root.numbered n).strings.Nodup := by
  have hnumbers : ((root.numbered n).strings.map Line.number) =
      List.range' n root.strings.length := by
    rw [strings_numbered, List.map_map]
    exact List.zipIdx_map_snd n root.strings
  have hnodup : ((root.numbered n).strings.map Line.number).Nodup := by
    rw [hnumbers]
    exact List.nodup_range'
  exact hnodup.of_map

/-- The places do not change which strings are meant. -/
theorem held_numbered (root : Forest Text) (n least holders : ℕ) :
    ((root.numbered n).held Line.text least holders).map Line.text =
      root.held id least holders := by
  induction root generalizing n holders with
  | nil => rfl
  | string s next ih =>
    rw [numbered, held, held, List.map_append, ih]
    congr 1
    simp only [id]
    split_ifs <;> rfl
  | element name children next ihChildren ihNext =>
    rw [numbered, held, held, List.map_append, ihNext]
    congr 1
    split_ifs
    · rfl
    · exact ihChildren n (holders + 1)
    · exact ihChildren n holders

theorem strippedStrings_numbered (root : Forest Text) (n : ℕ) :
    ((root.numbered n).strippedStrings Line.text).map Line.text = root.strippedStrings id := by
  have htexts : ((root.numbered n).strings).map Line.text = root.strings := by
    rw [strings_numbered, List.map_map]
    exact List.zipIdx_map_fst n root.strings
  rw [strippedStrings, strippedStrings, ← htexts, List.filter_map]
  rfl

end Forest

/-- Nor do they change what the parser reads. -/
theorem htmlBlocks_numbered (root : Forest Text) (n : ℕ) :
    (htmlBlocks Line.text (root.numbered n)).map (Block.map (List.map Line.text)) =
      htmlBlocks id root := by
  induction root generalizing n with
  | nil => rfl
  | string s next ih => exact ih (n + 1)
  | element name children next ihChildren ihNext =>
    rw [numbered, htmlBlocks, htmlBlocks, List.map_append, List.map_append, ihChildren, ihNext,
      ← strippedStrings_numbered children n]
    congr 2
    generalize (children.numbered n).strippedStrings Line.text = texts
    rw [htmlBlock, htmlBlock, List.isEmpty_map]
    by_cases hempty : texts.isEmpty = true
    · rw [if_pos hempty, if_pos hempty]
      rfl
    · rw [if_neg hempty, if_neg hempty]
      cases headingNames.lookup name with
      | some level => rfl
      | none =>
        dsimp only
        split_ifs <;> rfl

/-- The sections are those of the numbered tree, without the numbers. -/
theorem sectionsOf_numbered (root : Forest Text) :
    sectionsOf introduction ((htmlBlocks id root).map (Block.map (joinStrings id))) =
      (sectionsOf [introductionLine] (htmlBlocks Line.text (root.numbered 1))).map
        (SectionAccumulator.map (joinStrings Line.text)) := by
  have hjoin : joinStrings Line.text = joinStrings id ∘ List.map Line.text := by
    funext texts
    rw [joinStrings, Function.comp_apply, joinStrings, List.map_map]
    rfl
  have hintroduction : joinStrings Line.text [introductionLine] = introduction := by decide
  have hblocks : (htmlBlocks id root).map (Block.map (joinStrings id)) =
      (htmlBlocks Line.text (root.numbered 1)).map (Block.map (joinStrings Line.text)) := by
    rw [← htmlBlocks_numbered root 1, List.map_map, hjoin]
    refine List.map_congr_left fun block _ => ?_
    cases block <;> rfl
  rw [hblocks, ← hintroduction, sectionsOf_map]

theorem keepsStrings_iff (root : Forest Text) : KeepsStrings root ↔ HeldOnce root := by
  have hkept := (@kept_eq_iff Line Line.text _ _ (root.nodup_numbered 1)).2
  rw [KeepsStrings, HeldOnce, ← held_numbered root 1, List.map_eq_nil_iff, ← hkept, kept,
    sectionStrings_eq]

/-- Markdown keeps each body line once; HTML keeps each string in a `p` or `li` element once exactly
where none lies in two of them. -/
theorem body_text_kept_iff (content : Text) (sourceUri sourceContentSha256 : String)
    (root : Forest Text) :
    KeepsLines content sourceUri sourceContentSha256 ∧ (KeepsStrings root ↔ HeldOnce root) :=
  ⟨parseMarkdown_keeps content sourceUri sourceContentSha256, keepsStrings_iff root⟩

/-- A paragraph in a list item. -/
def itemParagraph : Forest Text :=
  .element "ul" (.element "li" (.element "p" (.string "text".toList .nil) .nil) .nil) .nil

/-- Its text comes twice. -/
theorem itemParagraph_twice : ¬KeepsStrings itemParagraph ∧
    sectionStrings id [introduction] itemParagraph = ["text".toList, "text".toList] := by
  constructor
  · intro hkeeps
    have hlength := congrArg List.length hkeeps
    exact absurd hlength (by decide)
  · decide

end CSO.KnowledgeRag
