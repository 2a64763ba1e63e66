import CSO.JS.JsonTree
import CSO.KnowledgeRag.Chunking
import CSO.Python.Strings
import Mathlib.Data.List.Infix
import Mathlib.Data.List.Nodup

/-! What of a section its chunks hold, and in which order. -/
namespace CSO.KnowledgeRag

variable {τ : Type} {encoding : Encoding τ} {config : ChunkingConfig} {α : Type}

/-! The loop, by what it emits from a running content on. -/

def emitted (encoding : Encoding τ) (config : ChunkingConfig) (current : Text) :
    List Text → List Text
  | [] => if current = [] then [] else [current]
  | unit :: units =>
    (if Full encoding config current unit then [current] else []) ++
      emitted encoding config (nextContent encoding config current unit) units

/-- The running contents, one after each unit. -/
def running (encoding : Encoding τ) (config : ChunkingConfig) (current : Text) :
    List Text → List Text
  | [] => []
  | unit :: units =>
    nextContent encoding config current unit ::
      running encoding config (nextContent encoding config current unit) units

theorem foldl_pass (s : ChunkLoop) (units : List Text) :
    let t := units.foldl (pass encoding config) s
    (if t.currentContent ≠ [] then t.chunkContents ++ [t.currentContent] else t.chunkContents) =
      s.chunkContents ++ emitted encoding config s.currentContent units := by
  induction units generalizing s with
  | nil =>
    show (if s.currentContent ≠ [] then s.chunkContents ++ [s.currentContent] else s.chunkContents) =
      s.chunkContents ++ if s.currentContent = [] then [] else [s.currentContent]
    by_cases hempty : s.currentContent = []
    · rw [if_neg (not_not_intro hempty), if_pos hempty, List.append_nil]
    · rw [if_pos hempty, if_neg hempty]
  | cons unit units ih =>
    refine (ih (pass encoding config s unit)).trans ?_
    rw [emitted, pass]
    split_ifs
    · rw [List.append_assoc]
    · rfl

theorem chunkContents_eq (units : List Text) :
    chunkContents encoding config units = emitted encoding config [] units :=
  foldl_pass ⟨[], []⟩ units

/-! Every running content goes into a chunk. -/

theorem infix_joinText_left (left right : Text) : left <:+: joinText left right := by
  rw [joinText]
  split_ifs with hempty
  · rw [hempty]
    exact List.nil_infix
  · exact (List.prefix_append left (' ' :: right)).isInfix

theorem infix_joinText_right (left right : Text) : right <:+: joinText left right := by
  rw [joinText]
  split_ifs
  · exact List.infix_refl right
  · exact ((List.suffix_cons ' ' right).trans (List.suffix_append left _)).isInfix

theorem infix_nextContent_unit (current unit : Text) :
    unit <:+: nextContent encoding config current unit := by
  rw [nextContent, candidate]
  split_ifs
  · exact infix_joinText_right _ unit
  · exact infix_joinText_right _ unit

/-- What is not emitted stays in the running content. The overlap gives way only where the content
has been emitted, or where there is none. -/
theorem infix_nextContent_current {current unit : Text}
    (h : ¬Full encoding config current unit) :
    current <:+: nextContent encoding config current unit := by
  rw [nextContent, carried, if_neg h, candidate]
  split_ifs with hlong
  · have hempty : current = [] := by
      by_contra hne
      exact h ⟨hne, hlong⟩
    rw [hempty]
    exact List.nil_infix
  · exact infix_joinText_left current unit

/-- Items one after another in the chunks, each as a whole in one of them. -/
inductive Placed : List Text → List Text → Prop
  | none (chunks) : Placed [] chunks
  | later {items chunk chunks} : Placed items chunks → Placed items (chunk :: chunks)
  | here {item items chunk chunks} : item <:+: chunk → Placed items (chunk :: chunks) →
      Placed (item :: items) (chunk :: chunks)

theorem placed_blank {items : List Text} (h : ∀ item ∈ items, item = []) (chunk : Text)
    (chunks : List Text) : Placed items (chunk :: chunks) := by
  induction items with
  | nil => exact .none _
  | cons item items ih =>
    refine .here ?_ (ih fun x hx => h x (List.mem_cons_of_mem item hx))
    rw [h item List.mem_cons_self]
    exact List.nil_infix

/-- What lies within the items is placed where they are. -/
theorem Placed.mono {parts items chunks : List Text} (h : Placed items chunks)
    (hparts : List.Forall₂ (· <:+: ·) parts items) : Placed parts chunks := by
  induction h generalizing parts with
  | none =>
    cases hparts
    exact .none _
  | later _ ih => exact .later (ih hparts)
  | here hitem _ ih =>
    cases hparts with
    | cons hpart hmore => exact .here (hpart.trans hitem) (ih hmore)

/-- The first of the chunks holds the running content; without chunks there is none. -/
theorem emitted_spec (current : Text) (units : List Text) :
    (emitted encoding config current units = [] ∧ current = [] ∧
        ∀ content ∈ running encoding config current units, content = []) ∨
      ∃ chunk chunks, emitted encoding config current units = chunk :: chunks ∧
        current <:+: chunk ∧ Placed (running encoding config current units) (chunk :: chunks) := by
  induction units generalizing current with
  | nil =>
    by_cases hempty : current = []
    · exact .inl ⟨if_pos hempty, hempty, nofun⟩
    · exact .inr ⟨current, [], if_neg hempty, List.infix_refl current, .none _⟩
  | cons unit units ih =>
    have hrest := ih (nextContent encoding config current unit)
    rw [emitted, running]
    by_cases hfull : Full encoding config current unit
    · rw [if_pos hfull]
      rcases hrest with ⟨hnone, hnext, hblank⟩ | ⟨chunk, chunks, hsome, hnext, hplaced⟩
      · refine .inr ⟨current, [], by rw [hnone]; rfl, List.infix_refl current, ?_⟩
        refine placed_blank (fun content hcontent => ?_) current []
        rcases List.mem_cons.mp hcontent with rfl | hcontent
        · exact hnext
        · exact hblank content hcontent
      · exact .inr ⟨current, chunk :: chunks, by rw [hsome]; rfl, List.infix_refl current,
          .later (.here hnext hplaced)⟩
    · rw [if_neg hfull, List.nil_append]
      have hcurrent : current <:+: nextContent encoding config current unit :=
        infix_nextContent_current hfull
      rcases hrest with ⟨hnone, hnext, hblank⟩ | ⟨chunk, chunks, hsome, hnext, hplaced⟩
      · rw [hnext] at hcurrent
        refine .inl ⟨hnone, List.infix_nil.mp hcurrent, fun content hcontent => ?_⟩
        rcases List.mem_cons.mp hcontent with rfl | hcontent
        · exact hnext
        · exact hblank content hcontent
      · exact .inr ⟨chunk, chunks, hsome, hcurrent.trans hnext, .here hnext hplaced⟩

/-- Each unit lies in the running content of its pass. -/
theorem units_running (current : Text) (units : List Text) :
    List.Forall₂ (· <:+: ·) units (running encoding config current units) := by
  induction units generalizing current with
  | nil => exact .nil
  | cons unit units ih => exact .cons (infix_nextContent_unit current unit) (ih _)

theorem blank_of_infix {parts items : List Text} (h : List.Forall₂ (· <:+: ·) parts items)
    (hitems : ∀ item ∈ items, item = []) : ∀ part ∈ parts, part = [] := by
  induction h with
  | nil => exact nofun
  | @cons part item parts items hpart _ ih =>
    intro x hx
    rcases List.mem_cons.mp hx with rfl | hx
    · rw [hitems item List.mem_cons_self] at hpart
      exact List.infix_nil.mp hpart
    · exact ih (fun y hy => hitems y (List.mem_cons_of_mem item hy)) x hx

/-- All that the loop builds is placed in the chunks, or there is nothing but blanks. -/
theorem chunkContents_placed (units : List Text) :
    (chunkContents encoding config units = [] ∧
        ∀ content ∈ running encoding config [] units, content = []) ∨
      Placed (running encoding config [] units) (chunkContents encoding config units) := by
  rw [chunkContents_eq]
  rcases emitted_spec [] units with ⟨hnone, -, hblank⟩ | ⟨chunk, chunks, hsome, -, hplaced⟩
  · exact .inl ⟨hnone, hblank⟩
  · rw [hsome]
    exact .inr hplaced

/-! The ids of the chunks. -/

theorem ordinalText_hyphen (n : ℕ) : '-' ∉ (ordinalText n).toList := by
  intro hmem
  rw [ordinalText, String.toList_ofList] at hmem
  rcases List.mem_append.mp hmem with hzero | hdigit
  · exact absurd (List.eq_of_mem_replicate hzero) (by decide)
  · exact absurd (Nat.isDigit_of_mem_toDigits (by decide) (by decide) hdigit) (by decide)

/-- The padding leaves the number as it is. -/
theorem ordinalText_injective : Function.Injective ordinalText := by
  intro n m h
  have hdigits : ∀ k, Nat.ofDigitChars 10 (ordinalText k).toList 0 = k := by
    intro k
    rw [ordinalText, String.toList_ofList, Nat.ofDigitChars_append, Nat.ofDigitChars_replicate_zero,
      Nat.mul_zero, Nat.ofDigitChars_ten_toDigits]
  rw [← hdigits n, h, hdigits m]

def chunkIdOf (sectionId : String) (chunkOrdinal : ℕ) : String :=
  sectionId ++ "-chunk-" ++ ordinalText chunkOrdinal

/-- The last hyphen of a chunk id stands before its ordinal. -/
theorem chunkIdOf_inj {sectionId sectionId' : String} {n m : ℕ}
    (h : chunkIdOf sectionId n = chunkIdOf sectionId' m) : sectionId = sectionId' ∧ n = m := by
  have hlist : ∀ (s : String) (k : ℕ), (chunkIdOf s k).toList =
      (s.toList ++ "-chunk".toList) ++ '-' :: (ordinalText k).toList := by
    intro s k
    have hmiddle : "-chunk-".toList = "-chunk".toList ++ ['-'] := by decide
    rw [chunkIdOf, String.toList_append, String.toList_append, hmiddle, ← List.append_assoc,
      List.append_assoc, List.singleton_append]
  have hlists := congrArg String.toList h
  rw [hlist, hlist] at hlists
  generalize "-chunk".toList = middle at hlists
  have hparts := Python.append_last_inj (ordinalText_hyphen n) (ordinalText_hyphen m) hlists
  have hsection : sectionId.toList = sectionId'.toList := List.append_cancel_right hparts.1
  exact ⟨String.toList_injective hsection,
    ordinalText_injective (String.toList_injective hparts.2)⟩

/-! The drafts. -/

variable {document : NormalizedDocument} {part : NormalizedSection}

theorem toChunkDraft_eq_some {content : Text} {n : ℕ} {draft : CountedChunkDraft}
    (h : toChunkDraft encoding config document part content n = some draft) :
    draft.chunkId = chunkIdOf part.sectionId n ∧ draft.parentSectionId = part.sectionId ∧
      draft.content.toList = content ∧ draft.tokenCount = tokenCount encoding content := by
  simp only [toChunkDraft] at h
  split_ifs at h
  cases h
  exact ⟨rfl, rfl, String.toList_ofList, rfl⟩

/-- A section's drafts have the contents of the loop, and ids of their own. -/
theorem chunkSection_drafts {drafts : List CountedChunkDraft}
    (h : chunkSection encoding config document part = some drafts) :
    drafts.map (fun draft => draft.content.toList) =
        chunkContents encoding config (units encoding config part.text.toList) ∧
      (drafts.map fun draft => draft.chunkId).Nodup ∧
      ∀ draft ∈ drafts, (∃ n, draft.chunkId = chunkIdOf part.sectionId n) ∧
        draft.tokenCount = tokenCount encoding draft.content.toList := by
  have hdrafts := JS.JsonTree.mapM_eq_some.mp h
  have hlater : ∀ (contents : List Text) (drafts : List CountedChunkDraft) (n : ℕ),
      List.Forall₂ (fun item value => toChunkDraft encoding config document part item.1 item.2 =
        some value) (contents.zipIdx n) drafts →
      drafts.map (fun draft => draft.content.toList) = contents ∧
        (drafts.map fun draft => draft.chunkId).Nodup ∧
        ∀ draft ∈ drafts, (∃ k ≥ n, draft.chunkId = chunkIdOf part.sectionId k) ∧
          draft.tokenCount = tokenCount encoding draft.content.toList := by
    intro contents
    induction contents with
    | nil =>
      intro drafts n hall
      cases hall
      exact ⟨rfl, List.nodup_nil, nofun⟩
    | cons content contents ih =>
      intro drafts n hall
      rw [List.zipIdx_cons] at hall
      cases hall with
      | cons hdraft hrest =>
        obtain ⟨hid, -, hcontent, hcount⟩ := toChunkDraft_eq_some hdraft
        obtain ⟨hcontents, hnodup, hids⟩ := ih _ _ hrest
        refine ⟨by rw [List.map_cons, hcontent, hcontents], ?_, ?_⟩
        · rw [List.map_cons, List.nodup_cons]
          refine ⟨fun hmem => ?_, hnodup⟩
          obtain ⟨other, hother, heq⟩ := List.mem_map.mp hmem
          obtain ⟨⟨k, hk, hkid⟩, -⟩ := hids other hother
          have hsame := (chunkIdOf_inj (hkid.symm.trans (heq.trans hid))).2
          omega
        · intro draft hmem
          rcases List.mem_cons.mp hmem with rfl | hmem
          · exact ⟨⟨n, le_rfl, hid⟩, by rw [hcount, hcontent]⟩
          · obtain ⟨⟨k, hk, hkid⟩, hcount⟩ := hids draft hmem
            exact ⟨⟨k, by omega, hkid⟩, hcount⟩
  obtain ⟨hcontents, hnodup, hids⟩ := hlater _ drafts 1 hdrafts
  exact ⟨hcontents, hnodup, fun draft hdraft =>
    ⟨(hids draft hdraft).1.imp fun k hk => hk.2, (hids draft hdraft).2⟩⟩

/-- Sections of different ids have chunks of different ids. -/
theorem chunkIds_nodup {parts : List NormalizedSection} {lists : List (List CountedChunkDraft)}
    (hlists : List.Forall₂ (fun part drafts => chunkSection encoding config document part =
      some drafts) parts lists)
    (hids : (parts.map NormalizedSection.sectionId).Nodup) :
    (lists.flatten.map fun draft => draft.chunkId).Nodup ∧
      ∀ draft ∈ lists.flatten, ∃ part ∈ parts, ∃ n, draft.chunkId = chunkIdOf part.sectionId n := by
  induction hlists with
  | nil => exact ⟨List.nodup_nil, nofun⟩
  | @cons part drafts parts lists hpart _ ih =>
    obtain ⟨-, hown, hownIds⟩ := chunkSection_drafts hpart
    rw [List.map_cons, List.nodup_cons] at hids
    obtain ⟨hnodup, hothers⟩ := ih hids.2
    constructor
    · rw [List.flatten_cons, List.map_append]
      refine List.Nodup.append hown hnodup fun id hid hid' => hids.1 ?_
      obtain ⟨draft, hdraft, rfl⟩ := List.mem_map.mp hid
      obtain ⟨other, hother, heq⟩ := List.mem_map.mp hid'
      obtain ⟨⟨n, hn⟩, -⟩ := hownIds draft hdraft
      obtain ⟨otherPart, hotherPart, m, hm⟩ := hothers other hother
      have hsame := (chunkIdOf_inj (hn.symm.trans (heq.symm.trans hm))).1
      rw [hsame]
      exact List.mem_map_of_mem hotherPart
    · intro draft hdraft
      rw [List.flatten_cons] at hdraft
      rcases List.mem_append.mp hdraft with hdraft | hdraft
      · exact ⟨part, List.mem_cons_self, (hownIds draft hdraft).1⟩
      · obtain ⟨other, hother, hn⟩ := hothers draft hdraft
        exact ⟨other, List.mem_cons_of_mem part hother, hn⟩

/-- A section's chunks hold its units and all that the loop builds from them, in order; a section
without chunks has built nothing but blanks. -/
def Covers (encoding : Encoding τ) (config : ChunkingConfig) (part : NormalizedSection)
    (drafts : List CountedChunkDraft) : Prop :=
  let parts := units encoding config part.text.toList
  (drafts = [] ∧ (∀ unit ∈ parts, unit = []) ∧ ∀ content ∈ running encoding config [] parts,
      content = []) ∨
    Placed parts (drafts.map fun draft => draft.content.toList) ∧
      Placed (running encoding config [] parts) (drafts.map fun draft => draft.content.toList)

theorem chunkSection_covers {drafts : List CountedChunkDraft}
    (h : chunkSection encoding config document part = some drafts) :
    Covers encoding config part drafts := by
  have hcontents := (chunkSection_drafts h).1
  have hunits : List.Forall₂ (· <:+: ·) (units encoding config part.text.toList) _ :=
    @units_running τ encoding config [] _
  rw [Covers, hcontents]
  rcases @chunkContents_placed τ encoding config
    (units encoding config part.text.toList) with ⟨hnone, hblank⟩ | hplaced
  · left
    rw [hnone] at hcontents
    exact ⟨List.map_eq_nil_iff.mp hcontents, blank_of_infix hunits hblank, hblank⟩
  · exact .inr ⟨hplaced.mono hunits, hplaced⟩

/-- The chunks of a document cover its sections one after another, under ids of their own. -/
theorem chunkDocument_covers (document : NormalizedDocument) (drafts : List CountedChunkDraft)
    (hids : (document.sections.map NormalizedSection.sectionId).Nodup)
    (h : chunkDocument encoding config document = some drafts) :
    (drafts.map fun draft => draft.chunkId).Nodup ∧
      ∃ lists, drafts = lists.flatten ∧ List.Forall₂ (fun part drafts =>
        chunkSection encoding config document part = some drafts ∧
          Covers encoding config part drafts) document.sections lists := by
  rw [chunkDocument] at h
  obtain ⟨lists, hlists, rfl⟩ := Option.map_eq_some_iff.mp h
  have hsections := JS.JsonTree.mapM_eq_some.mp hlists
  exact ⟨(chunkIds_nodup hsections hids).1, lists, rfl,
    hsections.imp fun part drafts hpart => ⟨hpart, chunkSection_covers hpart⟩⟩

/-- A tokenizer of one token a character. -/
def characters : Encoding Char := ⟨id, id⟩

/-- A tokenizer that reads nothing back. -/
def forgetful : Encoding Char := ⟨id, fun _ => []⟩

theorem budget_strategy : "v1" ≠ "" := by decide

def smallBudget : ChunkingConfig := ⟨4, 1, "v1", by decide, budget_strategy⟩

def tightBudget : ChunkingConfig := ⟨1, 0, "v1", by decide, budget_strategy⟩

def plainSection (text : String) : NormalizedSection :=
  ⟨"guide-section-001", ["Guide", "Introduction"], text, none, none⟩

def plainDocument (text : String) : NormalizedDocument where
  title := "Guide"
  sourceUri := "file:guide.md"
  sourceContentType := "text/markdown"
  sourceContentSha256 := JS.Sha256.hex text
  parserVersion := "v1"
  sections := [plainSection text]

theorem plainDocument_covers : ∃ drafts, chunkDocument characters smallBudget
    (plainDocument "Hi. Ho.") = some drafts ∧ drafts.length = 2 ∧
      (drafts.map fun draft => draft.chunkId).Nodup := by
  have hsome : ((chunkDocument characters smallBudget (plainDocument "Hi. Ho.")).map
      List.length) = some 2 := by decide +kernel
  obtain ⟨drafts, hdrafts, hlength⟩ := Option.map_eq_some_iff.mp hsome
  exact ⟨drafts, hdrafts, hlength, (chunkDocument_covers _ drafts (by decide) hdrafts).1⟩

/-- A section whose units are read back as nothing has units and no chunk for them. -/
theorem forgetful_units : ∃ unit ∈ units forgetful tightBudget "ab".toList,
    ∀ drafts, chunkSection forgetful tightBudget (plainDocument "ab") (plainSection "ab") =
      some drafts → ¬∃ draft ∈ drafts, unit <:+: draft.content.toList := by
  refine ⟨[], by decide +kernel, fun drafts hdrafts => ?_⟩
  have hnone : chunkSection forgetful tightBudget (plainDocument "ab") (plainSection "ab") =
      some [] := by decide +kernel
  rw [hnone] at hdrafts
  cases hdrafts
  exact fun ⟨draft, hdraft, _⟩ => absurd hdraft (by simp)

end CSO.KnowledgeRag
