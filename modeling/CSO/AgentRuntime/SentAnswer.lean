import CSO.AgentRuntime.GuardedText

/-! The identifier guard, and the text that the application writes into an answer after it. -/
namespace CSO.AgentRuntime
open Python (Regex Unicode Cursor fold isSpace)
open Python.Regex

/-! A word that is added to a text. -/

/-- A word that can be the value of a mention and nothing else of it. -/
structure Addition (word : List Char) : Prop where
  bare : bare word = true
  value : ∀ c ∈ word, isValue c = true
  vocabulary : ∀ w ∈ vocabulary, stripText w word = none
  letter : ∃ c ∈ word, c.toNat < 0x80 ∧ c.isDigit = false
  head : ∀ c ∈ word.head?, isSpace c = false ∧ fold c ∉ marks ++ quotes

/-- The word stands alone at the end. -/
def BeforeWord (word text : List Char) : Prop :=
  ∃ lead, text = lead ++ word ∧ ∀ c ∈ lead.getLast?, isSpace c = true

variable {u : Unicode} {orderContext : OrderContext} {word : List Char}

theorem last_of_append {lead used rest : List Char} (h : lead = used ++ rest)
    (hlead : ∀ c ∈ lead.getLast?, isSpace c = true) : ∀ c ∈ rest.getLast?, isSpace c = true := by
  intro c hc
  refine hlead c ?_
  rw [h, List.getLast?_append, Option.mem_def.mp hc]
  rfl

theorem BeforeWord.append {used rest : List Char} (h : BeforeWord word (used ++ rest))
    (hused : ∀ c ∈ used, isSpace c = false) : BeforeWord word rest ∨ used ++ rest = word := by
  obtain ⟨lead, htext, hlead⟩ := h
  rcases List.append_eq_append_iff.mp htext with ⟨more, hmore, hrest⟩ | ⟨more, hmore, hword⟩
  · exact .inl ⟨more, hrest, last_of_append hmore hlead⟩
  · refine .inr ?_
    cases hlast : lead.getLast? with
    | none => rw [htext, List.getLast?_eq_none_iff.mp hlast, List.nil_append]
    | some c =>
      have hmem : c ∈ used := by
        rw [hmore]
        exact List.mem_append_left more (List.mem_of_getLast? hlast)
      have hspace := hlead c hlast
      rw [hused c hmem] at hspace
      cases hspace

theorem Addition.ne_nil (hword : Addition word) : word ≠ [] := by
  obtain ⟨c, hc, -⟩ := hword.letter
  exact List.ne_nil_of_mem hc

theorem not_isSpace_of_mark {c : Char} (h : fold c ∈ marks ++ quotes) : isSpace c = false :=
  Bool.eq_false_iff.mpr fun hspace => not_mem_of_isSpace hspace (by decide) h

theorem not_isSpace_of_value {c : Char} (h : isValue c = true) : isSpace c = false := by
  refine Bool.eq_false_iff.mpr fun hspace => ?_
  rw [not_isValue hspace] at h
  cases h

theorem not_isSpace_of_letter {c : Char} (h : (fold c).isLower = true) : isSpace c = false := by
  refine Bool.eq_false_iff.mpr fun hspace => ?_
  have halnum := isAlnum_space hspace
  rw [isAlnum, h] at halnum
  cases halnum

theorem BeforeWord.spaces (hword : Addition word) {text : List Char} (h : BeforeWord word text) :
    BeforeWord word (text.dropWhile isSpace) := by
  obtain ⟨lead, rfl, hlead⟩ := h
  rw [List.dropWhile_append]
  split_ifs
  · refine ⟨[], ?_, fun _ hc => nomatch hc⟩
    obtain ⟨c, rest, hcons⟩ := List.exists_cons_of_ne_nil hword.ne_nil
    have hhead := (hword.head c (by rw [hcons]; rfl)).1
    rw [hcons, List.dropWhile_cons, hhead]
    rfl
  · exact ⟨_, rfl, last_of_append (lead.takeWhile_append_dropWhile (p := isSpace)).symm hlead⟩

theorem tails_addition (hword : Addition word) {tail : List Char} (h : Breaks tail) :
    Tails (BeforeWord word) tail [] where
  breaks := h
  breaks' := fun _ hc => nomatch hc
  empty := by
    rintro ⟨lead, hnil, -⟩
    exact absurd (List.append_eq_nil_iff.mp hnil.symm).2 hword.ne_nil
  spaces := by
    intro text htext
    have hrest := htext.spaces hword
    refine ⟨hrest, fun hnil => ?_⟩
    obtain ⟨lead, hlead, -⟩ := hrest
    rw [hnil] at hlead
    exact absurd (List.append_eq_nil_iff.mp hlead.symm).2 hword.ne_nil
  mark := by
    intro c text htext hmark
    have hused : ∀ d ∈ [c], isSpace d = false := fun d hd =>
      List.mem_singleton.mp hd ▸ not_isSpace_of_mark hmark
    rcases BeforeWord.append htext hused with hrest | hwhole
    · exact hrest
    · exact absurd hmark (hword.head c (hwhole ▸ rfl)).2
  word := by
    intro w text rest htext hw hstrip
    have hused := stripText_consumed hstrip
    obtain ⟨used, rfl, rfl⟩ := hused
    have hletters : ∀ c ∈ used, isSpace c = false := fun c hc =>
      not_isSpace_of_letter (vocabulary_lower _ hw (fold c) (List.mem_map_of_mem hc))
    rcases htext.append hletters with hrest | hwhole
    · exact hrest
    · rw [hwhole, hword.vocabulary _ hw] at hstrip
      cases hstrip
  value := by
    intro text htext
    have hparts := text.takeWhile_append_dropWhile (p := isValue)
    rw [← hparts] at htext
    have hused : ∀ c ∈ text.takeWhile isValue, isSpace c = false := fun c hc =>
      not_isSpace_of_value (List.mem_takeWhile_imp hc)
    rcases htext.append hused with hrest | hwhole
    · exact .inl hrest
    · rw [hparts] at hwhole
      have htake : text.takeWhile isValue = text :=
        List.takeWhile_eq_self_iff.mpr fun c hc => hword.value c (hwhole ▸ hc)
      have hdrop : text.dropWhile isValue = [] :=
        List.dropWhile_eq_nil_iff.mpr fun c hc => hword.value c (hwhole ▸ hc)
      rw [htake, hdrop, hwhole]
      exact .inr ⟨rfl, hword.letter⟩

/-- What is added after a word is read apart from the word and the text before. -/
theorem clean_addition (hword : Addition word) {tail : List Char} (h : Breaks tail)
    (before : Option Char) {text : List Char} (htext : BeforeWord word text) :
    clean u orderContext before (text ++ tail) =
      (clean u orderContext before text && clean u orderContext none tail) := by
  refine clean_append (tails_addition hword h) (fun {c rest} hrest => ?_) before htext
  obtain ⟨lead, hlead, hlast⟩ := hrest
  cases lead with
  | cons x lead =>
    obtain ⟨-, hrest⟩ := List.cons.inj hlead
    have hlead' : x :: lead = [x] ++ lead := rfl
    exact .inl ⟨lead, hrest, last_of_append hlead' hlast⟩
  | nil =>
    have hwhole : c :: rest = word := hlead
    have hbare := hword.bare
    rw [← hwhole, bare, Bool.and_eq_true] at hbare
    have hrest (tail : List Char) : clean u orderContext (some c) (rest ++ tail) =
        clean u orderContext (rest.getLast?.or (some c)) tail := clean_bare hbare.2 _ _
    have halone := hrest []
    rw [List.append_nil, clean_nil] at halone
    rw [hrest tail, halone, clean_breaks h]
    exact .inr (.inr rfl)

/-! Where the text is cut. -/

/-- White space after the end of a sentence. -/
def SentenceCut (before : Option Char) (sep _rest : List Char) : Prop :=
  before.any isSentenceEnd = true ∧ sep ≠ [] ∧ ∀ c ∈ sep, isSpace c = true

theorem sentenceBreak_cut {isWord : Char → Bool} {before : Option Char} {used : List Char}
    {m : Cursor} (h : sentenceBreak.matchAt isWord before (used ++ m.rest) = some m) :
    used ≠ [] ∧ SentenceCut before used m.rest := by
  obtain ⟨s, hbehind, hplus⟩ := matches_seq (matchAt_matches h)
  obtain ⟨hend, rfl⟩ := matches_behind hbehind
  obtain ⟨sep, hsep, hne, hspace⟩ := matches_plus hplus
  obtain rfl := List.append_cancel_right hsep
  exact ⟨hne, hend, hne, hspace⟩

/-- The sentences that only say what is uncertain, in lower case. -/
def uncertainties : List (List Char) :=
  ["your request has not been assessed for eligibility.".toList,
    "your request's eligibility has not been verified.".toList,
    "your request's eligibility has not been determined.".toList]

/-- Such a sentence, at the start or after another with the white space between. -/
def UncertaintyCut (before : Option Char) (sep rest : List Char) : Prop :=
  Breaks rest ∧ ∃ spaces sentence, sep = spaces ++ sentence ∧
    (∀ c ∈ spaces, isSpace c = true) ∧ sentence.map fold ∈ uncertainties ∧
    (before = none ∧ spaces = [] ∨ before.any isSentenceEnd = true ∧ spaces ≠ [])

theorem uncertainty_text {isWord : Char → Bool} {s v t : Cursor}
    (hsentence : Matches isWord (oneOf [lit "your request has not been assessed for eligibility",
      seq (lit "your request's eligibility has not been ") (words ["verified", "determined"])]) s v)
    (hdot : Matches isWord (chr '.') v t) :
    ∃ used, s.rest = used ++ t.rest ∧ used.map fold ∈ uncertainties := by
  obtain ⟨c, hc, hrest, -⟩ := matches_set hdot
  have hjoin {used word : List Char} (hused : s.rest = used ++ v.rest)
      (hword : used.map fold = word) (hmem : word ++ ['.'] ∈ uncertainties) :
      ∃ used, s.rest = used ++ t.rest ∧ used.map fold ∈ uncertainties := by
    refine ⟨used ++ [c], by rw [hused, hrest, List.append_assoc]; rfl, ?_⟩
    rw [List.map_append, hword, List.map_singleton, of_decide_eq_true hc]
    exact hmem
  rcases matches_alt hsentence with hassessed | hother
  · obtain ⟨used, hused, hword⟩ := matches_text hassessed
    exact hjoin hused hword (by decide)
  · obtain ⟨w, hlead, hword⟩ := matches_seq hother
    obtain ⟨used, hused, hused'⟩ := matches_text hlead
    rcases matches_alt hword with hverified | hdetermined
    · obtain ⟨more, hmore, hmore'⟩ := matches_text hverified
      have hboth : s.rest = (used ++ more) ++ v.rest := by rw [hused, hmore, List.append_assoc]
      exact hjoin hboth (by rw [List.map_append, hused', hmore']) (by decide)
    · obtain ⟨more, hmore, hmore'⟩ := matches_text hdetermined
      have hboth : s.rest = (used ++ more) ++ v.rest := by rw [hused, hmore, List.append_assoc]
      exact hjoin hboth (by rw [List.map_append, hused', hmore']) (by decide)

/-- Letters only are folded. -/
theorem fold_of_not_lower {c : Char} (h : (fold c).isLower = false) : fold c = c := by
  cases hupper : c.isUpper with
  | true =>
    have hascii : c.toNat < 0x80 := by
      simp only [Char.isUpper, decide_eq_true_eq, ← Char.toNat_val,
        UInt32.le_iff_toNat_le] at hupper ⊢
      have h90 : ('Z'.val).toNat = 90 := rfl
      omega
    have hall : ∀ n < 0x80, (fold (Char.ofNat n)).isLower = false →
        fold (Char.ofNat n) = Char.ofNat n := by decide
    rw [← Char.ofNat_toNat c] at h ⊢
    exact hall c.toNat hascii h
  | false =>
    unfold fold at h ⊢
    split at h
    · cases h
    · cases h
    · cases h
    · cases h
    · rw [hupper]
      rfl

theorem isSpace_of_fold {c : Char} (h : isSpace (fold c) = true) : isSpace c = true := by
  have hlower : (fold c).isLower = false := Bool.eq_false_iff.mpr fun hlower => by
    have hblank := not_isSpace_of_letter (c := fold c)
    rw [fold_space h] at hblank
    rw [hblank hlower] at h
    cases h
  rwa [fold_of_not_lower hlower] at h

theorem uncertainty_cut {isWord : Char → Bool} {before : Option Char} {used : List Char}
    {m : Cursor} (h : boundedEligibilityUncertainty.matchAt isWord before (used ++ m.rest) = some m) :
    used ≠ [] ∧ UncertaintyCut before used m.rest := by
  obtain ⟨s, hstart, hmore⟩ := matches_seq (matchAt_matches h)
  obtain ⟨v, hsentence, hmore⟩ := matches_seq hmore
  obtain ⟨w, hdot, hend⟩ := matches_seq hmore
  obtain ⟨sentence, hrest, hfold⟩ := uncertainty_text hsentence hdot
  have hw : w.rest = m.rest ∧ Breaks m.rest := by
    rcases matches_alt hend with hahead | hatEnd
    · cases hahead with
      | ahead hspace =>
        obtain ⟨c, hc, hcons, -⟩ := matches_set hspace
        rw [hcons]
        exact ⟨rfl, fun d hd => Option.some.inj hd ▸ hc⟩
    · cases hatEnd with
      | atEnd hnil =>
        rw [hnil]
        exact ⟨rfl, fun _ hc => nomatch hc⟩
  rw [hw.1] at hrest
  have hne : sentence ≠ [] := by
    rintro rfl
    exact absurd hfold (by decide)
  rcases matches_alt hstart with hatStart | hbehind
  · cases hatStart with
    | atStart hnone =>
      obtain rfl := List.append_cancel_right hrest
      exact ⟨hne, hw.2, [], used, rfl, fun _ hc => (nomatch hc), hfold, .inl ⟨hnone, rfl⟩⟩
  · obtain ⟨t, hbehind, hplus⟩ := matches_seq hbehind
    obtain ⟨hlast, rfl⟩ := matches_behind hbehind
    obtain ⟨spaces, hspaces, hsome, hall⟩ := matches_plus hplus
    rw [hrest, ← List.append_assoc] at hspaces
    obtain rfl := List.append_cancel_right hspaces
    have hspace : ∀ c ∈ spaces, isSpace c = true := fun c hc =>
      isSpace_of_fold ((by decide : ∀ d ∈ "\t\r\n ".toList, isSpace d = true) _
        (of_decide_eq_true (hall c hc)))
    exact ⟨List.append_ne_nil_of_left_ne_nil hsome _, hw.2, spaces, sentence, rfl, hspace, hfold,
      .inr ⟨hlast, hsome⟩⟩

/-! Text without markup. -/

theorem stripMarkup_append (text more : List Char) :
    stripMarkup (text ++ more) = stripMarkup text ++ stripMarkup more := List.filter_append ..

theorem stripMarkup_cons {c : Char} (h : c ∉ ['*', '\x60']) (text : List Char) :
    stripMarkup (c :: text) = c :: stripMarkup text := by
  rw [List.mem_cons, List.mem_singleton, not_or] at h
  exact List.filter_cons_of_pos (by simp [h])

theorem stripMarkup_self {text : List Char} (h : ∀ c ∈ text, c ∉ ['*', '\x60']) :
    stripMarkup text = text := by
  induction text with
  | nil => rfl
  | cons c text ih =>
    rw [stripMarkup_cons (h c List.mem_cons_self), ih fun d hd => h d (List.mem_cons_of_mem c hd)]

theorem not_markup_of_space {c : Char} (h : isSpace c = true) : c ∉ ['*', '\x60'] := by
  have hno : fold c ∉ ['*', '\x60'] := not_mem_of_isSpace h (by decide)
  rwa [fold_space h] at hno

theorem stripMarkup_spaces {spaces : List Char} (h : ∀ c ∈ spaces, isSpace c = true) :
    stripMarkup spaces = spaces := stripMarkup_self fun c hc => not_markup_of_space (h c hc)

/-- The last character stays where it is no markup. -/
theorem stripMarkup_last {c : Char} {text : List Char} (h : text.getLast? = some c)
    (hc : c ∉ ['*', '\x60']) : (stripMarkup text).getLast? = some c := by
  obtain ⟨init, rfl⟩ := List.getLast?_eq_some_iff.mp h
  rw [stripMarkup_append, stripMarkup_cons hc, List.getLast?_append]
  rfl

theorem Breaks.stripMarkup {text : List Char} (h : Breaks text) : Breaks (stripMarkup text) := by
  cases text with
  | nil => exact h
  | cons c text =>
    rw [stripMarkup_cons (not_markup_of_space h.cons)]
    exact fun d hd => Option.some.inj hd ▸ h.cons

theorem Breaks.append {text more : List Char} (h : Breaks text) (h' : Breaks more) :
    Breaks (text ++ more) := by
  cases text with
  | nil => exact h'
  | cons c text => exact fun d hd => Option.some.inj hd ▸ h.cons

theorem breaks_spaces {spaces more : List Char} (hne : spaces ≠ [])
    (h : ∀ c ∈ spaces, isSpace c = true) : Breaks (spaces ++ more) := by
  obtain ⟨c, rest, rfl⟩ := List.exists_cons_of_ne_nil hne
  exact fun d hd => Option.some.inj hd ▸ h c List.mem_cons_self

theorem EndsSentence.stripMarkup {text : List Char} (h : EndsSentence text) :
    EndsSentence (stripMarkup text) := by
  obtain ⟨c, hc, hend⟩ := h
  have hmarkup : c ∉ ['*', '\x60'] :=
    (by decide : ∀ d ∈ ['.', '!', '?'], d ∉ ['*', '\x60']) c (of_decide_eq_true hend)
  exact ⟨c, stripMarkup_last hc hmarkup, hend⟩

/-- A cut after the end of a sentence cuts the verdict, too. -/
theorem clean_cut {sep : List Char} (hne : sep ≠ []) (hsep : ∀ c ∈ sep, isSpace c = true)
    {before : Option Char} {first : List Char}
    (hend : (first.getLast?.or before).any isSentenceEnd = true) (b : Option Char)
    (rest : List Char) :
    clean u orderContext b (stripMarkup first ++ (sep ++ rest)) =
      (clean u orderContext b (stripMarkup first) && clean u orderContext none rest) := by
  have hbreaks : Breaks (sep ++ rest) := breaks_spaces hne hsep
  rw [← clean_spaces hsep]
  cases hlast : first.getLast? with
  | none =>
    rw [List.getLast?_eq_none_iff.mp hlast]
    exact clean_breaks hbreaks b
  | some c =>
    rw [hlast] at hend
    have hsentence : EndsSentence first := ⟨c, hlast, hend⟩
    exact clean_sentence hbreaks b hsentence.stripMarkup

/-- What the guard makes of such a sentence. -/
theorem uncertainty_spec {sentence : List Char} (h : sentence.map fold ∈ uncertainties) :
    stripMarkup sentence = sentence ∧ bare sentence = true := by
  have hall : ∀ word ∈ uncertainties, '*' ∉ word ∧ '\x60' ∉ word ∧ word.map fold = word ∧
      bare word = true := by decide
  obtain ⟨hstar, htick, hfold, hbare⟩ := hall _ h
  refine ⟨stripMarkup_self fun c hc hmarkup => ?_, (bare_fold hfold.symm).trans hbare⟩
  have hmem : fold c ∈ sentence.map fold := List.mem_map_of_mem hc
  rcases List.mem_pair.mp hmarkup with rfl | rfl
  · exact hstar hmem
  · exact htick hmem

/-- The uncertain sentences and the white space around them have no say in the verdict. -/
theorem clean_removed {before : Option Char} {text first : List Char}
    {more : List (List Char × List Char)} (h : Pieces UncertaintyCut before text first more)
    {tail : List Char} (htail : Breaks tail) (b : Option Char) :
    clean u orderContext b
        (stripMarkup (first ++ more.flatMap fun part => [' '] ++ part.2) ++ tail) =
      clean u orderContext b (stripMarkup text ++ tail) := by
  induction h generalizing b with
  | whole before text => rw [List.flatMap_nil, List.append_nil]
  | @cut first before sep rest piece more hsep _ ih =>
    obtain ⟨hrest, spaces, sentence, rfl, hspaces, hsentence, hstart⟩ := hsep
    obtain ⟨hmarkup, hbare⟩ := uncertainty_spec hsentence
    have hskip (b : Option Char) :
        clean u orderContext b (sentence ++ (stripMarkup rest ++ tail)) =
          clean u orderContext none (stripMarkup rest ++ tail) := by
      rw [clean_bare hbare, clean_breaks (hrest.stripMarkup.append htail)]
    have hblank : ∀ c ∈ [' '], isSpace c = true := by decide
    rw [List.flatMap_cons, List.append_assoc [' ']]
    simp only [stripMarkup_append, List.append_assoc, stripMarkup_spaces hspaces, hmarkup,
      stripMarkup_spaces hblank]
    have hmore := ih none
    simp only [stripMarkup_append, List.append_assoc] at hmore
    rcases hstart with ⟨hnone, rfl⟩ | ⟨hend, hne⟩
    · obtain ⟨hfirst, -⟩ := Option.or_eq_none_iff.mp hnone
      rw [List.getLast?_eq_none_iff.mp hfirst]
      refine (clean_space (hblank ' ' List.mem_cons_self)).trans (hmore.trans ?_)
      exact (hskip b).symm
    · rw [clean_cut (List.cons_ne_nil _ _) hblank hend, clean_cut hne hspaces hend, hskip, hmore]

/-! The frames. -/

/-- White space and a bullet, ending in white space. -/
def Opening (opening : List Char) : Prop :=
  (∀ c ∈ opening, isSpace c = true ∨ c = '-' ∨ c = '*') ∧
    ∀ c ∈ opening.getLast?, isSpace c = true

theorem fold_bullet {c : Char} (h : fold c ∈ "-*".toList) : c = '-' ∨ c = '*' := by
  have hlower : ∀ d ∈ "-*".toList, d.isLower = false := by decide
  rw [fold_of_not_lower (hlower _ h)] at h
  exact List.mem_pair.mp h

theorem sentenceOpening_cut {isWord : Char → Bool} {sentence : List Char} {m : Cursor}
    (h : sentenceOpening.matchAt isWord none sentence = some m) :
    ∃ opening, sentence = opening ++ m.rest ∧ Opening opening := by
  obtain ⟨s, hstart, hgroup⟩ := matches_seq (matchAt_matches h)
  cases hstart with
  | atStart =>
    cases hgroup with
    | @group _ _ _ t hbody =>
      obtain ⟨v, hspaces, hbullet⟩ := matches_seq hbody
      obtain ⟨spaces, hrest, hall⟩ := matches_star hspaces
      rcases matches_alt hbullet with hmark | hnone
      · obtain ⟨w, hchars, hplus⟩ := matches_seq hmark
        obtain ⟨c, hc, hcons, -⟩ := matches_set hchars
        obtain ⟨more, hmore, hne, hmoreAll⟩ := matches_plus hplus
        refine ⟨spaces ++ c :: more, ?_, ?_, ?_⟩
        · have hjoin : sentence = spaces ++ (c :: (more ++ t.rest)) := by
            rw [← hmore, ← hcons]
            exact hrest
          rw [hjoin, List.append_assoc]
          rfl
        · intro d hd
          rcases List.mem_append.mp hd with hd | hd
          · exact .inl (hall d hd)
          · rcases List.mem_cons.mp hd with rfl | hd
            · exact .inr (fold_bullet (of_decide_eq_true hc))
            · exact .inl (hmoreAll d hd)
        · intro d hd
          obtain ⟨last, hlast⟩ := Option.ne_none_iff_exists'.mp
            (mt List.getLast?_eq_none_iff.mp hne)
          rw [List.append_cons, List.getLast?_append, hlast] at hd
          exact hmoreAll d (List.mem_of_getLast? (hlast.trans hd))
      · cases hnone
        exact ⟨spaces, hrest, fun d hd => .inl (hall d hd),
          fun d hd => hall d (List.mem_of_getLast? hd)⟩

theorem frameSentence_eq (sentence : List Char) :
    frameSentence u sentence = sentence ∨ ∃ opening rest, sentence = opening ++ rest ∧
      Opening opening ∧ frameSentence u sentence = opening ++ (policyFrame.toList ++ rest) := by
  rw [frameSentence]
  split_ifs
  · cases hmatch : sentenceOpening.matchAt u.isWord none sentence with
    | none => exact .inl (by rw [insertFrame, hmatch])
    | some m =>
      obtain ⟨opening, hsentence, hopening⟩ := sentenceOpening_cut hmatch
      refine .inr ⟨opening, m.rest, hsentence, hopening, ?_⟩
      have htake : sentence.take (sentence.length - m.rest.length) = opening := by
        rw [hsentence, List.length_append, Nat.add_sub_cancel, List.take_left]
      rw [insertFrame, hmatch]
      show sentence.take _ ++ _ ++ _ = _
      rw [htake, List.append_assoc]
  · exact .inl rfl

theorem Opening.bare {opening : List Char} (h : Opening opening) :
    bare (stripMarkup opening) = true := by
  refine bare_of_all fun c hc => ?_
  rcases h.1 c (List.mem_filter.mp hc).1 with hspace | rfl | rfl
  · exact not_mem_of_isSpace hspace (by decide)
  · decide
  · decide

/-- After an opening no word goes on. -/
theorem Opening.last {opening : List Char} (h : Opening opening) {b : Option Char}
    (hb : b.any u.isWord = false) :
    ((stripMarkup opening).getLast?.or b).any u.isWord = false := by
  cases hlast : opening.getLast? with
  | none =>
    rw [List.getLast?_eq_none_iff.mp hlast]
    exact hb
  | some c =>
    have hspace := h.2 c hlast
    rw [stripMarkup_last hlast (not_markup_of_space hspace)]
    exact u.word_space c hspace

theorem policyFrame_spec : stripMarkup policyFrame.toList = policyFrame.toList ∧
    bare policyFrame.toList = true ∧ policyFrame.toList.getLast? = some ' ' ∧
    ∀ c ∈ policyFrame.toList, c.toNat < 0x80 := by decide

theorem clean_frameSentence {b : Option Char} (hb : b.any u.isWord = false)
    (sentence tail : List Char) :
    clean u orderContext b (stripMarkup (frameSentence u sentence) ++ tail) =
      clean u orderContext b (stripMarkup sentence ++ tail) := by
  rcases frameSentence_eq (u := u) sentence with hsame | ⟨opening, rest, rfl, hopening, hframed⟩
  · rw [hsame]
  · obtain ⟨hmarkup, hbare, hlast, -⟩ := policyFrame_spec
    rw [hframed]
    simp only [stripMarkup_append, List.append_assoc, hmarkup]
    rw [clean_bare hopening.bare, clean_bare hopening.bare, clean_bare hbare, hlast]
    exact clean_before ((u.word_space ' ' (by decide)).trans (hopening.last hb).symm)

/-- The frames have no say in the verdict. -/
theorem clean_framed {before : Option Char} {text first : List Char}
    {more : List (List Char × List Char)} (h : Pieces SentenceCut before text first more)
    (tail : List Char) {b : Option Char} (hb : b.any u.isWord = false) :
    clean u orderContext b (stripMarkup (frameSentence u first ++
        more.flatMap fun part => part.1 ++ frameSentence u part.2) ++ tail) =
      clean u orderContext b (stripMarkup text ++ tail) := by
  induction h generalizing b with
  | whole before text =>
    rw [List.flatMap_nil, List.append_nil]
    exact clean_frameSentence hb text tail
  | @cut first before sep rest piece more hsep _ ih =>
    obtain ⟨hend, hne, hspaces⟩ := hsep
    have hmore := ih (b := none) rfl
    rw [List.flatMap_cons, List.append_assoc sep]
    simp only [stripMarkup_append, List.append_assoc, stripMarkup_spaces hspaces] at hmore ⊢
    rw [clean_frameSentence hb, clean_cut hne hspaces hend, clean_cut hne hspaces hend, hmore]

theorem nfkc_frameSentence {lead sentence after : List Char}
    (h : u.nfkc (lead ++ (sentence ++ after)) = lead ++ (sentence ++ after)) :
    u.nfkc (lead ++ (frameSentence u sentence ++ after)) =
      lead ++ (frameSentence u sentence ++ after) := by
  rcases frameSentence_eq (u := u) sentence with hsame | ⟨opening, rest, rfl, -, hframed⟩
  · rwa [hsame]
  · obtain ⟨-, -, hlast, hascii⟩ := policyFrame_spec
    have hinsert := u.nfkc_insert (lead ++ opening) policyFrame.toList (rest ++ after)
    simp only [List.append_assoc] at h hinsert
    rw [hframed, List.append_assoc, List.append_assoc]
    exact hinsert h hascii hlast

/-- A normalised text with frames is normalised. -/
theorem nfkc_framed {before : Option Char} {text first : List Char}
    {more : List (List Char × List Char)} (h : Pieces SentenceCut before text first more)
    (lead : List Char) (hlead : u.nfkc (lead ++ text) = lead ++ text) :
    u.nfkc (lead ++ (frameSentence u first ++
        more.flatMap fun part => part.1 ++ frameSentence u part.2)) =
      lead ++ (frameSentence u first ++
        more.flatMap fun part => part.1 ++ frameSentence u part.2) := by
  induction h generalizing lead with
  | whole before text =>
    rw [List.flatMap_nil]
    refine nfkc_frameSentence ?_
    rwa [List.append_nil]
  | @cut first before sep rest piece more hsep _ ih =>
    have hfirst := nfkc_frameSentence hlead
    have hmore := ih (lead ++ (frameSentence u first ++ sep))
    simp only [List.append_assoc] at hfirst hmore
    rw [List.flatMap_cons, List.append_assoc sep]
    exact hmore hfirst

theorem framed_pieces (text : List Char) :
    Pieces SentenceCut none text (sentenceBreak.split u.isWord text).1
      (sentenceBreak.split u.isWord text).2 :=
  pieces_split sentenceBreak_cut none text

/-! What is sent. -/

theorem clean_framed_text (text tail : List Char) :
    clean u orderContext none (stripMarkup (framed u text) ++ tail) =
      clean u orderContext none (stripMarkup text ++ tail) :=
  clean_framed (framed_pieces text) tail rfl

theorem clean_uncertain (text : List Char) {tail : List Char} (htail : Breaks tail) :
    clean u orderContext none
        (stripMarkup (boundedEligibilityUncertainty.sub u.isWord (fun _ _ => [' ']) text) ++ tail) =
      clean u orderContext none (stripMarkup text ++ tail) := by
  rw [Regex.sub, subFrom_const]
  exact clean_removed (pieces_split uncertainty_cut none text) htail none

theorem strip_parts (text : List Char) : ∃ lead trail, text = lead ++ (Python.strip text ++ trail) ∧
    (∀ c ∈ lead, isSpace c = true) ∧ ∀ c ∈ trail, isSpace c = true := by
  refine ⟨text.takeWhile isSpace,
    ((text.dropWhile isSpace).reverse.takeWhile isSpace).reverse, ?_, fun c hc =>
      List.mem_takeWhile_imp hc, fun c hc => List.mem_takeWhile_imp (List.mem_reverse.mp hc)⟩
  rw [Python.strip, ← List.reverse_append, List.takeWhile_append_dropWhile, List.reverse_reverse,
    List.takeWhile_append_dropWhile]

/-- White space around a text, before white space. -/
theorem clean_strip (text : List Char) {c : Char} (hc : isSpace c = true) (rest : List Char) :
    clean u orderContext none (stripMarkup (Python.strip text) ++ c :: rest) =
      clean u orderContext none (stripMarkup text ++ c :: rest) := by
  obtain ⟨lead, trail, htext, hlead, htrail⟩ := strip_parts text
  conv_rhs => rw [htext]
  simp only [stripMarkup_append, List.append_assoc, stripMarkup_spaces hlead,
    stripMarkup_spaces htrail]
  rw [clean_spaces hlead]
  cases trail with
  | nil => rfl
  | cons d trail =>
    have hd := htrail d List.mem_cons_self
    have htail : rest.dropWhile isSpace = (trail ++ c :: rest).dropWhile isSpace := by
      have hspaces : ∀ x ∈ trail, isSpace x = true := fun x hx =>
        htrail x (List.mem_cons_of_mem d hx)
      rw [List.dropWhile_append_of_pos hspaces, List.dropWhile_cons, if_pos hc]
    exact clean_tail_spaces hc hd htail none _

/-! What the application writes behind an answer. -/

def qualificationWord : List Char := "This".toList

def amountWord : List Char := "Proposed".toList

theorem addition_qualification : Addition qualificationWord where
  bare := by decide
  value := by decide
  vocabulary := by decide
  letter := ⟨'T', by decide⟩
  head := by
    intro c hc
    cases hc
    decide

theorem addition_amount : Addition amountWord where
  bare := by decide
  value := by decide
  vocabulary := by decide
  letter := ⟨'P', by decide⟩
  head := by
    intro c hc
    cases hc
    decide

/-- The qualification, and what follows its first word. -/
theorem qualification_spec : ∃ rest, deliveryPolicyQualification.toList = qualificationWord ++ rest ∧
    Breaks rest ∧ bare rest = true ∧ EndsSentence deliveryPolicyQualification.toList ∧
    stripMarkup deliveryPolicyQualification.toList = deliveryPolicyQualification.toList := by
  refine ⟨deliveryPolicyQualification.toList.drop 4, by decide +kernel, ?_, by decide +kernel,
    ⟨'.', by decide +kernel, by decide⟩, by decide +kernel⟩
  intro c hc
  have hhead : (deliveryPolicyQualification.toList.drop 4).head? = some ' ' := by decide +kernel
  rw [hhead] at hc
  cases hc
  decide

theorem clean_of_bare {text : List Char} (h : bare text = true) (b : Option Char) :
    clean u orderContext b text = true := by
  have hbare : clean u orderContext b (text ++ []) = _ := clean_bare h b []
  rwa [List.append_nil] at hbare

/-- A text, a blank line, a word, and more: the word counts, what follows it does not. -/
theorem clean_written (hword : Addition word) {rest : List Char} (hrest : Breaks rest)
    (hbare : bare rest = true) (text : List Char) :
    clean u orderContext none (text ++ ("\n\n".toList ++ (word ++ rest))) =
      clean u orderContext none (text ++ ("\n\n".toList ++ word)) := by
  have hbefore : BeforeWord word (text ++ ("\n\n".toList ++ word)) := by
    refine ⟨text ++ "\n\n".toList, (List.append_assoc _ _ _).symm, fun c hc => ?_⟩
    have hlast : (text ++ "\n\n".toList).getLast? = some '\n' := by
      rw [List.getLast?_append]
      rfl
    rw [hlast] at hc
    cases hc
    decide
  have hparts : clean u orderContext none (text ++ ("\n\n".toList ++ word) ++ rest) = _ :=
    clean_addition hword hrest none hbefore
  rw [clean_of_bare hbare, Bool.and_true] at hparts
  simp only [List.append_assoc] at hparts
  exact hparts

theorem publicAnswer_some {message : String} {citations : List KnowledgeCitation}
    {answer : CustomerAnswer} (h : publicAnswer message citations = some answer) :
    answer.message = message ∧ answer.citations = citations := by
  rw [publicAnswer] at h
  split_ifs at h
  cases h
  exact ⟨rfl, rfl⟩

/-- The framed and normalised draft without the uncertain sentences. -/
def bounded (u : Unicode) (draft : List Char) : List Char :=
  boundedEligibilityUncertainty.sub u.isWord (fun _ _ => [' ']) (framed u (u.nfkc draft))

theorem nfkc_framed_draft (draft : List Char) :
    u.nfkc (framed u (u.nfkc draft)) = framed u (u.nfkc draft) :=
  nfkc_framed (framed_pieces (u.nfkc draft)) [] (u.nfkc_nfkc draft)

theorem clean_bounded (draft : List Char) {tail : List Char} (htail : Breaks tail) :
    clean u orderContext none (stripMarkup (bounded u draft) ++ tail) =
      clean u orderContext none (stripMarkup (u.nfkc draft) ++ tail) := by
  rw [bounded, clean_uncertain _ htail, clean_framed_text]

/-- What a qualified answer says. -/
theorem qualified_message {answer qualifiedAnswer : CustomerAnswer}
    (h : qualified u answer true = .ok qualifiedAnswer) :
    qualifiedAnswer.citations = answer.citations ∧ qualifiedAnswer.message.toList =
      if (Python.strip (bounded u answer.message.toList)).isEmpty then
        deliveryPolicyQualification.toList
      else Python.strip (bounded u answer.message.toList) ++
        ("\n\n".toList ++ deliveryPolicyQualification.toList) := by
  rw [qualified, if_pos rfl] at h
  cases hboth : (appendDeliveryPolicyFrames u answer).bind (appendDeliveryPolicyQualification u) with
  | none =>
    rw [hboth] at h
    cases h
  | some last =>
    rw [hboth] at h
    cases h
    obtain ⟨framedAnswer, hframes, hlast⟩ := Option.bind_eq_some_iff.mp hboth
    obtain ⟨hmessage, hcitations⟩ := publicAnswer_some hframes
    obtain ⟨hmessage', hcitations'⟩ := publicAnswer_some hlast
    refine ⟨hcitations'.trans hcitations, ?_⟩
    have hstripped : boundedEligibilityUncertainty.sub u.isWord (fun _ _ => [' '])
        (u.nfkc framedAnswer.message.toList) = bounded u answer.message.toList := by
      rw [hmessage, String.toList_ofList, nfkc_framed_draft]
      rfl
    rw [hmessage', hstripped]
    split_ifs
    · rfl
    · rw [String.toList_append, String.toList_append, String.toList_ofList, List.append_assoc]

theorem clean_qualified {answer qualifiedAnswer : CustomerAnswer}
    (h : qualified u answer true = .ok qualifiedAnswer) :
    clean u orderContext none (stripMarkup qualifiedAnswer.message.toList) =
        clean u orderContext none (stripMarkup (u.nfkc answer.message.toList) ++
          ("\n\n".toList ++ qualificationWord)) ∧
      EndsSentence (stripMarkup qualifiedAnswer.message.toList) := by
  obtain ⟨rest, hrest, hbreaks, hbare, hsentence, hmarkup⟩ := qualification_spec
  obtain ⟨-, hmessage⟩ := qualified_message h
  have hblank : stripMarkup "\n\n".toList = "\n\n".toList := by decide
  have hverdict : clean u orderContext none (stripMarkup (u.nfkc answer.message.toList) ++
        ("\n\n".toList ++ qualificationWord)) =
      clean u orderContext none (stripMarkup (Python.strip (bounded u answer.message.toList)) ++
        ("\n\n".toList ++ qualificationWord)) := by
    have htail : Breaks ("\n\n".toList ++ qualificationWord) := by
      intro c hc
      cases hc
      decide
    rw [← clean_bounded _ htail]
    exact (clean_strip _ (by decide) _).symm
  rw [hmessage, hverdict]
  split_ifs with hempty
  · rw [List.isEmpty_iff.mp hempty, hmarkup]
    have hword : bare ("\n\n".toList ++ qualificationWord) = true := by decide
    refine ⟨?_, hsentence⟩
    rw [hrest, clean_of_bare (bare_append addition_qualification.bare hbare)]
    exact (clean_of_bare hword none).symm
  · rw [stripMarkup_append, stripMarkup_append, hblank, hmarkup]
    refine ⟨?_, ?_⟩
    · rw [hrest, clean_written addition_qualification hbreaks hbare]
    · obtain ⟨c, hc, hend⟩ := hsentence
      refine ⟨c, ?_, hend⟩
      rw [List.getLast?_append, List.getLast?_append, Option.mem_def.mp hc]
      rfl

/-! The amounts. -/

/-- A text of amounts: nothing in it begins a mention. -/
def Amount (text : String) : Prop :=
  ∀ c ∈ text.toList, c.isDigit = true ∨ c ∈ ['U', 'S', 'D', ' ', '$', ',', '.']

theorem Amount.append {text more : String} (h : Amount text) (h' : Amount more) :
    Amount (text ++ more) := by
  intro c hc
  rw [String.toList_append] at hc
  exact (List.mem_append.mp hc).elim (h c) (h' c)

theorem mem_groupDigits {digits : List Char} {c : Char} (h : c ∈ groupDigits digits) :
    c ∈ digits ∨ c = ',' := by
  induction digits using groupDigits.induct with
  | case1 a b d x digits ih =>
    rw [groupDigits] at h
    simp only [List.mem_cons] at h ih ⊢
    rcases h with rfl | rfl | rfl | rfl | h
    · exact .inl (.inl rfl)
    · exact .inl (.inr (.inl rfl))
    · exact .inl (.inr (.inr (.inl rfl)))
    · exact .inr rfl
    · exact (ih h).imp_left fun hmem => .inr (.inr (.inr hmem))
  | case2 digits hfew =>
    rw [groupDigits] at h
    · exact .inl h
    · exact hfew

theorem amount_thousands (n : ℕ) : Amount (thousands n) := by
  intro c hc
  rw [thousands, String.toList_ofList, List.mem_reverse] at hc
  rcases mem_groupDigits hc with hdigit | rfl
  · exact .inl (Nat.isDigit_of_mem_toDigits (by decide) (by decide) (List.mem_reverse.mp hdigit))
  · exact .inr (by decide)

theorem amount_twoDigits (n : ℕ) : Amount (twoDigits n) := by
  intro c hc
  have hdigit {c : Char} (h : c ∈ Nat.toDigits 10 n) : c.isDigit = true :=
    Nat.isDigit_of_mem_toDigits (by decide) (by decide) h
  rw [twoDigits, String.toList_ofList] at hc
  left
  split_ifs at hc
  · rcases List.mem_cons.mp hc with rfl | hc
    · decide
    · exact hdigit hc
  · exact hdigit hc

theorem amount_literal {text : String}
    (h : ∀ c ∈ text.toList, c ∈ ['U', 'S', 'D', ' ', '$', ',', '.']) : Amount text :=
  fun c hc => .inr (h c hc)

theorem amount_policy (amountMinor : ℤ) : Amount (formatPolicyAmount amountMinor) := by
  have hdollar : Amount "$" := amount_literal (by decide)
  rw [formatPolicyAmount]
  split_ifs
  · exact hdollar.append (amount_thousands _)
  · exact ((hdollar.append (amount_thousands _)).append (amount_literal (by decide))).append
      (amount_twoDigits _)

theorem amount_requested {amount : Option Money} {display : String}
    (h : formatRequestedAmount amount = some display) : Amount display := by
  cases amount with
  | none => cases h
  | some amount =>
    rw [formatRequestedAmount] at h
    split_ifs at h
    cases h
    exact (((amount_literal (by decide)).append (amount_thousands _)).append
      (amount_literal (by decide))).append (amount_twoDigits _)

/-- An amount is no markup, and no mention begins in it. -/
theorem Amount.spec {text : String} (h : Amount text) :
    stripMarkup text.toList = text.toList ∧ bare text.toList = true := by
  have hdigit {c : Char} (hc : c.isDigit = true) :
      c ∉ ['*', '\x60'] ∧ fold c ∉ ['o', 'i'] := by
    have hascii : c.toNat < 0x80 := by
      simp only [Char.isDigit, Bool.and_eq_true, decide_eq_true_eq, ← Char.toNat_val,
        UInt32.le_iff_toNat_le] at hc ⊢
      have h57 : ('9'.val).toNat = 57 := rfl
      omega
    have hall : ∀ n < 0x80, (Char.ofNat n).isDigit = true →
        Char.ofNat n ∉ ['*', '\x60'] ∧ fold (Char.ofNat n) ∉ ['o', 'i'] := by decide
    rw [← Char.ofNat_toNat c] at hc ⊢
    exact hall c.toNat hascii hc
  have hother : ∀ c ∈ ['U', 'S', 'D', ' ', '$', ',', '.'],
      c ∉ ['*', '\x60'] ∧ fold c ∉ ['o', 'i'] := by decide
  have hall (c : Char) (hc : c ∈ text.toList) : c ∉ ['*', '\x60'] ∧ fold c ∉ ['o', 'i'] :=
    (h c hc).elim hdigit (hother c)
  exact ⟨stripMarkup_self fun c hc => (hall c hc).1, bare_of_all fun c hc => (hall c hc).2⟩

/-- What names an order in no way: no markup, and no mention begins in it. -/
def Unnamed (text : String) : Prop :=
  stripMarkup text.toList = text.toList ∧ bare text.toList = true

theorem Unnamed.append {text more : String} (h : Unnamed text) (h' : Unnamed more) :
    Unnamed (text ++ more) := by
  rw [Unnamed, String.toList_append, stripMarkup_append, h.1, h'.1]
  exact ⟨rfl, bare_append h.2 h'.2⟩

/-- The message of a review names no order and no item. -/
theorem unnamed_review (review : AmountReview) (requested : Money) (policy : VerifiedRefundPolicy) :
    Unnamed (review.message requested policy) := by
  have hamount (amountMinor : ℤ) : Unnamed (formatPolicyAmount amountMinor) :=
    (amount_policy amountMinor).spec
  have hrefund : Unnamed "Your requested refund of " := ⟨by decide +kernel, by decide +kernel⟩
  have habove : Unnamed " is above the " := ⟨by decide +kernel, by decide +kernel⟩
  have hstart := hrefund.append (hamount requested.amountMinor)
  cases review with
  | specialistReview =>
    refine Unnamed.append (Unnamed.append ((hstart.append habove).append (hamount _)) ?_) ?_
    · exact ⟨by decide +kernel, by decide +kernel⟩
    · exact ⟨by decide +kernel, by decide +kernel⟩
  | humanApproval =>
    refine Unnamed.append (Unnamed.append (Unnamed.append (Unnamed.append
      ((hstart.append habove).append (hamount _)) ?_) (hamount _)) ?_) ?_
    · exact ⟨by decide +kernel, by decide +kernel⟩
    · exact ⟨by decide +kernel, by decide +kernel⟩
    · exact ⟨by decide +kernel, by decide +kernel⟩
  | automatic =>
    refine Unnamed.append (Unnamed.append (Unnamed.append (hstart.append ?_) (hamount _)) ?_) ?_
    · exact ⟨by decide +kernel, by decide +kernel⟩
    · exact ⟨by decide +kernel, by decide +kernel⟩
    · exact ⟨by decide +kernel, by decide +kernel⟩

theorem Unnamed.clean {text : String} (h : Unnamed text) :
    clean u orderContext none (stripMarkup text.toList) = true := by
  rw [h.1]
  exact clean_of_bare h.2 none

theorem unnamed_explanation {requestedAmount : Option Money} {proposalScope : ProposalScope}
    {missingFields : List MissingField} {refundPolicy : Option VerifiedRefundPolicy}
    {answer sent : CustomerAnswer}
    (h : renderCustomerAnswer answer .amountReview requestedAmount proposalScope missingFields
      refundPolicy = some sent) : Unnamed sent.message ∧ sent.citations = [] := by
  rw [renderCustomerAnswer, if_neg (not_not_intro rfl)] at h
  cases hreview : amountReview requestedAmount proposalScope missingFields refundPolicy with
  | none =>
    rw [hreview] at h
    obtain ⟨hmessage, hcitations⟩ := publicAnswer_some h
    rw [hmessage]
    exact ⟨⟨by decide +kernel, by decide +kernel⟩, hcitations⟩
  | some found =>
    rw [hreview] at h
    obtain ⟨hmessage, hcitations⟩ := publicAnswer_some h
    rw [hmessage]
    exact ⟨unnamed_review _ _ _, hcitations⟩

/-- What is sent for another purpose. -/
theorem rendered_message {purpose : AnswerPurpose} {requestedAmount : Option Money}
    {proposalScope : ProposalScope} {missingFields : List MissingField}
    {refundPolicy : Option VerifiedRefundPolicy} {answer sent : CustomerAnswer}
    (h : renderCustomerAnswer answer purpose requestedAmount proposalScope missingFields
      refundPolicy = some sent) (hpurpose : purpose ≠ .amountReview) :
    sent.citations = answer.citations ∧
      match (if purpose = .refundRequest then formatRequestedAmount requestedAmount else none) with
      | none => sent.message = answer.message
      | some display =>
        sent.message = answer.message ++ "\n\nProposed refund: " ++ display ++ "." := by
  rw [renderCustomerAnswer, if_pos hpurpose] at h
  obtain ⟨same, hsame, hsent⟩ := Option.bind_eq_some_iff.mp h
  obtain ⟨hmessage, hcitations⟩ := publicAnswer_some hsame
  split_ifs at hsent ⊢
  · rw [appendRequestedAmount] at hsent
    cases hformat : formatRequestedAmount requestedAmount with
    | none =>
      rw [hformat] at hsent
      obtain ⟨hmessage', hcitations'⟩ := publicAnswer_some hsent
      exact ⟨hcitations'.trans hcitations, hmessage'.trans hmessage⟩
    | some display =>
      rw [hformat] at hsent
      obtain ⟨hmessage', hcitations'⟩ := publicAnswer_some hsent
      refine ⟨hcitations'.trans hcitations, ?_⟩
      rw [← hmessage]
      exact hmessage'
  · cases hsent
    exact ⟨hcitations, hmessage⟩

/-! The verdict on what is sent. -/

/-- The draft, with the first word that the application writes behind it. -/
def writtenDraft (u : Unicode) (answer : DraftCustomerAnswer)
    (knowledgeEvidence : List CustomerEvidence) (requestedAmount : Option Money) : String :=
  match validateDeliveryPolicyText u answer.toCustomerAnswer knowledgeEvidence with
  | .ok true => String.ofList (u.nfkc answer.message.toList) ++ "\n\nThis"
  | _ =>
    if answer.purpose = .refundRequest ∧ (formatRequestedAmount requestedAmount).isSome then
      answer.message ++ "\n\nProposed"
    else answer.message

theorem clean_amount {requestedAmount : Option Money} {display : String}
    (h : formatRequestedAmount requestedAmount = some display) :
    ∃ rest, ("\n\nProposed refund: " ++ display ++ ".").toList =
        "\n\n".toList ++ (amountWord ++ rest) ∧ Breaks rest ∧ bare rest = true ∧
      stripMarkup ("\n\nProposed refund: " ++ display ++ ".").toList =
        ("\n\nProposed refund: " ++ display ++ ".").toList := by
  have hdisplay : Unnamed display := (amount_requested h).spec
  have hrest : Unnamed (" refund: " ++ display ++ ".") :=
    Unnamed.append (Unnamed.append ⟨by decide, by decide⟩ hdisplay) ⟨by decide, by decide⟩
  have hwhole : Unnamed ("\n\nProposed refund: " ++ display ++ ".") :=
    Unnamed.append (Unnamed.append ⟨by decide +kernel, by decide +kernel⟩ hdisplay)
      ⟨by decide, by decide⟩
  refine ⟨(" refund: " ++ display ++ ".").toList, ?_, ?_, hrest.2, hwhole.1⟩
  · have hlead : "\n\nProposed refund: ".toList =
        "\n\n".toList ++ (amountWord ++ " refund: ".toList) := by decide
    simp only [String.toList_append, hlead, List.append_assoc]
  · intro c hc
    rw [String.toList_append, String.toList_append] at hc
    cases hc
    decide

theorem ok_of_bind {ε α β : Type} {x : Except ε α} {f : α → Except ε β} {b : β}
    (h : (x >>= f) = .ok b) : ∃ a, x = .ok a ∧ f a = .ok b := by
  cases x with
  | error => cases h
  | ok a => exact ⟨a, rfl, h⟩

theorem ok_of_elim {ε α : Type} {x : Option α} {e : ε} {a : α}
    (h : x.elim (.error e : Except ε α) .ok = .ok a) : x = some a := by
  cases x with
  | none => cases h
  | some b =>
    cases h
    rfl

/-- A draft that is rendered has passed the guards. -/
theorem renderAnswer_ok {answer : DraftCustomerAnswer} {knowledgeEvidence : List CustomerEvidence}
    {refundProposal : ProposedRefund} {refundPolicy : Option VerifiedRefundPolicy}
    {sent : CustomerAnswer} (h : renderAnswer u answer orderContext knowledgeEvidence refundProposal
      refundPolicy = .ok sent) :
    (∀ citation ∈ answer.citations, (citedEvidence knowledgeEvidence citation).isSome = true) ∧
      validateCustomerAnswerIdentifiers u answer.message orderContext = .ok () ∧
      ∃ needsQualification qualifiedAnswer,
        validateDeliveryPolicyText u answer.toCustomerAnswer knowledgeEvidence =
          .ok needsQualification ∧
        qualified u answer.toCustomerAnswer needsQualification = .ok qualifiedAnswer ∧
        renderCustomerAnswer qualifiedAnswer answer.purpose refundProposal.requestedAmount
          refundProposal.scope refundProposal.missingFields refundPolicy = some sent := by
  rw [renderAnswer] at h
  split_ifs at h with hcitations
  · cases h
  · obtain ⟨⟨⟩, hidentifiers, h⟩ := ok_of_bind h
    obtain ⟨⟨⟩, -, h⟩ := ok_of_bind h
    obtain ⟨⟨⟩, -, h⟩ := ok_of_bind h
    obtain ⟨needs, hneeds, h⟩ := ok_of_bind h
    obtain ⟨qualifiedAnswer, hqualified, h⟩ := ok_of_bind h
    refine ⟨fun citation hmem => ?_, hidentifiers, needs, qualifiedAnswer, hneeds, hqualified,
      ok_of_elim h⟩
    rw [← Option.not_isNone, Bool.not_eq_true']
    exact Bool.eq_false_iff.mpr fun hnone =>
      hcitations (List.any_eq_true.mpr ⟨citation, hmem, hnone⟩)

theorem citedEvidence_mem {knowledgeEvidence : List CustomerEvidence} {citation : KnowledgeCitation}
    (h : (citedEvidence knowledgeEvidence citation).isSome = true) :
    ∃ evidence ∈ knowledgeEvidence, evidence.knowledgeDocumentId = citation.knowledgeDocumentId ∧
      evidence.chunkId = citation.chunkId := by
  obtain ⟨evidence, hfound⟩ := Option.isSome_iff_exists.mp h
  have hmem := List.mem_of_find?_eq_some hfound
  have hcited := List.find?_some hfound
  exact ⟨evidence, List.mem_reverse.mp hmem, of_decide_eq_true hcited⟩

/-- What is appended as an amount says nothing by itself. -/
theorem clean_appended {needsQualification : Bool} {answer qualifiedAnswer : CustomerAnswer}
    (h : qualified u answer needsQualification = .ok qualifiedAnswer)
    {requestedAmount : Option Money} {display : String}
    (hdisplay : formatRequestedAmount requestedAmount = some display) :
    clean u orderContext none (stripMarkup
        (qualifiedAnswer.message ++ "\n\nProposed refund: " ++ display ++ ".").toList) =
      clean u orderContext none (stripMarkup (if needsQualification then
        u.nfkc answer.message.toList ++ ("\n\n".toList ++ qualificationWord)
      else answer.message.toList ++ ("\n\n".toList ++ amountWord))) := by
  obtain ⟨rest, hrest, hbreaks, hbare, hmarkup⟩ := clean_amount hdisplay
  have hjoin : (qualifiedAnswer.message ++ "\n\nProposed refund: " ++ display ++ ".").toList =
      qualifiedAnswer.message.toList ++ ("\n\nProposed refund: " ++ display ++ ".").toList := by
    simp only [String.toList_append, List.append_assoc]
  rw [hjoin, stripMarkup_append, hmarkup, hrest]
  cases needsQualification with
  | true =>
    obtain ⟨hverdict, hsentence⟩ := clean_qualified h
    have htail : Breaks ("\n\n".toList ++ (amountWord ++ rest)) := by
      intro c hc
      cases hc
      decide
    have hword : bare ("\n\n".toList ++ (amountWord ++ rest)) = true :=
      bare_append (by decide) (bare_append addition_amount.bare hbare)
    have hmarkup' : stripMarkup ("\n\n".toList ++ qualificationWord) =
        "\n\n".toList ++ qualificationWord := by decide
    rw [clean_sentence htail none hsentence, clean_of_bare hword, Bool.and_true, hverdict, if_pos rfl,
      stripMarkup_append, hmarkup']
  | false =>
    cases h
    have hmarkup' : stripMarkup ("\n\n".toList ++ amountWord) =
        "\n\n".toList ++ amountWord := by decide
    rw [clean_written addition_amount hbreaks hbare, if_neg Bool.false_ne_true, stripMarkup_append,
      hmarkup']

theorem qualified_citations {needsQualification : Bool} {answer qualifiedAnswer : CustomerAnswer}
    (h : qualified u answer needsQualification = .ok qualifiedAnswer) :
    qualifiedAnswer.citations = answer.citations := by
  cases needsQualification with
  | true => exact (qualified_message h).1
  | false =>
    cases h
    rfl

/-- The verdict on what is sent is the verdict on the draft as it is written on. -/
theorem clean_sent {answer : DraftCustomerAnswer} {knowledgeEvidence : List CustomerEvidence}
    {needsQualification : Bool} {qualifiedAnswer sent : CustomerAnswer}
    {requestedAmount : Option Money} {proposalScope : ProposalScope}
    {missingFields : List MissingField} {refundPolicy : Option VerifiedRefundPolicy}
    (hneeds : validateDeliveryPolicyText u answer.toCustomerAnswer knowledgeEvidence =
      .ok needsQualification)
    (hqualified : qualified u answer.toCustomerAnswer needsQualification = .ok qualifiedAnswer)
    (hsent : renderCustomerAnswer qualifiedAnswer answer.purpose requestedAmount proposalScope
      missingFields refundPolicy = some sent) (hpurpose : answer.purpose ≠ .amountReview) :
    clean u orderContext none (stripMarkup sent.message.toList) =
      clean u orderContext none
        (stripMarkup (writtenDraft u answer knowledgeEvidence requestedAmount).toList) := by
  obtain ⟨-, hmessage⟩ := rendered_message hsent hpurpose
  rw [writtenDraft, hneeds]
  cases needsQualification with
  | true =>
    have hjoin : (String.ofList (u.nfkc answer.message.toList) ++ "\n\nThis").toList =
        u.nfkc answer.message.toList ++ ("\n\n".toList ++ qualificationWord) := by
      rw [String.toList_append, String.toList_ofList]
      rfl
    have hmarkup : stripMarkup ("\n\n".toList ++ qualificationWord) =
        "\n\n".toList ++ qualificationWord := by decide
    show _ = clean u orderContext none (stripMarkup (String.ofList _ ++ "\n\nThis").toList)
    rw [hjoin]
    cases hdisplay : (if answer.purpose = .refundRequest then formatRequestedAmount requestedAmount
        else none) with
    | none =>
      rw [hdisplay] at hmessage
      rw [show sent.message = qualifiedAnswer.message from hmessage, (clean_qualified hqualified).1,
        stripMarkup_append, hmarkup]
    | some display =>
      rw [hdisplay] at hmessage
      split_ifs at hdisplay
      rw [show sent.message = _ from hmessage, clean_appended hqualified hdisplay, if_pos rfl]
  | false =>
    show _ = clean u orderContext none (stripMarkup (if _ ∧ _ then _ else answer.message).toList)
    cases hdisplay : (if answer.purpose = .refundRequest then formatRequestedAmount requestedAmount
        else none) with
    | none =>
      have hno : ¬(answer.purpose = .refundRequest ∧
          (formatRequestedAmount requestedAmount).isSome = true) := by
        rintro ⟨hrefund, hsome⟩
        rw [if_pos hrefund] at hdisplay
        rw [hdisplay] at hsome
        cases hsome
      rw [hdisplay] at hmessage
      cases hqualified
      rw [if_neg hno, show sent.message = answer.message from hmessage]
    | some display =>
      rw [hdisplay] at hmessage
      split_ifs at hdisplay with hrefund
      have hjoin : (answer.message ++ "\n\nProposed").toList =
          answer.message.toList ++ ("\n\n".toList ++ amountWord) := String.toList_append
      rw [if_pos ⟨hrefund, by rw [hdisplay]; rfl⟩, hjoin, show sent.message = _ from hmessage,
        clean_appended hqualified hdisplay, if_neg Bool.false_ne_true]

def isFullwidth (c : Char) : Bool := 0xFF01 ≤ c.toNat && c.toNat ≤ 0xFF5E

def narrow (c : Char) : Char := if isFullwidth c then Char.ofNat (c.toNat - 0xFEE0) else c

theorem isFullwidth_ascii {c : Char} (h : c.toNat < 0x80) : isFullwidth c = false := by
  rw [isFullwidth, Bool.and_eq_false_iff]
  exact .inl (decide_eq_false (by omega))

theorem narrow_of_not {c : Char} (h : isFullwidth c = false) : narrow c = c := by
  rw [narrow, h]
  rfl

theorem narrow_narrow (c : Char) : narrow (narrow c) = narrow c := by
  cases hwide : isFullwidth c with
  | false => rw [narrow_of_not hwide, narrow_of_not hwide]
  | true =>
    have hall : ∀ n < 0x5E, (Char.ofNat (n + 0x21)).toNat = n + 0x21 := by decide
    have hrange := hwide
    rw [isFullwidth, Bool.and_eq_true, decide_eq_true_eq, decide_eq_true_eq] at hrange
    have hcode : c.toNat - 0xFEE0 = c.toNat - 0xFF01 + 0x21 := by omega
    have hnat : (narrow c).toNat = c.toNat - 0xFF01 + 0x21 := by
      rw [narrow, hwide, if_pos rfl, hcode, hall _ (by omega)]
    exact narrow_of_not (isFullwidth_ascii (by omega))

theorem not_isFullwidth_space {c : Char} (h : isSpace c = true) : isFullwidth c = false := by
  rw [isFullwidth, Bool.and_eq_false_iff, decide_eq_false_iff_not]
  simp only [isSpace, Bool.or_eq_true, Bool.and_eq_true, decide_eq_true_eq, beq_iff_eq] at h
  omega

def fullwidth : Unicode where
  isWord c := isAlnum c || c == '_' || (isFullwidth c && isAlnum (narrow c))
  isDigit c := (narrow c).isDigit
  decimal c := if (narrow c).isDigit then some ((narrow c).toNat - '0'.toNat) else none
  isCurrency c := c ∈ "$¢£¤¥€".toList
  casefoldChar c :=
    [if isFullwidth c && (narrow c).isUpper then Char.ofNat (c.toNat + 0x20) else c.toLower]
  nfkc text := text.map narrow
  word_ascii c h := by
    have hall : ∀ n < 0x80, isAlnum (Char.ofNat n) = (Char.ofNat n).isAlphanum := by decide +kernel
    have halnum := hall c.toNat h
    rw [Char.ofNat_toNat] at halnum
    rw [isFullwidth_ascii h, halnum, Bool.false_and, Bool.or_false]
  word_letter c h := by rw [isAlnum, h]; rfl
  word_space c h := by
    have hunderscore : c ∉ ['_'] := by
      have hno : fold c ∉ ['_'] := not_mem_of_isSpace h (by decide)
      rwa [fold_space h] at hno
    rw [isAlnum_space h, not_isFullwidth_space h, beq_false_of_ne (mt List.mem_singleton.mpr hunderscore)]
    rfl
  digit_ascii c h := by rw [narrow_of_not (isFullwidth_ascii h)]
  casefold_ascii c h := by rw [isFullwidth_ascii h]; rfl
  nfkc_nfkc text := by rw [List.map_map]; exact List.map_congr_left fun c _ => narrow_narrow c
  nfkc_insert before inserted after h hascii _ := by
    have hinserted : inserted.map narrow = inserted := by
      conv_rhs => rw [← List.map_id inserted]
      exact List.map_congr_left fun c hc => narrow_of_not (isFullwidth_ascii (hascii c hc))
    rw [List.map_append] at h
    obtain ⟨hbefore, hafter⟩ := List.append_inj h (List.length_map _)
    rw [List.map_append, List.map_append, hbefore, hinserted, hafter]

def sampleOrder : OrderContext := ⟨"R1", "O1", ["I1"]⟩

def sampleDraft (message : String) (purpose : AnswerPurpose)
    (h : AnswerContract message []) : DraftCustomerAnswer := ⟨⟨message, [], h⟩, purpose⟩

def sampleProposal : ProposedRefund :=
  ⟨some ⟨⟨1200, "USD"⟩, by decide⟩, .fullOrder, []⟩

/-- The draft names the order in question, and needs the qualification. -/
def plainDraft : DraftCustomerAnswer := sampleDraft
  "Your request has not been assessed for eligibility. See order R1." .policyQuestion (by decide)

/-- Fullwidth letters are none of an identifier, until they are normalised. -/
def wideDraft : DraftCustomerAnswer := sampleDraft
  "Your request has not been assessed for eligibility. See order \uFF21\uFF19\uFF19." .policyQuestion
  (by decide)

/-- The message of the answer, if there is one. -/
def renderedMessage (answer : DraftCustomerAnswer) : Option String :=
  (renderAnswer fullwidth answer sampleOrder [] sampleProposal none).toOption.map
    CustomerAnswer.message

theorem renderedMessage_some {answer : DraftCustomerAnswer} {message : String}
    (h : renderedMessage answer = some message) :
    ∃ sent, renderAnswer fullwidth answer sampleOrder [] sampleProposal none = .ok sent ∧
      sent.message = message := by
  obtain ⟨sent, hsent, hmessage⟩ := Option.map_eq_some_iff.mp h
  refine ⟨sent, ?_, hmessage⟩
  cases hrendered : renderAnswer fullwidth answer sampleOrder [] sampleProposal none with
  | error =>
    rw [hrendered] at hsent
    cases hsent
  | ok other =>
    rw [hrendered] at hsent
    cases hsent
    rfl

theorem plain_message :
    renderedMessage plainDraft = some ("See order R1.\n\n" ++ deliveryPolicyQualification) := by
  decide +kernel

theorem wide_message :
    renderedMessage wideDraft = some ("See order A99.\n\n" ++ deliveryPolicyQualification) := by
  decide +kernel

end CSO.AgentRuntime
