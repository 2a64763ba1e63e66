import CSO.AgentRuntime.AnswerGuard
import CSO.Python.Reading

/-! What the identifier guard reads, and how its verdict on a text follows from its parts. -/
namespace CSO.AgentRuntime
open Python (Regex Unicode Cursor fold isSpace)
open Python.Regex

/-! The mention at a place, read from left to right. -/

/-- White space is no part of a word and nothing else that a mention is written with. -/
theorem fold_space {c : Char} (h : isSpace c = true) : fold c = c := by
  have hupper : c.isUpper = false := by
    simp only [isSpace, Char.isUpper, Bool.or_eq_true, Bool.and_eq_true, decide_eq_true_eq,
      beq_iff_eq, ← Char.toNat_val, UInt32.le_iff_toNat_le, decide_eq_false_iff_not] at h ⊢
    have h65 : ('A'.val).toNat = 65 := rfl
    have h90 : ('Z'.val).toNat = 90 := rfl
    omega
  unfold fold
  split
  · exact absurd h (by decide)
  · exact absurd h (by decide)
  · exact absurd h (by decide)
  · exact absurd h (by decide)
  · rw [hupper]
    rfl

theorem isAlnum_space {c : Char} (h : isSpace c = true) : isAlnum c = false := by
  rw [isAlnum, fold_space h]
  simp only [isSpace, Char.isLower, Char.isDigit, Bool.or_eq_true, Bool.and_eq_true,
    decide_eq_true_eq, beq_iff_eq, ← Char.toNat_val, UInt32.le_iff_toNat_le,
    Bool.or_eq_false_iff, Bool.and_eq_false_iff, decide_eq_false_iff_not] at h ⊢
  have h48 : ('0'.val).toNat = 48 := rfl
  have h57 : ('9'.val).toNat = 57 := rfl
  have h97 : ('a'.val).toNat = 97 := rfl
  have h122 : ('z'.val).toNat = 122 := rfl
  omega

/-- The characters that may stand before a value. -/
def marks : List Char := ":#".toList

def quotes : List Char := "\"'‘’“”".toList

theorem not_mem_of_isSpace {c : Char} {members : List Char} (h : isSpace c = true)
    (hmembers : members.all (!isSpace ·) = true) : fold c ∉ members := by
  intro hmem
  rw [fold_space h] at hmem
  have hno := List.all_eq_true.mp hmembers c hmem
  rw [h] at hno
  cases hno

def valueAt (groups : List (ℕ × List Char)) : List Char → Option View
  | [] => none
  | c :: text =>
    if isAlnum c then some ((3, c :: text.takeWhile isValue) :: groups, text.dropWhile isValue)
    else none

/-- After one of some characters, if it is there. -/
def pastOne (members : List Char) (find : List Char → Option View) : List Char → Option View
  | [] => none
  | c :: text => if fold c ∈ members then find text else none

def quoteAt (groups : List (ℕ × List Char)) (text : List Char) : Option View :=
  (pastOne quotes (valueAt groups) text).or (valueAt groups text)

def markAt (groups : List (ℕ × List Char)) (text : List Char) : Option View :=
  (pastOne marks (fun rest => quoteAt groups (rest.dropWhile isSpace)) text).or
    (quoteAt groups (text.dropWhile isSpace))

section

variable (u : Unicode)

def isAt (groups : List (ℕ × List Char)) (text : List Char) : Option View :=
  ((stripWord u.isWord "is".toList text).bind fun rest =>
    markAt groups (rest.dropWhile isSpace)).or (markAt groups text)

def labels : List (List Char) :=
  ["reference".toList, "number".toList, "id".toList, "code".toList]

def labelAt (groups : List (ℕ × List Char)) (text : List Char) : Option View :=
  (firstOf (fun label => (stripWord u.isWord label text).bind fun rest =>
    isAt u ((2, text.take label.length) :: groups) (rest.dropWhile isSpace)) labels).or
      (isAt u groups text)

def kinds : List (List Char) := ["order".toList, "item".toList]

def kindAt (text : List Char) : Option View :=
  firstOf (fun kind => (stripWord u.isWord kind text).bind fun rest =>
    labelAt u [(1, text.take kind.length)] (rest.dropWhile isSpace)) kinds

/-- The mention that begins at a place. -/
def mentionAt (before : Option Char) (text : List Char) : Option View :=
  if before.any u.isWord then none else kindAt u text

variable {u} {c : Char} {groups : List (ℕ × List Char)} {text : List Char}

theorem valueAt_space (h : isSpace c = true) : valueAt groups (c :: text) = none := by
  rw [valueAt, isAlnum_space h]
  rfl

theorem pastOne_space {members : List Char} {find : List Char → Option View}
    (h : isSpace c = true) (hmembers : members.all (!isSpace ·) = true) :
    pastOne members find (c :: text) = none := if_neg (not_mem_of_isSpace h hmembers)

theorem quoteAt_space (h : isSpace c = true) : quoteAt groups (c :: text) = none := by
  rw [quoteAt, pastOne_space h (by decide), valueAt_space h]
  rfl

theorem markAt_space (h : isSpace c = true) :
    markAt groups (c :: text) = quoteAt groups (text.dropWhile isSpace) := by
  rw [markAt, pastOne_space h (by decide), List.dropWhile_cons, if_pos h]
  rfl

/-- A word begins with a letter. -/
theorem stripWord_none {word : List Char} (hword : word.head?.any Char.isLower = true)
    (h : text.head?.any u.isWord = false) : stripWord u.isWord word text = none := by
  cases word with
  | nil => cases hword
  | cons d word =>
    cases text with
    | nil => rfl
    | cons c text =>
      rw [stripWord, if_neg]
      intro hfold
      have hletter := u.word_letter c (by rw [hfold]; exact hword)
      rw [List.head?_cons, Option.any_some, hletter] at h
      cases h

theorem isAt_space (h : isSpace c = true) :
    isAt u groups (c :: text) = quoteAt groups (text.dropWhile isSpace) := by
  have hstrip : stripWord u.isWord "is".toList (c :: text) = none :=
    stripWord_none (by decide) (u.word_space c h)
  rw [isAt, hstrip, markAt_space h]
  rfl

theorem labelAt_space (h : isSpace c = true) :
    labelAt u groups (c :: text) = quoteAt groups (text.dropWhile isSpace) := by
  have hlabels : firstOf (fun label => (stripWord u.isWord label (c :: text)).bind fun rest =>
      isAt u ((2, (c :: text).take label.length) :: groups) (rest.dropWhile isSpace)) labels =
      none := by
    refine firstOf_eq_none fun label hlabel => ?_
    have hletters : ∀ label ∈ labels, label.head?.any Char.isLower = true := by decide
    have hhead : (c :: text).head?.any u.isWord = false := u.word_space c h
    rw [stripWord_none (hletters label hlabel) hhead]
    rfl
  rw [labelAt, hlabels, isAt_space h]
  rfl

/-! The pattern finds just that. -/

theorem blind_quoteAt : Blind isSpace quoteAt := fun _ _ _ h _ => quoteAt_space h

theorem quoteAt_none_of_markAt (h : markAt groups text = none) :
    quoteAt groups (text.dropWhile isSpace) = none := (Option.or_eq_none_iff.mp h).2

theorem blind_markAt : Blind isSpace markAt := by
  intro groups c text hc hnone
  rw [markAt_space hc]
  exact quoteAt_none_of_markAt hnone

theorem blind_isAt : Blind isSpace (isAt u) := by
  intro groups c text hc hnone
  rw [isAt_space hc]
  exact quoteAt_none_of_markAt (Option.or_eq_none_iff.mp hnone).2

theorem blind_labelAt : Blind isSpace (labelAt u) := by
  intro groups c text hc hnone
  rw [labelAt_space hc]
  exact quoteAt_none_of_markAt (Option.or_eq_none_iff.mp (Option.or_eq_none_iff.mp hnone).2).2

theorem take_consumed (c : Char) (text : List Char) (p : Char → Bool) :
    (c :: text).take ((c :: text).length - (text.dropWhile p).length) =
      c :: text.takeWhile p := by
  have hlength : (text.takeWhile p).length + (text.dropWhile p).length = text.length := by
    rw [← List.length_append, List.takeWhile_append_dropWhile]
  have hcount : (c :: text).length - (text.dropWhile p).length =
      (text.takeWhile p).length + 1 := by
    rw [List.length_cons]
    omega
  rw [hcount, List.take_succ_cons]
  exact congrArg (c :: ·) (List.prefix_iff_eq_take.mp (List.takeWhile_prefix p)).symm

theorem reads_value : Reads (fun s =>
    (group 3 (seq alnum (star (set isValue)))).exec u.isWord s some) valueAt := by
  intro s
  have hstar : Reads (fun t => (star (set isValue)).exec u.isWord t fun v =>
      some { v with groups := (3, s.consumed v) :: v.groups }) _ :=
    (reads_some.note 3 s).star fun groups c text _ h => nomatch h
  have hvalue : Reads (fun t => (seq alnum (star (set isValue))).exec u.isWord t fun v =>
      some { v with groups := (3, s.consumed v) :: v.groups }) _ := hstar.set u.isWord isAlnum
  refine (hvalue s).trans ?_
  cases s.rest with
  | nil => rfl
  | cons c text =>
    show (if isAlnum c then some _ else none) = valueAt s.groups (c :: text)
    rw [valueAt, take_consumed]

variable {k : Cursor → Option Cursor} {f : List (ℕ × List Char) → List Char → Option View}

theorem reads_pastOne (hk : Reads k f) (members : String) :
    Reads (fun s => (chars members).exec u.isWord s k) fun groups =>
      pastOne members.toList (f groups) := by
  refine (hk.set u.isWord _).congr fun groups text => ?_
  cases text with
  | nil => rfl
  | cons c text =>
    show (if decide (fold c ∈ members.toList) = true then f groups text else none) =
      if fold c ∈ members.toList then f groups text else none
    simp only [decide_eq_true_eq]

theorem reads_spaces (hk : Reads k f) (hf : Blind isSpace f) :
    Reads (fun s => spaces.exec u.isWord s k) fun groups text =>
      f groups (text.dropWhile isSpace) := hk.star hf

theorem reads_word (hk : Reads k f) {word : String}
    (hword : word.toList.all Char.isLower = true) (hne : word.toList ≠ []) :
    Reads (fun s => (lit word).exec u.isWord s fun t => boundary.exec u.isWord t k)
      fun groups text => (stripWord u.isWord word.toList text).bind (f groups) :=
  hk.word u.word_letter (List.all_eq_true.mp hword) hne

/-- The value with the quote before it. -/
def quotedValue : Regex := cat [opt (chars "\"'‘’“”"), group 3 (seq alnum (star (set isValue)))]

/-- What follows a label. -/
def afterLabel : Regex := cat [
  opt (cat [lit "is", boundary, spaces]), opt (chars ":#"), spaces, quotedValue]

/-- What follows the kind. -/
def afterKind : Regex := seq
  (opt (cat [group 2 (words ["reference", "number", "id", "code"]), boundary, spaces])) afterLabel

theorem reads_quotedValue : Reads (fun s => quotedValue.exec u.isWord s some) quoteAt :=
  (reads_pastOne reads_value _).opt reads_value

theorem reads_afterLabel : Reads (fun s => afterLabel.exec u.isWord s some) (isAt u) := by
  have hspaces : Reads (fun s => (seq spaces quotedValue).exec u.isWord s some)
      fun groups text => quoteAt groups (text.dropWhile isSpace) :=
    reads_spaces reads_quotedValue blind_quoteAt
  have hmark : Reads (fun s => (cat [opt (chars ":#"), spaces, quotedValue]).exec u.isWord s some)
      markAt := (reads_pastOne hspaces ":#").opt hspaces
  exact Reads.opt (r := cat [lit "is", boundary, spaces])
    (reads_word (reads_spaces hmark blind_markAt) (by decide) (by decide)) hmark

theorem reads_afterKind : Reads (fun s => afterKind.exec u.isWord s some) (labelAt u) :=
  Reads.opt (r := cat [group 2 (words ["reference", "number", "id", "code"]), boundary, spaces])
    ((reads_spaces reads_afterLabel blind_isAt).wordsGroup u.word_letter 2 labels (by decide))
    reads_afterLabel

theorem reads_kind : Reads (fun s => (group 1 (words ["order", "item"])).exec u.isWord s fun t =>
    (cat [boundary, spaces, afterKind]).exec u.isWord t some)
      fun groups text => firstOf (fun kind => (stripWord u.isWord kind text).bind fun rest =>
        labelAt u ((1, text.take kind.length) :: groups) (rest.dropWhile isSpace)) kinds :=
  (reads_spaces reads_afterKind blind_labelAt).wordsGroup u.word_letter 1 kinds (by decide)

/-- A kind begins with a letter. -/
theorem kindAt_head (h : text.head?.any u.isWord = false) : kindAt u text = none := by
  refine firstOf_eq_none fun kind hkind => ?_
  have hletters : ∀ kind ∈ kinds, kind.head?.any Char.isLower = true := by decide
  rw [stripWord_none (hletters kind hkind) h]
  rfl

/-- What the pattern finds is the mention that is read from left to right. -/
theorem view_matchAt (before : Option Char) (text : List Char) :
    view (identifierMention.matchAt u.isWord before text) = mentionAt u before text := by
  have hkind := reads_kind (u := u) ⟨before, text, []⟩
  show view (if isBoundary u.isWord ⟨before, text, []⟩ then _ else none) = _
  rw [mentionAt, isBoundary]
  cases hhead : text.head?.any u.isWord with
  | true =>
    cases before.any u.isWord with
    | true => rfl
    | false => exact hkind
  | false =>
    have hnone := kindAt_head hhead
    cases before.any u.isWord with
    | true => exact hkind.trans hnone
    | false => exact hnone.symm

/-! The duration after a mention. -/

def spacesAt (find : List (ℕ × List Char) → List Char → Option View)
    (groups : List (ℕ × List Char)) : List Char → Option View
  | [] => none
  | c :: text => if isSpace c then find groups (text.dropWhile isSpace) else none

def durations : List String := ["second", "minute", "hour", "day", "week", "month", "year"]

variable (u) in
def unitAt (groups : List (ℕ × List Char)) (text : List Char) : Option View :=
  firstOf (fun word => ((stripWord u.isWord (word ++ ['s']) text).bind fun rest =>
      some (groups, rest)).or ((stripWord u.isWord word text).bind fun rest =>
        some (groups, rest))) (durations.map String.toList)

variable (u) in
def businessAt (groups : List (ℕ × List Char)) (text : List Char) : Option View :=
  ((stripText "business".toList text).bind (spacesAt (unitAt u) groups)).or (unitAt u groups text)

variable (u) in
def durationAt (text : List Char) : Option View := spacesAt (businessAt u) [] text

theorem unitAt_space (h : isSpace c = true) : unitAt u groups (c :: text) = none := by
  refine firstOf_eq_none fun word hword => ?_
  have hletters : ∀ word ∈ durations.map String.toList,
      word.head?.any Char.isLower = true ∧ (word ++ ['s']).head?.any Char.isLower = true := by decide
  have hhead : (c :: text).head?.any u.isWord = false := u.word_space c h
  rw [stripWord_none (hletters word hword).1 hhead, stripWord_none (hletters word hword).2 hhead]
  rfl

theorem stripText_space (u : Unicode) {word : List Char} (hword : word.head?.any Char.isLower = true)
    (h : isSpace c = true) : stripText word (c :: text) = none := by
  cases word with
  | nil => cases hword
  | cons d word =>
    refine if_neg fun hfold => ?_
    have hletter := u.word_letter c (by rw [hfold]; exact hword)
    rw [u.word_space c h] at hletter
    cases hletter

theorem businessAt_space (h : isSpace c = true) : businessAt u groups (c :: text) = none := by
  rw [businessAt, stripText_space u (by decide) h, unitAt_space h]
  rfl

theorem reads_spacesAt (hk : Reads k f) (hf : Blind isSpace f) :
    Reads (fun s => (plus space).exec u.isWord s k) (spacesAt f) := by
  rintro ⟨before, text, groups⟩
  cases text with
  | nil => rfl
  | cons c text =>
    show view (if isSpace c then spaces.exec u.isWord ⟨some c, text, groups⟩ k else none) =
      if isSpace c then f groups (text.dropWhile isSpace) else none
    split_ifs
    · exact reads_spaces hk hf _
    · rfl

/-- What the pattern finds after a mention, wherever it is tried. -/
theorem view_duration (before : Option Char) (text : List Char) :
    view (durationAfterMention.matchAt u.isWord before text) = durationAt u text := by
  have hunit : Reads (fun s => (plurals durations).exec u.isWord s fun t =>
      boundary.exec u.isWord t some) (unitAt u) :=
    reads_some.plurals u.word_letter (by decide)
  have hblind : Blind isSpace (unitAt u) := fun _ _ _ hc _ => unitAt_space hc
  have hbusiness : Reads (fun s => (seq (optPhrase (lit "business"))
      (seq (plurals durations) boundary)).exec u.isWord s some) (businessAt u) :=
    Reads.opt (r := seq (lit "business") (plus space))
      ((reads_spacesAt hunit hblind).letters _) hunit
  exact reads_spacesAt hbusiness (fun _ _ _ hc _ => businessAt_space hc) ⟨before, text, []⟩

end

end CSO.AgentRuntime
