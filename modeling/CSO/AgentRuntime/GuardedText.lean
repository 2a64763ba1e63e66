import CSO.AgentRuntime.IdentifierGuard
import CSO.Python.Pieces

/-! The verdict of the identifier guard on a text of several parts. -/
namespace CSO.AgentRuntime
open Python (Regex Unicode Cursor fold isSpace)
open Python.Regex

/-! The text before a mention ends does not matter, only the groups and the text after. -/

/-- What follows the groups so far ends in a value. -/
def Ends (find : List (ℕ × List Char) → List Char → Option View) : Prop :=
  ∀ groups text found, find groups text = some found →
    ∃ lead value more, text = lead ++ (value ++ found.2) ∧ value ≠ [] ∧
      found.1 = (3, value) :: more

theorem ends_valueAt : Ends valueAt := by
  intro groups text found h
  cases text with
  | nil => cases h
  | cons c text =>
    rw [valueAt] at h
    split_ifs at h
    cases h
    refine ⟨[], c :: text.takeWhile isValue, groups, ?_, List.cons_ne_nil _ _, rfl⟩
    show c :: text = c :: (text.takeWhile isValue ++ text.dropWhile isValue)
    rw [List.takeWhile_append_dropWhile]

variable {find other : List (ℕ × List Char) → List Char → Option View}

theorem Ends.or (h : Ends find) (h' : Ends other) :
    Ends fun groups text => (find groups text).or (other groups text) := by
  intro groups text found hfound
  rcases Option.or_eq_some_iff.mp hfound with hfirst | ⟨-, hsecond⟩
  · exact h groups text found hfirst
  · exact h' groups text found hsecond

theorem Ends.pastOne (h : Ends find) (members : List Char) :
    Ends fun groups => pastOne members (find groups) := by
  intro groups text found hfound
  cases text with
  | nil => cases hfound
  | cons c text =>
    change (if fold c ∈ members then find groups text else none) = some found at hfound
    split_ifs at hfound
    obtain ⟨lead, value, more, rfl, hvalue⟩ := h groups text found hfound
    exact ⟨c :: lead, value, more, rfl, hvalue⟩

theorem Ends.spaces (h : Ends find) :
    Ends fun groups text => find groups (text.dropWhile isSpace) := by
  intro groups text found hfound
  obtain ⟨lead, value, more, hrest, hvalue⟩ := h groups _ found hfound
  refine ⟨text.takeWhile isSpace ++ lead, value, more, ?_, hvalue⟩
  rw [List.append_assoc, ← hrest, List.takeWhile_append_dropWhile]

theorem Ends.word (h : Ends find) (isWord : Char → Bool) (word : List Char)
    (note : List Char → List (ℕ × List Char) → List (ℕ × List Char)) :
    Ends fun groups text => (stripWord isWord word text).bind (find (note text groups)) := by
  intro groups text found hfound
  obtain ⟨rest, hrest, hfind⟩ := Option.bind_eq_some_iff.mp hfound
  obtain ⟨rfl, -⟩ := stripWord_eq_some hrest
  obtain ⟨lead, value, more, htext, hvalue⟩ := h _ _ found hfind
  refine ⟨text.take word.length ++ lead, value, more, ?_, hvalue⟩
  rw [List.append_assoc, ← htext, List.take_append_drop]

theorem ends_firstOf {find : List Char → List (ℕ × List Char) → List Char → Option View}
    (words : List (List Char)) (h : ∀ word, Ends (find word)) :
    Ends fun groups text => firstOf (fun word => find word groups text) words := by
  induction words with
  | nil => exact fun _ _ _ hnone => nomatch hnone
  | cons word words ih =>
    cases words with
    | nil => exact h word
    | cons next words => exact (h word).or ih

section

variable {u : Unicode}

theorem ends_markAt : Ends markAt := by
  have hquote : Ends quoteAt := (ends_valueAt.pastOne quotes).or ends_valueAt
  exact (hquote.spaces.pastOne marks).or hquote.spaces

theorem ends_labelAt : Ends (labelAt u) := by
  have his : Ends (isAt u) :=
    (ends_markAt.spaces.word u.isWord "is".toList fun _ groups => groups).or ends_markAt
  refine Ends.or (ends_firstOf labels fun label => ?_) his
  exact his.spaces.word u.isWord label fun text groups => (2, text.take label.length) :: groups

/-- A mention ends in its value. -/
theorem mentionAt_value {before : Option Char} {text : List Char} {found : View}
    (h : mentionAt u before text = some found) :
    ∃ lead value more, text = lead ++ (value ++ found.2) ∧ value ≠ [] ∧
      found.1 = (3, value) :: more := by
  rw [mentionAt] at h
  split_ifs at h
  have hkind : Ends fun groups text => firstOf (fun kind =>
      (stripWord u.isWord kind text).bind fun rest =>
        labelAt u ((1, text.take kind.length) :: groups) (rest.dropWhile isSpace)) kinds :=
    ends_firstOf kinds fun kind => ends_labelAt.spaces.word u.isWord kind
      fun text groups => (1, text.take kind.length) :: groups
  exact hkind [] text found h

end

/-! The guard, by what is read of the mentions. -/

section

variable (u : Unicode) (orderContext : OrderContext)

def conflictsAt (found : View) : Bool := conflicts u orderContext ⟨none, found.2, found.1⟩

/-- No mention conflicts from a place on. -/
def clean (before : Option Char) (text : List Char) : Bool :=
  (identifierMention.finditerFrom u.isWord 0 before text).all fun m => !conflicts u orderContext m

def valueOf (groups : List (ℕ × List Char)) : List Char :=
  ((groups.find? fun entry => entry.1 = 3).map Prod.snd).getD []

variable {u orderContext} {before : Option Char} {c : Char} {text : List Char}

theorem isSome_view (found : Option Cursor) : (view found).isSome = found.isSome :=
  Option.isSome_map

theorem conflicts_eq (m : Cursor) :
    conflicts u orderContext m = conflictsAt u orderContext (m.groups, m.rest) := by
  have hduration (b : Option Char) : (durationAfterMention.matchAt u.isWord b m.rest).isSome =
      (durationAt u m.rest).isSome := by rw [← view_duration b, isSome_view]
  simp only [conflictsAt, conflicts, hduration]
  rfl

theorem validate_iff (message : String) :
    validateCustomerAnswerIdentifiers u message orderContext = .ok () ↔
      clean u orderContext none (stripMarkup message.toList) = true := by
  rw [validateCustomerAnswerIdentifiers, clean, finditer, ← List.not_any_eq_all_not]
  cases (identifierMention.finditerFrom u.isWord 0 none (stripMarkup message.toList)).any
    (conflicts u orderContext) with
  | true => exact ⟨nofun, nofun⟩
  | false => exact ⟨fun _ => rfl, fun _ => rfl⟩

theorem clean_nil : clean u orderContext before [] = true := rfl

theorem clean_none (h : mentionAt u before (c :: text) = none) :
    clean u orderContext before (c :: text) = clean u orderContext (some c) text := by
  have hmatch : identifierMention.matchAt u.isWord before (c :: text) = none := by
    rw [← Option.isNone_iff_eq_none, ← Option.not_isSome, ← isSome_view, view_matchAt, h]
    rfl
  rw [clean, finditerFrom, hmatch]
  rfl

theorem clean_mention {found : View} (h : mentionAt u before text = some found) :
    clean u orderContext before text = (!conflictsAt u orderContext found &&
      clean u orderContext (valueOf found.1).getLast? found.2) := by
  obtain ⟨m, hmatch, hview⟩ := Option.map_eq_some_iff.mp ((view_matchAt before text).trans h)
  obtain ⟨lead, value, more, htext, hne, hgroups⟩ := mentionAt_value h
  have hrest : m.rest = found.2 := congrArg Prod.snd hview
  have hvalue : valueOf found.1 = value := by rw [valueOf, hgroups]; rfl
  obtain ⟨c, hlast⟩ := Option.ne_none_iff_exists'.mp (mt List.getLast?_eq_none_iff.mp hne)
  have hused : (lead ++ value).getLast?.or before = some c := by
    rw [last_append, hlast]
    rfl
  rw [← List.append_assoc, ← hrest] at htext
  rw [htext] at hmatch ⊢
  rw [clean, finditerFrom_match (List.append_ne_nil_of_right_ne_nil lead hne) hmatch, hused,
    List.all_cons, conflicts_eq, hvalue, hlast, ← hview]
  rfl

/-- Only whether the character before is one of a word matters. -/
theorem clean_before {before' : Option Char} (h : before.any u.isWord = before'.any u.isWord) :
    clean u orderContext before text = clean u orderContext before' text := by
  cases text with
  | nil => rfl
  | cons c text =>
    have hmention : mentionAt u before (c :: text) = mentionAt u before' (c :: text) := by
      rw [mentionAt, mentionAt, h]
    cases hfound : mentionAt u before' (c :: text) with
    | none => rw [clean_none hfound, clean_none (hmention.trans hfound)]
    | some found => rw [clean_mention hfound, clean_mention (hmention.trans hfound)]

theorem mentionAt_head (h : text.head?.any u.isWord = false) : mentionAt u before text = none := by
  rw [mentionAt, kindAt_head h]
  exact ite_self none

theorem clean_space (h : isSpace c = true) :
    clean u orderContext before (c :: text) = clean u orderContext none text := by
  rw [clean_none (mentionAt_head (u.word_space c h))]
  exact clean_before (u.word_space c h)

theorem clean_spaces {spaces : List Char} (h : ∀ c ∈ spaces, isSpace c = true) :
    clean u orderContext none (spaces ++ text) = clean u orderContext none text := by
  induction spaces with
  | nil => rfl
  | cons c spaces ih =>
    rw [List.cons_append, clean_space (h c List.mem_cons_self)]
    exact ih fun d hd => h d (List.mem_cons_of_mem c hd)

end

/-! A text before two tails: the guard reads it alike where its reading stays in the text, or comes
to the same in both tails. -/

/-- No word goes on here. -/
def Breaks (text : List Char) : Prop := ∀ c ∈ text.head?, isSpace c = true

/-- The words that a mention and a duration are read past. -/
def vocabulary : List (List Char) := kinds ++ labels ++ ["is".toList, "business".toList]

/-- A value in which some character is none of a number. -/
def Worded (groups : List (ℕ × List Char)) : Prop :=
  ∃ c ∈ valueOf groups, c.toNat < 0x80 ∧ c.isDigit = false

/-- `P` holds of what is left of the text, wherever the reading stands in it. -/
structure Tails (P : List Char → Prop) (tail tail' : List Char) : Prop where
  breaks : Breaks tail
  breaks' : Breaks tail'
  empty : P [] → tail.isEmpty = tail'.isEmpty
  spaces : ∀ {text}, P text → P (text.dropWhile isSpace) ∧
    (text.dropWhile isSpace = [] → tail.dropWhile isSpace = tail'.dropWhile isSpace)
  mark : ∀ {c text}, P (c :: text) → fold c ∈ marks ++ quotes → P text
  word : ∀ {word text rest}, P text → word ∈ vocabulary → stripText word text = some rest → P rest
  value : ∀ {text}, P text → P (text.dropWhile isValue) ∨ text.dropWhile isValue = [] ∧
    ∃ c ∈ text.takeWhile isValue, c.toNat < 0x80 ∧ c.isDigit = false

/-- What is found before the one tail and before the other. -/
inductive Agree (P : List Char → Prop) (tail tail' : List Char) : Option View → Option View → Prop
  | none : Agree P tail tail' none none
  | same (found) (h : tail.dropWhile isSpace = tail'.dropWhile isSpace) :
      Agree P tail tail' (some found) (some found)
  | inside (groups) {text} (h : P text ∨ text = [] ∧ Worded groups) :
      Agree P tail tail' (some (groups, text ++ tail)) (some (groups, text ++ tail'))

variable {P : List Char → Prop} {tail tail' : List Char} {a a' b b' : Option View}

theorem Agree.or (h : Agree P tail tail' a a') (h' : Agree P tail tail' b b') :
    Agree P tail tail' (a.or b) (a'.or b') := by
  cases h with
  | none => exact h'
  | same found h => exact .same found h
  | inside groups h => exact .inside groups h

theorem Agree.refl (h : tail.dropWhile isSpace = tail'.dropWhile isSpace) (a : Option View) :
    Agree P tail tail' a a := by
  cases a with
  | none => exact .none
  | some found => exact .same found h

theorem agree_firstOf {find find' : List Char → Option View} {words : List (List Char)}
    (h : ∀ word ∈ words, Agree P tail tail' (find word) (find' word)) :
    Agree P tail tail' (firstOf find words) (firstOf find' words) := by
  induction words with
  | nil => exact .none
  | cons word words ih =>
    have hfirst := h word List.mem_cons_self
    have hmore := ih fun w hw => h w (List.mem_cons_of_mem word hw)
    cases words with
    | nil => exact hfirst
    | cons next words => exact hfirst.or hmore

theorem Breaks.cons {c : Char} {text : List Char} (h : Breaks (c :: text)) : isSpace c = true :=
  h c rfl

theorem Breaks.head_word {u : Unicode} (h : Breaks tail) : tail.head?.any u.isWord = false := by
  cases tail with
  | nil => rfl
  | cons c tail => exact u.word_space c h.cons

theorem stripText_append {word : List Char} (hword : ∀ c ∈ word, c.isLower = true)
    (h : Breaks tail) (u : Unicode) (text : List Char) :
    stripText word (text ++ tail) = (stripText word text).map (· ++ tail) := by
  induction word generalizing text with
  | nil => rfl
  | cons d word ih =>
    cases text with
    | cons c text =>
      show (if fold c = d then _ else none) = (if fold c = d then _ else none : Option _).map _
      split_ifs
      · exact ih (fun c hc => hword c (List.mem_cons_of_mem d hc)) text
      · rfl
    | nil =>
      cases tail with
      | nil => rfl
      | cons c tail => exact stripText_space u (hword d List.mem_cons_self) h.cons

theorem stripWord_append {u : Unicode} {word : List Char} (hword : ∀ c ∈ word, c.isLower = true)
    (h : Breaks tail) (text : List Char) :
    stripWord u.isWord word (text ++ tail) = (stripWord u.isWord word text).map (· ++ tail) := by
  induction word generalizing text with
  | nil =>
    have hhead : (text ++ tail).head?.any u.isWord = text.head?.any u.isWord := by
      cases text with
      | nil => exact h.head_word
      | cons c text => rfl
    rw [stripWord, stripWord, hhead]
    split_ifs <;> rfl
  | cons d word ih =>
    cases text with
    | cons c text =>
      show (if fold c = d then _ else none) = (if fold c = d then _ else none : Option _).map _
      split_ifs
      · exact ih (fun c hc => hword c (List.mem_cons_of_mem d hc)) text
      · rfl
    | nil => exact stripWord_none (hword d List.mem_cons_self) h.head_word

theorem stripText_of_stripWord {isWord : Char → Bool} {word text rest : List Char}
    (h : stripWord isWord word text = some rest) : stripText word text = some rest := by
  induction word generalizing text with
  | nil =>
    rw [stripWord] at h
    split_ifs at h
    exact h
  | cons d word ih =>
    cases text with
    | nil => cases h
    | cons c text =>
      rw [stripWord] at h
      rw [stripText]
      split_ifs at h ⊢
      exact ih h

theorem vocabulary_lower : ∀ word ∈ vocabulary, ∀ c ∈ word, c.isLower = true := by decide

theorem isValue_alnum {c : Char} (h : isAlnum c = true) : isValue c = true := by
  rw [isValue, h]
  rfl

theorem not_isValue {c : Char} (h : isSpace c = true) : isValue c = false := by
  have hmarks : c ∉ ['.', '_', ':', '-'] := by
    have hno : fold c ∉ ['.', '_', ':', '-'] := not_mem_of_isSpace h (by decide)
    rwa [fold_space h] at hno
  rw [isValue, isAlnum_space h, Bool.false_or, decide_eq_false hmarks]

theorem Breaks.takeWhile_value (h : Breaks tail) : tail.takeWhile isValue = [] := by
  cases tail with
  | nil => rfl
  | cons c tail => rw [List.takeWhile_cons, not_isValue h.cons]; rfl

theorem Breaks.dropWhile_value (h : Breaks tail) : tail.dropWhile isValue = tail := by
  cases tail with
  | nil => rfl
  | cons c tail => rw [List.dropWhile_cons, not_isValue h.cons]; rfl

/-- A value ends where the text does. -/
theorem valueAt_append (h : Breaks tail) (groups : List (ℕ × List Char)) (text : List Char) :
    valueAt groups (text ++ tail) =
      (valueAt groups text).map fun found => (found.1, found.2 ++ tail) := by
  cases text with
  | nil =>
    cases tail with
    | nil => rfl
    | cons c tail => exact valueAt_space h.cons
  | cons c text =>
    have htake : (text ++ tail).takeWhile isValue = text.takeWhile isValue := by
      rw [List.takeWhile_append, h.takeWhile_value, List.append_nil]
      split_ifs with hall
      · exact ((List.takeWhile_prefix isValue).eq_of_length hall).symm
      · rfl
    have hdrop : (text ++ tail).dropWhile isValue = text.dropWhile isValue ++ tail := by
      rw [List.dropWhile_append, h.dropWhile_value]
      split_ifs with hall
      · rw [List.isEmpty_iff.mp hall, List.nil_append]
      · rfl
    rw [List.cons_append, valueAt, valueAt, htake, hdrop]
    split_ifs <;> rfl

theorem isSome_firstOf {find find' : List Char → Option View} {words : List (List Char)}
    (h : ∀ word ∈ words, (find word).isSome = (find' word).isSome) :
    (firstOf find words).isSome = (firstOf find' words).isSome := by
  induction words with
  | nil => rfl
  | cons word words ih =>
    have hfirst := h word List.mem_cons_self
    have hmore := ih fun w hw => h w (List.mem_cons_of_mem word hw)
    cases words with
    | nil => exact hfirst
    | cons next words =>
      show ((find word).or (firstOf find (next :: words))).isSome =
        ((find' word).or (firstOf find' (next :: words))).isSome
      rw [Option.isSome_or, Option.isSome_or, hfirst, hmore]

theorem isSome_unitAt {u : Unicode} (h : Breaks tail) (groups : List (ℕ × List Char))
    (text : List Char) : (unitAt u groups (text ++ tail)).isSome = (unitAt u groups text).isSome := by
  refine isSome_firstOf fun word hword => ?_
  have hlower : ∀ word ∈ durations.map String.toList, ∀ c ∈ word ++ ['s'], c.isLower = true := by
    decide
  have hplural := stripWord_append (u := u) (hlower word hword) h text
  have hsingular := stripWord_append (u := u)
    (fun c hc => hlower word hword c (List.mem_append_left _ hc)) h text
  rw [hplural, hsingular, Option.isSome_or, Option.isSome_or]
  simp only [Option.isSome_bind, Option.any_map, Option.isSome_some]

/-- A word is taken from the text, not from the tail. -/
theorem take_word {u : Unicode} {word text rest : List Char}
    (h : stripWord u.isWord word text = some rest) (tail : List Char) :
    (text ++ tail).take word.length = text.take word.length :=
  List.take_append_of_le_length (stripWord_eq_some h).2

theorem spacesAt_eq (find : List (ℕ × List Char) → List Char → Option View)
    (groups : List (ℕ × List Char)) (text : List Char) :
    spacesAt find groups text =
      if text.head?.any isSpace then find groups (text.dropWhile isSpace) else none := by
  cases text with
  | nil => rfl
  | cons c text =>
    rw [spacesAt, List.head?_cons, Option.any_some, List.dropWhile_cons]
    split_ifs <;> rfl

/-- The text after a mention matters where its value is a number. -/
theorem conflictsAt_congr {u : Unicode} {orderContext : OrderContext}
    {groups : List (ℕ × List Char)} {rest rest' : List Char}
    (h : isDigits u (u.casefold (valueOf groups)) = true →
      (durationAt u rest).isSome = (durationAt u rest').isSome) :
    conflictsAt u orderContext (groups, rest) = conflictsAt u orderContext (groups, rest') := by
  have hduration (text : List Char) : (durationAfterMention.matchAt u.isWord none text).isSome =
      (durationAt u text).isSome := by rw [← view_duration none, isSome_view]
  have hvalue (text : List Char) :
      (Cursor.group ⟨none, text, groups⟩ 3).getD [] = valueOf groups := rfl
  simp only [conflictsAt, conflicts, hduration, hvalue]
  cases hdigits : isDigits u (u.casefold (valueOf groups)) with
  | true => rw [h hdigits]; rfl
  | false => simp only [Bool.and_false, Bool.false_and]; rfl

theorem not_isDigits {u : Unicode} {groups : List (ℕ × List Char)} (h : Worded groups) :
    isDigits u (u.casefold (valueOf groups)) = false := by
  obtain ⟨c, hc, hascii, hdigit⟩ := h
  have hlower : c.toLower.isDigit = false ∧ c.toLower.toNat < 0x80 := by
    have hall : ∀ n < 0x80, (Char.ofNat n).isDigit = false →
        (Char.ofNat n).toLower.isDigit = false ∧ (Char.ofNat n).toLower.toNat < 0x80 := by decide
    rw [← Char.ofNat_toNat c] at hdigit ⊢
    exact hall c.toNat hascii hdigit
  have hmem : c.toLower ∈ u.casefold (valueOf groups) :=
    List.mem_flatMap.mpr ⟨c, hc, by rw [u.casefold_ascii c hascii]; exact List.mem_singleton_self _⟩
  rw [isDigits, Bool.and_eq_false_iff]
  refine .inr (List.all_eq_false.mpr ⟨c.toLower, hmem, ?_⟩)
  rw [u.digit_ascii _ hlower.2, hlower.1]
  exact Bool.false_ne_true

variable (ht : Tails P tail tail') {text : List Char} {groups : List (ℕ × List Char)}
include ht

theorem agree_spaces {find : List Char → Option View}
    (hfind : ∀ {text}, P text → Agree P tail tail' (find (text ++ tail)) (find (text ++ tail')))
    (h : P text) : Agree P tail tail' (find ((text ++ tail).dropWhile isSpace))
      (find ((text ++ tail').dropWhile isSpace)) := by
  obtain ⟨hrest, htails⟩ := ht.spaces h
  rw [List.dropWhile_append, List.dropWhile_append]
  cases hdrop : text.dropWhile isSpace with
  | nil =>
    rw [List.isEmpty_nil, if_pos rfl, if_pos rfl, htails hdrop]
    exact .refl (htails hdrop) _
  | cons c rest =>
    rw [hdrop] at hrest
    exact hfind hrest

theorem agree_word {u : Unicode} {find find' : List Char → Option View} {word : List Char}
    (hword : word ∈ vocabulary)
    (hfind : ∀ {rest}, stripWord u.isWord word text = some rest → P rest →
      Agree P tail tail' (find (rest ++ tail)) (find' (rest ++ tail')))
    (h : P text) : Agree P tail tail' ((stripWord u.isWord word (text ++ tail)).bind find)
      ((stripWord u.isWord word (text ++ tail')).bind find') := by
  have hlower := vocabulary_lower word hword
  rw [stripWord_append hlower ht.breaks, stripWord_append hlower ht.breaks']
  cases hstrip : stripWord u.isWord word text with
  | none => exact .none
  | some rest => exact hfind hstrip (ht.word h hword (stripText_of_stripWord hstrip))

theorem agree_value (h : P text) :
    Agree P tail tail' (valueAt groups (text ++ tail)) (valueAt groups (text ++ tail')) := by
  rw [valueAt_append ht.breaks, valueAt_append ht.breaks']
  cases text with
  | nil => exact .none
  | cons c text =>
    rw [valueAt]
    split_ifs with hc
    · have hvalue := ht.value h
      rw [List.dropWhile_cons, List.takeWhile_cons, isValue_alnum hc, if_pos rfl, if_pos rfl] at hvalue
      refine .inside _ (hvalue.imp_right fun hinside => ⟨hinside.1, ?_⟩)
      exact hinside.2
    · exact .none

theorem agree_pastOne {find : List Char → Option View} {members : List Char}
    (hmembers : members ⊆ marks ++ quotes)
    (hfind : ∀ {text}, P text → Agree P tail tail' (find (text ++ tail)) (find (text ++ tail')))
    (h : P text) : Agree P tail tail' (pastOne members find (text ++ tail))
      (pastOne members find (text ++ tail')) := by
  cases text with
  | nil =>
    have hall : members.all (!isSpace ·) = true :=
      List.all_eq_true.mpr fun c hc => (by decide : ∀ c ∈ marks ++ quotes, (!isSpace c) = true) c
        (hmembers hc)
    have hnone {tail : List Char} (hbreaks : Breaks tail) : pastOne members find tail = none := by
      cases tail with
      | nil => rfl
      | cons c tail => exact pastOne_space hbreaks.cons hall
    rw [List.nil_append, List.nil_append, hnone ht.breaks, hnone ht.breaks']
    exact .none
  | cons c text =>
    rw [List.cons_append, List.cons_append, pastOne, pastOne]
    split_ifs with hc
    · exact hfind (ht.mark h (hmembers hc))
    · exact .none

theorem agree_quote (h : P text) :
    Agree P tail tail' (quoteAt groups (text ++ tail)) (quoteAt groups (text ++ tail')) :=
  (agree_pastOne ht (List.subset_append_right marks quotes) (agree_value ht) h).or
    (agree_value ht h)

theorem agree_mark (h : P text) :
    Agree P tail tail' (markAt groups (text ++ tail)) (markAt groups (text ++ tail')) :=
  (agree_pastOne ht (List.subset_append_left marks quotes)
    (agree_spaces ht (agree_quote ht)) h).or (agree_spaces ht (agree_quote ht) h)

theorem agree_is {u : Unicode} (h : P text) :
    Agree P tail tail' (isAt u groups (text ++ tail)) (isAt u groups (text ++ tail')) :=
  (agree_word ht (by decide) (fun _ hrest => agree_spaces ht (agree_mark ht) hrest) h).or
    (agree_mark ht h)

theorem agree_label {u : Unicode} (h : P text) :
    Agree P tail tail' (labelAt u groups (text ++ tail)) (labelAt u groups (text ++ tail')) := by
  refine (agree_firstOf fun label hlabel => ?_).or (agree_is ht h)
  have hword : label ∈ vocabulary :=
    List.mem_append_left _ (List.mem_append_right kinds hlabel)
  refine agree_word ht hword (fun hstrip hrest => ?_) h
  rw [take_word hstrip tail, take_word hstrip tail']
  exact agree_spaces ht (agree_is ht) hrest

theorem agree_kind {u : Unicode} (h : P text) :
    Agree P tail tail' (kindAt u (text ++ tail)) (kindAt u (text ++ tail')) := by
  refine agree_firstOf fun kind hkind => ?_
  have hword : kind ∈ vocabulary := List.mem_append_left _ (List.mem_append_left labels hkind)
  refine agree_word ht hword (fun hstrip hrest => ?_) h
  rw [take_word hstrip tail, take_word hstrip tail']
  exact agree_spaces ht (agree_label ht) hrest

theorem agree_mention {u : Unicode} {before : Option Char} (h : P text) :
    Agree P tail tail' (mentionAt u before (text ++ tail)) (mentionAt u before (text ++ tail')) := by
  rw [mentionAt, mentionAt]
  split_ifs
  · exact .none
  · exact agree_kind ht h

/-! The duration is there before the one tail where it is before the other. -/

theorem isSome_spacesAt {find : List (ℕ × List Char) → List Char → Option View}
    (hfind : ∀ {text}, P text →
      (find groups (text ++ tail)).isSome = (find groups (text ++ tail')).isSome)
    (h : P text) : (spacesAt find groups (text ++ tail)).isSome =
      (spacesAt find groups (text ++ tail')).isSome := by
  have hhead : (text ++ tail).head?.any isSpace = (text ++ tail').head?.any isSpace := by
    cases text with
    | cons c text => rfl
    | nil =>
      have hempty := ht.empty h
      have hbreaks := ht.breaks
      have hbreaks' := ht.breaks'
      cases tail with
      | nil =>
        cases tail' with
        | nil => rfl
        | cons => cases hempty
      | cons c tail =>
        cases tail' with
        | nil => cases hempty
        | cons d tail' => exact hbreaks.cons.trans hbreaks'.cons.symm
  rw [spacesAt_eq, spacesAt_eq, hhead]
  split_ifs
  · obtain ⟨hrest, htails⟩ := ht.spaces h
    rw [List.dropWhile_append, List.dropWhile_append]
    cases hdrop : text.dropWhile isSpace with
    | nil => rw [List.isEmpty_nil, if_pos rfl, if_pos rfl, htails hdrop]
    | cons c rest =>
      rw [hdrop] at hrest
      exact hfind hrest
  · rfl

theorem isSome_businessAt {u : Unicode} (h : P text) :
    (businessAt u groups (text ++ tail)).isSome = (businessAt u groups (text ++ tail')).isSome := by
  have hunit (text : List Char) :
      (unitAt u groups (text ++ tail)).isSome = (unitAt u groups (text ++ tail')).isSome := by
    rw [isSome_unitAt ht.breaks, isSome_unitAt ht.breaks']
  have hlower := vocabulary_lower "business".toList (by decide)
  rw [businessAt, businessAt, Option.isSome_or, Option.isSome_or, hunit,
    stripText_append hlower ht.breaks u, stripText_append hlower ht.breaks' u]
  cases hstrip : stripText "business".toList text with
  | none => rfl
  | some rest =>
    have hrest := ht.word h (by decide) hstrip
    have hspaces : (spacesAt (unitAt u) groups (rest ++ tail)).isSome =
        (spacesAt (unitAt u) groups (rest ++ tail')).isSome :=
      isSome_spacesAt ht (fun {text} _ => hunit text) hrest
    exact congrArg (· || _) hspaces

theorem isSome_durationAt {u : Unicode} (h : P text) :
    (durationAt u (text ++ tail)).isSome = (durationAt u (text ++ tail')).isSome :=
  isSome_spacesAt ht (isSome_businessAt ht) h

theorem conflictsAt_inside {u : Unicode} {orderContext : OrderContext}
    (h : P text ∨ text = [] ∧ Worded groups) :
    conflictsAt u orderContext (groups, text ++ tail) =
      conflictsAt u orderContext (groups, text ++ tail') := by
  refine conflictsAt_congr fun hdigits => ?_
  rcases h with hinside | ⟨-, hworded⟩
  · exact isSome_durationAt ht hinside
  · rw [not_isDigits hworded] at hdigits
    cases hdigits

/-! The whole of a text before a tail. -/

section

variable {u : Unicode} {orderContext : OrderContext} {tail tail' : List Char}

omit ht

theorem mentionAt_shorter {before : Option Char} {text : List Char} {found : View}
    (h : mentionAt u before text = some found) : found.2.length < text.length := by
  obtain ⟨lead, value, more, htext, hne, -⟩ := mentionAt_value h
  have hpos := List.length_pos_iff.mpr hne
  rw [htext, List.length_append, List.length_append]
  omega

theorem clean_dropWhile (text : List Char) :
    clean u orderContext none text = clean u orderContext none (text.dropWhile isSpace) := by
  have hspaces : clean u orderContext none (text.takeWhile isSpace ++ text.dropWhile isSpace) =
      clean u orderContext none (text.dropWhile isSpace) :=
    clean_spaces fun c hc => List.mem_takeWhile_imp hc
  rwa [List.takeWhile_append_dropWhile] at hspaces

/-- White space between a text and what follows it: how much does not matter. -/
theorem clean_tail_spaces {c d : Char} {rest rest' : List Char} (hc : isSpace c = true)
    (hd : isSpace d = true) (hsame : rest.dropWhile isSpace = rest'.dropWhile isSpace)
    (before : Option Char) (text : List Char) :
    clean u orderContext before (text ++ c :: rest) =
      clean u orderContext before (text ++ d :: rest') := by
  have hdrop : (c :: rest).dropWhile isSpace = (d :: rest').dropWhile isSpace := by
    rw [List.dropWhile_cons, if_pos hc, List.dropWhile_cons, if_pos hd, hsame]
  have ht : Tails (fun _ => True) (c :: rest) (d :: rest') := {
    breaks := fun _ h => Option.some.inj h ▸ hc
    breaks' := fun _ h => Option.some.inj h ▸ hd
    empty := fun _ => rfl
    spaces := fun _ => ⟨trivial, fun _ => hdrop⟩
    mark := fun _ _ => trivial
    word := fun _ _ _ => trivial
    value := fun _ => .inl trivial }
  induction hn : text.length using Nat.strong_induction_on generalizing before text with
  | _ n ih =>
    cases text with
    | nil =>
      show clean u orderContext before (c :: rest) = clean u orderContext before (d :: rest')
      rw [clean_space hc, clean_space hd, clean_dropWhile rest, hsame, ← clean_dropWhile]
    | cons x text =>
      have hagree : Agree (fun _ => True) (c :: rest) (d :: rest')
          (mentionAt u before (x :: text ++ c :: rest))
          (mentionAt u before (x :: text ++ d :: rest')) := agree_mention ht trivial
      generalize hfound : mentionAt u before (x :: text ++ c :: rest) = found at hagree
      generalize hfound' : mentionAt u before (x :: text ++ d :: rest') = found' at hagree
      cases hagree with
      | none =>
        rw [List.cons_append] at hfound hfound' ⊢
        rw [List.cons_append, clean_none hfound, clean_none hfound']
        exact ih text.length (hn ▸ Nat.lt_succ_self _) (some x) text rfl
      | same found => rw [clean_mention hfound, clean_mention hfound']
      | @inside groups text' h =>
        have hshorter := mentionAt_shorter hfound
        rw [List.length_append, List.length_append] at hshorter
        rw [clean_mention hfound, clean_mention hfound', conflictsAt_inside ht h]
        exact congrArg (_ && ·) (ih text'.length (hn ▸ Nat.lt_of_add_lt_add_right hshorter) _ text' rfl)

theorem clean_breaks (h : Breaks tail) (before : Option Char) :
    clean u orderContext before tail = clean u orderContext none tail := by
  cases tail with
  | nil => rfl
  | cons c tail => rw [clean_space h.cons, clean_space h.cons]

/-- A text after which the reading stops, before a text that goes on with white space. -/
theorem clean_append {P : List Char → Prop} (ht : Tails P tail [])
    (hnext : ∀ {c text}, P (c :: text) → P text ∨ text = [] ∨
      clean u orderContext (some c) (text ++ tail) =
        (clean u orderContext (some c) text && clean u orderContext none tail))
    (before : Option Char) {text : List Char} (h : P text) :
    clean u orderContext before (text ++ tail) =
      (clean u orderContext before text && clean u orderContext none tail) := by
  induction hn : text.length using Nat.strong_induction_on generalizing before text with
  | _ n ih =>
    have hnil (before : Option Char) : clean u orderContext before ([] ++ tail) =
        (clean u orderContext before [] && clean u orderContext none tail) :=
      clean_breaks ht.breaks before
    cases text with
    | nil => exact hnil before
    | cons x text =>
      have hagree : Agree P tail [] (mentionAt u before (x :: text ++ tail))
          (mentionAt u before (x :: text ++ [])) := agree_mention ht h
      generalize hfound : mentionAt u before (x :: text ++ tail) = found at hagree
      generalize hfound' : mentionAt u before (x :: text ++ []) = found' at hagree
      rw [List.append_nil] at hfound'
      cases hagree with
      | none =>
        rw [List.cons_append] at hfound ⊢
        rw [clean_none hfound, clean_none hfound']
        rcases hnext h with hinside | rfl | hstop
        · exact ih text.length (hn ▸ Nat.lt_succ_self _) (some x) hinside rfl
        · exact hnil (some x)
        · exact hstop
      | same found hspaces =>
        have htail : clean u orderContext none tail = true := by
          rw [clean_dropWhile, hspaces]
          rfl
        rw [clean_mention hfound, clean_mention hfound', htail, Bool.and_true]
      | @inside groups text' h' =>
        rw [List.append_nil] at hfound'
        have hshorter := mentionAt_shorter hfound'
        have hconflicts : conflictsAt u orderContext (groups, text' ++ tail) =
            conflictsAt u orderContext (groups, text' ++ []) := conflictsAt_inside ht h'
        rw [List.append_nil] at hconflicts
        rw [clean_mention hfound, clean_mention hfound', hconflicts, Bool.and_assoc]
        refine congrArg (Bool.and _) ?_
        rcases h' with hinside | ⟨rfl, -⟩
        · exact ih text'.length (hn ▸ hshorter) _ hinside rfl
        · exact hnil _

/-! A sentence that has ended. -/

def EndsSentence (text : List Char) : Prop := ∃ c ∈ text.getLast?, isSentenceEnd c = true

theorem EndsSentence.append {text rest : List Char} (h : EndsSentence (text ++ rest))
    (htext : ∀ c ∈ text, isSentenceEnd c = false) : EndsSentence rest := by
  obtain ⟨c, hc, hend⟩ := h
  rw [List.getLast?_append] at hc
  cases hrest : rest.getLast? with
  | some d =>
    rw [hrest] at hc
    exact ⟨c, hrest ▸ hc, hend⟩
  | none =>
    rw [hrest] at hc
    rw [htext c (List.mem_of_getLast? hc)] at hend
    cases hend

/-- A sentence end is nothing that a mention is read past. -/
theorem isSentenceEnd_spec {c : Char} (h : isSentenceEnd c = true) :
    isSpace c = false ∧ fold c ∉ marks ++ quotes ∧ (fold c).isLower = false ∧ c.toNat < 0x80 ∧
      c.isDigit = false ∧ c.isAlphanum = false ∧ c ≠ '_' := by
  have hall : ∀ c ∈ ['.', '!', '?'], isSpace c = false ∧ fold c ∉ marks ++ quotes ∧
      (fold c).isLower = false ∧ c.toNat < 0x80 ∧ c.isDigit = false ∧ c.isAlphanum = false ∧
      c ≠ '_' := by decide
  exact hall c (of_decide_eq_true h)

theorem stripText_consumed {word text rest : List Char} (h : stripText word text = some rest) :
    ∃ used, text = used ++ rest ∧ used.map fold = word := by
  induction word generalizing text with
  | nil => exact ⟨[], Option.some.inj h, rfl⟩
  | cons d word ih =>
    cases text with
    | nil => cases h
    | cons c text =>
      rw [stripText] at h
      split_ifs at h with hc
      obtain ⟨used, rfl, hused⟩ := ih h
      exact ⟨c :: used, rfl, by rw [List.map_cons, hc, hused]⟩

theorem tails_sentence (h : Breaks tail) : Tails EndsSentence tail [] where
  breaks := h
  breaks' := fun _ hc => nomatch hc
  empty := fun ⟨_, hc, _⟩ => nomatch hc
  spaces := by
    intro text htext
    have hrest : EndsSentence (text.dropWhile isSpace) := by
      rw [← text.takeWhile_append_dropWhile (p := isSpace)] at htext
      refine htext.append fun c hc => Bool.eq_false_iff.mpr fun hend => ?_
      have hspace := List.mem_takeWhile_imp hc
      rw [(isSentenceEnd_spec hend).1] at hspace
      cases hspace
    refine ⟨hrest, fun hnil => ?_⟩
    rw [hnil] at hrest
    obtain ⟨c, hc, -⟩ := hrest
    cases hc
  mark := by
    intro c text htext hmark
    have hrest : ∀ d ∈ [c], isSentenceEnd d = false := fun d hd =>
      Bool.eq_false_iff.mpr fun hend =>
        (isSentenceEnd_spec hend).2.1 (List.mem_singleton.mp hd ▸ hmark)
    exact EndsSentence.append htext hrest
  word := by
    intro word text rest htext hword hstrip
    obtain ⟨used, rfl, rfl⟩ := stripText_consumed hstrip
    refine htext.append fun c hc => Bool.eq_false_iff.mpr fun hend => ?_
    have hlower := vocabulary_lower _ hword (fold c) (List.mem_map_of_mem hc)
    rw [(isSentenceEnd_spec hend).2.2.1] at hlower
    cases hlower
  value := by
    intro text htext
    have hparts := text.takeWhile_append_dropWhile (p := isValue)
    obtain ⟨c, hc, hend⟩ := htext
    rw [← hparts, List.getLast?_append] at hc
    cases hrest : (text.dropWhile isValue).getLast? with
    | some d =>
      rw [hrest] at hc
      exact .inl ⟨c, hrest ▸ hc, hend⟩
    | none =>
      rw [hrest] at hc
      have hspec := isSentenceEnd_spec hend
      exact .inr ⟨List.getLast?_eq_none_iff.mp hrest, c, List.mem_of_getLast? hc,
        hspec.2.2.2.1, hspec.2.2.2.2.1⟩

theorem EndsSentence.of_cons {c : Char} {text : List Char} (h : EndsSentence (c :: text)) :
    EndsSentence text ∨ text = [] := by
  obtain ⟨d, hd, hend⟩ := h
  cases text with
  | nil => exact .inr rfl
  | cons x text => exact .inl ⟨d, by rwa [List.getLast?_cons_cons] at hd, hend⟩

/-- No mention goes on over the end of a sentence. -/
theorem clean_sentence (h : Breaks tail) (before : Option Char) {text : List Char}
    (htext : EndsSentence text) : clean u orderContext before (text ++ tail) =
      (clean u orderContext before text && clean u orderContext none tail) :=
  clean_append (tails_sentence h) (fun h => h.of_cons.imp_right .inl) before htext

/-! Text in which no mention begins. -/

/-- A letter of the word is another in the text. -/
def differs : List Char → List Char → Bool
  | d :: word, c :: text => fold c ≠ d || differs word text
  | _, _ => false

def bare : List Char → Bool
  | [] => true
  | c :: text => kinds.all (differs · (c :: text)) && bare text

theorem stripWord_differs {isWord : Char → Bool} {word text : List Char}
    (h : differs word text = true) (tail : List Char) :
    stripWord isWord word (text ++ tail) = none := by
  induction word generalizing text with
  | nil => cases text <;> cases h
  | cons d word ih =>
    cases text with
    | nil => cases h
    | cons c text =>
      show (if fold c = d then _ else none) = none
      split_ifs with hc
      · simp only [differs, hc, ne_eq, not_true, decide_false, Bool.false_or] at h
        exact ih h
      · rfl

theorem clean_bare {text : List Char} (h : bare text = true) (before : Option Char)
    (tail : List Char) : clean u orderContext before (text ++ tail) =
      clean u orderContext (text.getLast?.or before) tail := by
  induction text generalizing before with
  | nil => rfl
  | cons c text ih =>
    rw [bare, Bool.and_eq_true, List.all_eq_true] at h
    have hnone : mentionAt u before (c :: (text ++ tail)) = none := by
      have hkind : kindAt u (c :: text ++ tail) = none := firstOf_eq_none fun kind hkind => by
        rw [stripWord_differs (h.1 kind hkind)]
        rfl
      rw [mentionAt, ← List.cons_append, hkind]
      exact ite_self none
    rw [List.cons_append, clean_none hnone, ih h.2, last_cons]

theorem differs_append {word text : List Char} (h : differs word text = true) (more : List Char) :
    differs word (text ++ more) = true := by
  induction word generalizing text with
  | nil => cases text <;> cases h
  | cons d word ih =>
    cases text with
    | nil => cases h
    | cons c text =>
      rw [differs, Bool.or_eq_true] at h
      rw [List.cons_append, differs, Bool.or_eq_true]
      exact h.imp_right ih

theorem bare_append {text more : List Char} (h : bare text = true) (h' : bare more = true) :
    bare (text ++ more) = true := by
  induction text with
  | nil => exact h'
  | cons c text ih =>
    rw [bare, Bool.and_eq_true, List.all_eq_true] at h
    rw [List.cons_append, bare, Bool.and_eq_true, List.all_eq_true]
    exact ⟨fun kind hkind => differs_append (h.1 kind hkind) more, ih h.2⟩

theorem differs_fold {text text' : List Char} (h : text.map fold = text'.map fold)
    (word : List Char) : differs word text = differs word text' := by
  induction word generalizing text text' with
  | nil => rw [differs, differs] <;> exact nofun
  | cons d word ih =>
    cases text with
    | nil =>
      cases text' with
      | nil => rfl
      | cons => cases h
    | cons c text =>
      cases text' with
      | nil => cases h
      | cons c' text' =>
        obtain ⟨hc, htext⟩ := List.cons.inj h
        rw [differs, differs, hc, ih htext]

theorem bare_fold {text text' : List Char} (h : text.map fold = text'.map fold) :
    bare text = bare text' := by
  induction text generalizing text' with
  | nil =>
    cases text' with
    | nil => rfl
    | cons => cases h
  | cons c text ih =>
    cases text' with
    | nil => cases h
    | cons c' text' =>
      obtain ⟨-, htext⟩ := List.cons.inj h
      have hdiffers : (differs · (c :: text)) = (differs · (c' :: text')) :=
        funext fun word => differs_fold h word
      rw [bare, bare, hdiffers, ih htext]

/-- No kind begins with any of these. -/
theorem bare_of_all {text : List Char} (h : ∀ c ∈ text, fold c ∉ ['o', 'i']) :
    bare text = true := by
  induction text with
  | nil => rfl
  | cons c text ih =>
    have hc := h c List.mem_cons_self
    rw [bare, Bool.and_eq_true, List.all_eq_true]
    refine ⟨fun kind hkind => ?_, ih fun d hd => h d (List.mem_cons_of_mem c hd)⟩
    have hheads : ∀ kind ∈ kinds, kind.head? ∈ ['o', 'i'].map some := by decide
    obtain ⟨d, hd, hhead⟩ := List.mem_map.mp (hheads kind hkind)
    cases kind with
    | nil => cases hhead
    | cons x kind =>
      obtain rfl := Option.some.inj hhead
      have hne : fold c ≠ d := fun heq => hc (heq ▸ hd)
      rw [differs, decide_eq_true hne, Bool.true_or]

end

end CSO.AgentRuntime
