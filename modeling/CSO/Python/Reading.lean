import CSO.Python.Regex
import Mathlib.Data.List.TakeWhile

/-! What a pattern finds, as a function of the text. -/
namespace CSO.Python.Regex

/-- What a match shows: its groups and the text after. -/
abbrev View := List (ℕ × List Char) × List Char

def view (found : Option Cursor) : Option View := found.map fun s => (s.groups, s.rest)

/-- What a continuation finds is a matter of the groups and of the text that is left. -/
def Reads (k : Cursor → Option Cursor) (f : List (ℕ × List Char) → List Char → Option View) :
    Prop := ∀ s, view (k s) = f s.groups s.rest

variable {isWord : Char → Bool} {k : Cursor → Option Cursor}
  {f h : List (ℕ × List Char) → List Char → Option View} {p : Char → Bool}

theorem view_or (a b : Option Cursor) : view (a.or b) = (view a).or (view b) := by
  cases a <;> rfl

theorem reads_some : Reads some fun groups text => some (groups, text) := fun _ => rfl

theorem Reads.opt {r : Regex} (hr : Reads (fun s => r.exec isWord s k) h) (hk : Reads k f) :
    Reads (fun s => (Regex.opt r).exec isWord s k) fun groups text =>
      (h groups text).or (f groups text) := by
  intro s
  show view ((r.exec isWord s k).or (k s)) = _
  rw [view_or, hr s, hk s]

theorem Reads.set (hk : Reads k f) (isWord p : Char → Bool) :
    Reads (fun s => (Regex.set p).exec isWord s k)
    fun groups text => match text with
      | [] => none
      | c :: rest => if p c then f groups rest else none := by
  rintro ⟨before, text, groups⟩
  cases text with
  | nil => rfl
  | cons c rest =>
    show view (if p c then k _ else none) = if p c then f groups rest else none
    split_ifs
    · exact hk _
    · rfl

theorem Reads.congr (hk : Reads k f) (h' : ∀ groups text, f groups text = h groups text) :
    Reads k h := fun s => (hk s).trans (h' _ _)

/-- Where the continuation fails on less it fails on more: repetition takes all it can. -/
def Blind (p : Char → Bool) (f : List (ℕ × List Char) → List Char → Option View) : Prop :=
  ∀ groups c text, p c = true → f groups text = none → f groups (c :: text) = none

theorem Blind.of_dropWhile (hf : Blind p f) {groups : List (ℕ × List Char)} {text : List Char}
    (hnone : f groups (text.dropWhile p) = none) : f groups text = none := by
  induction text with
  | nil => exact hnone
  | cons c text ih =>
    rw [List.dropWhile_cons] at hnone
    split_ifs at hnone with hc
    · exact hf groups c text hc (ih hnone)
    · exact hnone

theorem view_repeated (hk : Reads k f) (hf : Blind p f) (n : ℕ) (s : Cursor)
    (hn : s.rest.length ≤ n) :
    view (repeated ((Regex.set p).exec isWord) k n s) = f s.groups (s.rest.dropWhile p) := by
  induction n generalizing s with
  | zero =>
    have hempty : s.rest = [] := List.length_eq_zero_iff.mp (Nat.le_zero.mp hn)
    rw [hempty]
    have hread := hk s
    rwa [hempty] at hread
  | succ n ih =>
    obtain ⟨before, text, groups⟩ := s
    have hread := hk ⟨before, text, groups⟩
    cases text with
    | nil => exact hread
    | cons c text =>
      rw [repeated, view_or, List.dropWhile_cons, hread]
      cases hc : p c with
      | false =>
        have hstop : (Regex.set p).exec isWord ⟨before, c :: text, groups⟩ (fun t =>
            if t.rest.length < (c :: text).length then
              repeated ((Regex.set p).exec isWord) k n t else none) = none := by
          simp only [exec, hc, Bool.false_eq_true, if_false]
        rw [hstop]
        rfl
      | true =>
        have hgo : (Regex.set p).exec isWord ⟨before, c :: text, groups⟩ (fun t =>
            if t.rest.length < (c :: text).length then
              repeated ((Regex.set p).exec isWord) k n t else none) =
            repeated ((Regex.set p).exec isWord) k n ⟨some c, text, groups⟩ := by
          simp only [exec, hc, if_true, List.length_cons, Nat.lt_succ_self]
        rw [hgo, ih _ (Nat.le_of_succ_le_succ hn), if_pos rfl]
        cases hrest : f groups (text.dropWhile p) with
        | some found => rw [Option.some_or]
        | none => rw [Option.none_or, hf groups c text hc (hf.of_dropWhile hrest)]

theorem Reads.star (hk : Reads k f) (hf : Blind p f) :
    Reads (fun s => (Regex.star (.set p)).exec isWord s k) fun groups text =>
      f groups (text.dropWhile p) := fun s => view_repeated hk hf _ s le_rfl

/-- The text after some letters at its head. -/
def stripText : List Char → List Char → Option (List Char)
  | [], rest => some rest
  | c :: word, x :: rest => if fold x = c then stripText word rest else none
  | _ :: _, [] => none

theorem Reads.letters (hk : Reads k f) (word : List Char) :
    Reads (fun s => (Regex.text word).exec isWord s k) fun groups text =>
      (stripText word text).bind (f groups) := by
  induction word with
  | nil => exact hk
  | cons c word ih =>
    intro s
    obtain ⟨before, rest, groups⟩ := s
    cases rest with
    | nil => rfl
    | cons x rest =>
      show _ = (if fold x = c then stripText word rest else none).bind (f groups)
      by_cases hx : fold x = c
      · rw [if_pos hx]
        refine Eq.trans ?_ (ih ⟨some x, rest, groups⟩)
        simp only [Regex.text, exec, chr, hx, decide_true, if_true]
      · rw [if_neg hx]
        simp only [Regex.text, exec, chr, hx, decide_false, Bool.false_eq_true, if_false]
        rfl

/-- The text after a word at its head, where the word ends there. -/
def stripWord (isWord : Char → Bool) : List Char → List Char → Option (List Char)
  | [], rest => if rest.head?.any isWord then none else some rest
  | c :: word, x :: rest => if fold x = c then stripWord isWord word rest else none
  | _ :: _, [] => none

theorem stripWord_eq_some {word text rest : List Char} (h : stripWord isWord word text = some rest) :
    rest = text.drop word.length ∧ word.length ≤ text.length := by
  induction word generalizing text with
  | nil =>
    rw [stripWord] at h
    split_ifs at h
    cases h
    exact ⟨rfl, Nat.zero_le _⟩
  | cons c word ih =>
    cases text with
    | nil => cases h
    | cons x text =>
      rw [stripWord] at h
      split_ifs at h
      obtain ⟨hrest, hle⟩ := ih h
      exact ⟨hrest, Nat.succ_le_succ hle⟩

/-- Letters up to a boundary. The character before them is a letter, too. -/
theorem view_word (hletter : ∀ c, (fold c).isLower = true → isWord c = true) (hk : Reads k f)
    (word : List Char) (hword : ∀ c ∈ word, c.isLower = true) (s : Cursor)
    (hs : word = [] → s.before.any isWord = true) :
    view ((text word).exec isWord s fun t => boundary.exec isWord t k) =
      (stripWord isWord word s.rest).bind (f s.groups) := by
  induction word generalizing s with
  | nil =>
    show view (if isBoundary isWord s then k s else none) = _
    rw [isBoundary, hs rfl, stripWord]
    cases s.rest.head?.any isWord with
    | false => exact hk s
    | true => rfl
  | cons c word ih =>
    obtain ⟨before, rest, groups⟩ := s
    cases rest with
    | nil => rfl
    | cons x rest =>
      rw [stripWord]
      by_cases hx : fold x = c
      · have hlower : (fold x).isLower = true := hx ▸ hword c List.mem_cons_self
        have hrest := ih (fun d hd => hword d (List.mem_cons_of_mem c hd)) ⟨some x, rest, groups⟩
          (fun _ => hletter x hlower)
        rw [if_pos hx, ← hrest]
        simp only [text, exec, chr, hx, decide_true, if_true]
      · rw [if_neg hx]
        simp only [text, exec, chr, hx, decide_false, Bool.false_eq_true, if_false]
        rfl

theorem Reads.word (hletter : ∀ c, (fold c).isLower = true → isWord c = true) (hk : Reads k f)
    {word : List Char} (hword : ∀ c ∈ word, c.isLower = true) (hne : word ≠ []) :
    Reads (fun s => (text word).exec isWord s fun t => boundary.exec isWord t k)
      fun groups text => (stripWord isWord word text).bind (f groups) :=
  fun s => view_word hletter hk word hword s fun h => absurd h hne

/-- A continuation that notes a group first. -/
theorem Reads.note (hk : Reads k f) (number : ℕ) (s : Cursor) :
    Reads (fun t => k { t with groups := (number, s.consumed t) :: t.groups }) fun groups text =>
      f ((number, s.rest.take (s.rest.length - text.length)) :: groups) text := fun t => hk _

/-- A word that is a group of its own. -/
theorem Reads.wordGroup (hletter : ∀ c, (fold c).isLower = true → isWord c = true)
    (hk : Reads k f) (number : ℕ) {word : List Char} (hword : ∀ c ∈ word, c.isLower = true)
    (hne : word ≠ []) :
    Reads (fun s => (group number (Regex.text word)).exec isWord s fun t => boundary.exec isWord t k)
      fun groups text => (stripWord isWord word text).bind
        (f ((number, text.take word.length) :: groups)) := by
  intro s
  have hread := view_word hletter (hk.note number s) word hword s fun h => absurd h hne
  refine hread.trans ?_
  show _ = (stripWord isWord word s.rest).bind
    (f ((number, s.rest.take word.length) :: s.groups))
  cases hstrip : stripWord isWord word s.rest with
  | none => rfl
  | some rest =>
    obtain ⟨rfl, hle⟩ := stripWord_eq_some hstrip
    rw [Option.bind_some, Option.bind_some, List.length_drop, Nat.sub_sub_self hle]

/-- A word that may end in an s, up to a boundary. -/
theorem view_plural (hletter : ∀ c, (fold c).isLower = true → isWord c = true) (hk : Reads k f)
    {word : List Char} (hword : ∀ c ∈ word, c.isLower = true) (s : Cursor)
    (hs : word = [] → s.before.any isWord = true) :
    view ((seq (text word) (Regex.opt (chr 's'))).exec isWord s fun t => boundary.exec isWord t k) =
      ((stripWord isWord (word ++ ['s']) s.rest).bind (f s.groups)).or
        ((stripWord isWord word s.rest).bind (f s.groups)) := by
  induction word generalizing s with
  | nil =>
    have hplural := view_word hletter hk ['s'] (by decide) s nofun
    have hsingular := view_word hletter hk [] (by decide) s hs
    rw [List.nil_append, ← hplural, ← hsingular, ← view_or]
    rfl
  | cons c word ih =>
    obtain ⟨before, rest, groups⟩ := s
    cases rest with
    | nil => rfl
    | cons x rest =>
      rw [List.cons_append, stripWord, stripWord]
      by_cases hx : fold x = c
      · have hlower : (fold x).isLower = true := hx ▸ hword c List.mem_cons_self
        have hrest := ih (fun d hd => hword d (List.mem_cons_of_mem c hd)) ⟨some x, rest, groups⟩
          (fun _ => hletter x hlower)
        rw [if_pos hx, if_pos hx, ← hrest]
        simp only [text, exec, chr, hx, decide_true, if_true]
      · rw [if_neg hx, if_neg hx]
        simp only [text, exec, chr, hx, decide_false, Bool.false_eq_true, if_false]
        rfl

/-- The first of some words for which something is found. -/
def firstOf (find : List Char → Option View) : List (List Char) → Option View
  | [] => none
  | [word] => find word
  | word :: words => (find word).or (firstOf find words)

theorem firstOf_eq_none {find : List Char → Option View} {words : List (List Char)}
    (hnone : ∀ word ∈ words, find word = none) : firstOf find words = none := by
  induction words with
  | nil => rfl
  | cons word words ih =>
    have hfirst := hnone word List.mem_cons_self
    have hmore := ih fun w hw => hnone w (List.mem_cons_of_mem word hw)
    cases words with
    | nil => exact hfirst
    | cons next words =>
      show (find word).or (firstOf find (next :: words)) = none
      rw [hfirst, hmore]
      rfl

/-- One of some words, a group of its own. -/
theorem Reads.wordsGroup (hletter : ∀ c, (fold c).isLower = true → isWord c = true)
    (hk : Reads k f) (number : ℕ) (words : List (List Char))
    (hwords : ∀ word ∈ words, word ≠ [] ∧ ∀ c ∈ word, c.isLower = true) :
    Reads (fun s => (group number (oneOf (words.map Regex.text))).exec isWord s fun t =>
        boundary.exec isWord t k)
      fun groups text => firstOf (fun word => (stripWord isWord word text).bind
        (f ((number, text.take word.length) :: groups))) words := by
  induction words with
  | nil => exact fun s => rfl
  | cons word words ih =>
    obtain ⟨hne, hword⟩ := hwords word List.mem_cons_self
    have hfirst := hk.wordGroup hletter number hword hne
    have hmore := ih fun w hw => hwords w (List.mem_cons_of_mem word hw)
    cases words with
    | nil => exact hfirst
    | cons next words =>
      intro s
      refine (view_or _ _).trans ?_
      exact congrArg₂ Option.or (hfirst s) (hmore s)

/-- One of some words that may end in an s. -/
theorem Reads.plurals (hletter : ∀ c, (fold c).isLower = true → isWord c = true) (hk : Reads k f)
    {words : List String}
    (hwords : ∀ word ∈ words, word.toList ≠ [] ∧ ∀ c ∈ word.toList, c.isLower = true) :
    Reads (fun s => (Regex.plurals words).exec isWord s fun t => boundary.exec isWord t k)
      fun groups text => firstOf (fun word =>
        ((stripWord isWord (word ++ ['s']) text).bind (f groups)).or
          ((stripWord isWord word text).bind (f groups))) (words.map String.toList) := by
  induction words with
  | nil => exact fun s => rfl
  | cons word words ih =>
    obtain ⟨hne, hword⟩ := hwords word List.mem_cons_self
    have hfirst (s : Cursor) := view_plural hletter hk hword s fun h => absurd h hne
    have hmore := ih fun w hw => hwords w (List.mem_cons_of_mem word hw)
    cases words with
    | nil => exact hfirst
    | cons next words =>
      intro s
      refine (view_or _ _).trans ?_
      exact congrArg₂ Option.or (hfirst s) (hmore s)

end CSO.Python.Regex
