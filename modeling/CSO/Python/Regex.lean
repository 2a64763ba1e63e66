import Mathlib

/-! Regular expressions of Python's `re` under `IGNORECASE`: backtracking, greedy, leftmost first. -/
namespace CSO.Python

/-- The lower case under which `IGNORECASE` compares: of the ASCII letters, and of the four others
that it takes for one (I with a dot, dotless i, long s, the Kelvin sign). -/
def fold (c : Char) : Char :=
  match c with
  | '\u0130' | '\u0131' => 'i'
  | '\u017F' => 's'
  | '\u212A' => 'k'
  | c => if c.isUpper then c.toLower else c

/-- What holds of the characters of a text is decided along the text. -/
instance (priority := high) decidableChars (p : Char → Prop) [DecidablePred p]
    (text : List Char) : Decidable (∀ c ∈ text, p c) := List.decidableBAll p text

/-- `str.isspace` -/
def isSpace (c : Char) : Bool :=
  let n := c.toNat
  (9 ≤ n && n ≤ 13) || (0x1C ≤ n && n ≤ 0x20) || n == 0x85 || n == 0xA0 || n == 0x1680 ||
    (0x2000 ≤ n && n ≤ 0x200A) || n == 0x2028 || n == 0x2029 || n == 0x202F || n == 0x205F ||
    n == 0x3000

inductive Regex
  | empty
  | set (p : Char → Bool)
  | seq (first second : Regex)
  | alt (first second : Regex)
  | star (body : Regex)
  | group (number : ℕ) (body : Regex)
  | boundary
  | atStart
  | atEnd
  | behind (p : Char → Bool)
  | notBehind (p : Char → Bool)
  | ahead (body : Regex)
  | notAhead (body : Regex)

/-- Where a match stands: the character before, the text after, the groups so far. -/
structure Cursor where
  before : Option Char
  rest : List Char
  groups : List (ℕ × List Char)
  deriving DecidableEq, Repr

namespace Cursor

def group (s : Cursor) (number : ℕ) : Option (List Char) :=
  (s.groups.find? fun entry => entry.1 = number).map Prod.snd

/-- `later` has read on from `s`. -/
def consumed (s later : Cursor) : List Char := s.rest.take (s.rest.length - later.rest.length)

end Cursor

namespace Regex

/-- Between a word character and one that is none. -/
def isBoundary (isWord : Char → Bool) (s : Cursor) : Bool :=
  s.before.any isWord != s.rest.head?.any isWord

/-- As often as the body reads on, at most `fuel` times, then the continuation. -/
def repeated (step : Cursor → (Cursor → Option Cursor) → Option Cursor)
    (k : Cursor → Option Cursor) : ℕ → Cursor → Option Cursor
  | 0, s => k s
  | fuel + 1, s =>
    (step s fun t => if t.rest.length < s.rest.length then repeated step k fuel t else none).or
      (k s)

/-- The first way to match that the continuation accepts. -/
def exec (isWord : Char → Bool) : Regex → Cursor → (Cursor → Option Cursor) → Option Cursor
  | empty, s, k => k s
  | set p, s, k =>
    match s.rest with
    | [] => none
    | c :: rest => if p c then k { s with before := some c, rest } else none
  | seq first second, s, k => first.exec isWord s fun t => second.exec isWord t k
  | alt first second, s, k => (first.exec isWord s k).or (second.exec isWord s k)
  | star body, s, k => repeated (body.exec isWord) k s.rest.length s
  | group number body, s, k =>
    body.exec isWord s fun t => k { t with groups := (number, s.consumed t) :: t.groups }
  | boundary, s, k => if isBoundary isWord s then k s else none
  | atStart, s, k => if s.before = none then k s else none
  | atEnd, s, k => if s.rest = [] then k s else none
  | behind p, s, k => if s.before.any p then k s else none
  | notBehind p, s, k => if s.before.any p then none else k s
  | ahead body, s, k => if (body.exec isWord s some).isSome then k s else none
  | notAhead body, s, k => if (body.exec isWord s some).isSome then none else k s

/-! What the patterns are written with. -/

/-- A character of a pattern, in lower case. -/
def chr (c : Char) : Regex := set fun x => fold x = c

def text : List Char → Regex
  | [] => empty
  | c :: cs => seq (chr c) (text cs)

def lit (s : String) : Regex := text s.toList

def cat : List Regex → Regex
  | [] => empty
  | [r] => r
  | r :: rs => seq r (cat rs)

def oneOf : List Regex → Regex
  | [] => notAhead empty
  | [r] => r
  | r :: rs => alt r (oneOf rs)

def words (ws : List String) : Regex := oneOf (ws.map lit)

def opt (r : Regex) : Regex := alt r empty

/-- Words that may end in an s. -/
def plurals (ws : List String) : Regex := oneOf (ws.map fun w => seq (lit w) (opt (chr 's')))

def plus (r : Regex) : Regex := seq r (star r)

def upTo (r : Regex) : ℕ → Regex
  | 0 => empty
  | n + 1 => opt (seq r (upTo r n))

/-- `\s` -/
def space : Regex := set isSpace

/-- `\s*` -/
def spaces : Regex := star space

/-- Words with white space between. -/
def phrase (ws : List String) : Regex := cat ((ws.map lit).intersperse (plus space))

/-- A phrase and the white space after it, or nothing. -/
def optPhrase (r : Regex) : Regex := opt (seq r (plus space))

/-- `.` -/
def any : Regex := set (· ≠ '\n')

/-- `[...]`, its letters in lower case -/
def chars (members : String) : Regex := set fun x => fold x ∈ members.toList

/-- `[^...]`, without letters -/
def notChars (members : String) : Regex := set fun x => x ∉ members.toList

def isAlnum (x : Char) : Bool := (fold x).isLower || x.isDigit

/-- `[A-Za-z0-9]` -/
def alnum : Regex := set isAlnum

/-! Matching and searching. No pattern here matches the empty text where it is searched for. -/

variable (isWord : Char → Bool) (r : Regex)

/-- `r.match` at a place of a text. -/
def matchAt (before : Option Char) (text : List Char) : Option Cursor :=
  r.exec isWord ⟨before, text, []⟩ some

/-- The matches of a text from a place on, after `skip` characters that belong to the last. -/
def finditerFrom : ℕ → Option Char → List Char → List Cursor
  | _, _, [] => []
  | skip + 1, _, c :: text => finditerFrom skip (some c) text
  | 0, before, c :: text =>
    match r.matchAt isWord before (c :: text) with
    | none => finditerFrom 0 (some c) text
    | some m => m :: finditerFrom (text.length - m.rest.length) (some c) text

def finditer (text : List Char) : List Cursor := r.finditerFrom isWord 0 none text

/-- `r.search` -/
def search (text : List Char) : Bool := !(r.finditer isWord text).isEmpty

/-- `r.sub`, from a place on: `replace` stands for every match. -/
def subFrom (replace : List Char → Cursor → List Char) :
    ℕ → Option Char → List Char → List Char
  | _, _, [] => []
  | skip + 1, _, c :: text => subFrom replace skip (some c) text
  | 0, before, c :: text =>
    match r.matchAt isWord before (c :: text) with
    | none => c :: subFrom replace 0 (some c) text
    | some m => replace ((c :: text).take (text.length + 1 - m.rest.length)) m ++
        subFrom replace (text.length - m.rest.length) (some c) text

def sub (replace : List Char → Cursor → List Char) (text : List Char) : List Char :=
  r.subFrom isWord replace 0 none text

/-- `r.split` with the separators: the first piece, and every separator with the piece after. -/
def splitFrom : ℕ → Option Char → List Char → List Char × List (List Char × List Char)
  | _, _, [] => ([], [])
  | skip + 1, _, c :: text => splitFrom skip (some c) text
  | 0, before, c :: text =>
    match r.matchAt isWord before (c :: text) with
    | none =>
      let (piece, more) := splitFrom 0 (some c) text
      (c :: piece, more)
    | some m =>
      let (piece, more) := splitFrom (text.length - m.rest.length) (some c) text
      ([], ((c :: text).take (text.length + 1 - m.rest.length), piece) :: more)

def split (text : List Char) : List Char × List (List Char × List Char) :=
  r.splitFrom isWord 0 none text

end Regex

/-- What Python knows of Unicode: `\w`, `str.isdigit`, `\d` with its value, the category Sc,
`str.casefold` and NFKC, with what the code relies on. -/
structure Unicode where
  isWord : Char → Bool
  isDigit : Char → Bool
  decimal : Char → Option ℕ
  isCurrency : Char → Bool
  casefoldChar : Char → List Char
  nfkc : List Char → List Char
  word_ascii : ∀ c, c.toNat < 0x80 → isWord c = (c.isAlphanum || c == '_')
  word_letter : ∀ c, (fold c).isLower = true → isWord c = true
  word_space : ∀ c, isSpace c = true → isWord c = false
  digit_ascii : ∀ c, c.toNat < 0x80 → isDigit c = c.isDigit
  casefold_ascii : ∀ c, c.toNat < 0x80 → casefoldChar c = [c.toLower]
  nfkc_nfkc : ∀ text, nfkc (nfkc text) = nfkc text
  /-- ASCII text that ends in a blank composes with nothing around it. -/
  nfkc_insert : ∀ before inserted after, nfkc (before ++ after) = before ++ after →
    (∀ c ∈ inserted, c.toNat < 0x80) → inserted.getLast? = some ' ' →
    nfkc (before ++ inserted ++ after) = before ++ inserted ++ after

namespace Unicode

variable (u : Unicode)

/-- `str.casefold` -/
def casefold (text : List Char) : List Char := text.flatMap u.casefoldChar

/-- `\d` -/
def digit : Regex := .set fun c => (u.decimal c).isSome

/-- `int` of decimal digits. -/
def int (digits : List Char) : ℕ :=
  digits.foldl (fun n c => 10 * n + (u.decimal c).getD 0) 0

end Unicode

/-- `str.strip` -/
def strip (text : List Char) : List Char :=
  ((text.dropWhile isSpace).reverse.dropWhile isSpace).reverse

end CSO.Python
