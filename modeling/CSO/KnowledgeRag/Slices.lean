import CSO.JS.Utf8Cuts
import CSO.KnowledgeRag.Chunking
import Mathlib.Data.List.TakeWhile

/-! What the pieces of a long sentence keep of it. -/
namespace CSO.KnowledgeRag
open Python (strip)
open JS

/-- A tokenizer whose tokens are strings of bytes, read back together with replacements. -/
def byteEncoding (encode : Text → List (List UInt8)) : Encoding (List UInt8) where
  encode := encode
  decode tokens := Utf8.decode tokens.flatten

/-- A text without its white space. -/
def inked (text : Text) : Text := text.filter (! Python.isSpace ·)

/-- The pieces are the text again up to white space, none of them is empty, and a text has one. -/
def Preserves (text : Text) (pieces : List Text) : Prop :=
  inked pieces.flatten = inked text ∧ (∀ piece ∈ pieces, piece ≠ []) ∧ (text ≠ [] → pieces ≠ [])

section

variable {τ : Type}

def tokenSlices (tokens : List τ) (tokenBudget : ℕ) : List (List τ) :=
  (List.range ((tokens.length + tokenBudget - 1) / tokenBudget)).map fun i =>
    (tokens.drop (i * tokenBudget)).take tokenBudget

theorem splitByTokenBudget_eq (encoding : Encoding τ) (text : Text) (tokenBudget : ℕ) :
    splitByTokenBudget encoding text tokenBudget =
      (tokenSlices (encoding.encode text) tokenBudget).map fun slice =>
        strip (encoding.decode slice) := by
  rw [splitByTokenBudget, tokenSlices, List.map_map]
  rfl

/-- So many slices are the tokens up to the last of them. -/
theorem flatten_slices (tokens : List τ) (tokenBudget count : ℕ) :
    ((List.range count).map fun i => (tokens.drop (i * tokenBudget)).take tokenBudget).flatten =
      tokens.take (count * tokenBudget) := by
  induction count with
  | zero => rw [Nat.zero_mul, List.take_zero]; rfl
  | succ count ih =>
    rw [List.range_succ, List.map_append, List.flatten_append, ih, List.map_singleton,
      List.flatten_singleton, Nat.succ_mul, List.take_add]

theorem flatten_tokenSlices (tokens : List τ) {tokenBudget : ℕ} (hbudget : 0 < tokenBudget) :
    (tokenSlices tokens tokenBudget).flatten = tokens := by
  have hall : tokens.length ≤
      (tokens.length + tokenBudget - 1) / tokenBudget * tokenBudget := by
    have hmod := Nat.div_add_mod (tokens.length + tokenBudget - 1) tokenBudget
    have hlt := Nat.mod_lt (tokens.length + tokenBudget - 1) hbudget
    rw [Nat.mul_comm] at hmod
    omega
  rw [tokenSlices, flatten_slices, List.take_of_length_le hall]

end

/-! White space at the ends. -/

theorem inked_dropWhile (text : Text) : inked (text.dropWhile Python.isSpace) = inked text := by
  induction text with
  | nil => rfl
  | cons c text ih =>
    by_cases hspace : Python.isSpace c = true
    · rw [List.dropWhile_cons_of_pos hspace, ih, inked, inked, List.filter_cons_of_neg (by simp [hspace])]
    · rw [List.dropWhile_cons_of_neg hspace]

theorem inked_strip (text : Text) : inked (strip text) = inked text := by
  have hreverse : ∀ text : Text, inked text.reverse = (inked text).reverse := fun text =>
    List.filter_reverse
  rw [strip, hreverse, inked_dropWhile, hreverse, List.reverse_reverse, inked_dropWhile]

theorem inked_eq_nil {text : Text} : inked text = [] ↔ ∀ c ∈ text, Python.isSpace c = true := by
  rw [inked, List.filter_eq_nil_iff]
  exact forall₂_congr fun c _ => by simp

theorem strip_eq_nil {text : Text} : strip text = [] ↔ ∀ c ∈ text, Python.isSpace c = true := by
  rw [← inked_eq_nil]
  constructor
  · intro hstrip
    rw [← inked_strip, hstrip]
    rfl
  · intro hinked
    have hdrop : text.dropWhile Python.isSpace = [] :=
      List.dropWhile_eq_nil_iff.mpr (inked_eq_nil.mp hinked)
    rw [strip, hdrop]
    rfl

theorem inked_flatten_strip (texts : List Text) :
    inked (texts.map strip).flatten = inked texts.flatten := by
  induction texts with
  | nil => rfl
  | cons text texts ih =>
    have happend : ∀ a b : Text, inked (a ++ b) = inked a ++ inked b := fun a b =>
      List.filter_append a b
    rw [List.map_cons, List.flatten_cons, List.flatten_cons, happend, happend, ih, inked_strip]

/-! The pieces. -/

section

variable {encode : Text → List (List UInt8)}

/-- Every slice of the tokens holds the bytes of a part of the text that is not blank: no cut falls
within a character. -/
def CutBetweenCharacters (encode : Text → List (List UInt8)) (text : Text) (tokenBudget : ℕ) :
    Prop :=
  ∃ parts : List Text, parts.flatten = text ∧
    parts.map Utf8.encode = (tokenSlices (encode text) tokenBudget).map List.flatten ∧
    ∀ part ∈ parts, ¬∀ c ∈ part, Python.isSpace c = true

theorem pieces_eq (text : Text) (tokenBudget : ℕ) :
    splitByTokenBudget (byteEncoding encode) text tokenBudget =
      (((tokenSlices (encode text) tokenBudget).map List.flatten).map Utf8.decode).map strip := by
  rw [splitByTokenBudget_eq, List.map_map, List.map_map]
  rfl

theorem decode_parts (parts : List Text) : (parts.map Utf8.encode).map Utf8.decode = parts := by
  rw [List.map_map]
  exact (List.map_congr_left fun part _ => Utf8.decode_encode part).trans (List.map_id parts)

/-- The pieces of a sentence keep its text exactly where the budget cuts it between characters, into
parts that are not blank. -/
theorem splitByTokenBudget_preserves_iff (encode : Text → List (List UInt8))
    (hencode : ∀ text, (encode text).flatten = Utf8.encode text) (text : Text) (tokenBudget : ℕ)
    (hbudget : 0 < tokenBudget) :
    Preserves text (splitByTokenBudget (byteEncoding encode) text tokenBudget) ↔
      CutBetweenCharacters encode text tokenBudget := by
  have hslices : ((tokenSlices (encode text) tokenBudget).map List.flatten).flatten =
      Utf8.encode text := by
    rw [← hencode, ← List.flatten_flatten, flatten_tokenSlices _ hbudget]
  rw [pieces_eq]
  constructor
  · rintro ⟨hsame, hpieces, -⟩
    rw [inked_flatten_strip, ← List.flatMap_def] at hsame
    obtain ⟨parts, hparts, hmap⟩ := Utf8.slices_of_filter (by decide) text _ hslices
      (congrArg List.length hsame)
    refine ⟨parts, hparts, hmap, fun part hpart hblank => ?_⟩
    rw [← hmap, decode_parts] at hpieces
    exact hpieces _ (List.mem_map_of_mem hpart) (strip_eq_nil.mpr hblank)
  · rintro ⟨parts, hparts, hmap, hblank⟩
    rw [← hmap, decode_parts]
    refine ⟨by rw [inked_flatten_strip, hparts], fun piece hpiece hempty => ?_, fun htext => ?_⟩
    · obtain ⟨part, hpart, rfl⟩ := List.mem_map.mp hpiece
      exact hblank part hpart (strip_eq_nil.mp hempty)
    · intro hnone
      rw [List.map_eq_nil_iff.mp hnone] at hparts
      exact htext hparts.symm

end

/-- A tokenizer of one token a byte. -/
def bytewise (text : Text) : List (List UInt8) := (Utf8.encode text).map ([·])

theorem flatten_bytewise (text : Text) : (bytewise text).flatten = Utf8.encode text :=
  List.flatMap_singleton' _

theorem bytewise_preserves : Preserves "ab".toList
    (splitByTokenBudget (byteEncoding bytewise) "ab".toList 1) :=
  (splitByTokenBudget_preserves_iff bytewise flatten_bytewise "ab".toList 1 (by decide)).mpr
    ⟨[['a'], ['b']], by decide, by decide, by decide⟩

/-- A character of two bytes, cut into two tokens, comes back as two replacements. -/
theorem bytewise_loses : (∀ text, (bytewise text).flatten = Utf8.encode text) ∧
    ¬Preserves "é".toList (splitByTokenBudget (byteEncoding bytewise) "é".toList 1) := by
  refine ⟨flatten_bytewise, fun hpreserves => ?_⟩
  have hpieces : splitByTokenBudget (byteEncoding bytewise) "é".toList 1 =
      [['\uFFFD'], ['\uFFFD']] := by decide
  rw [hpieces] at hpreserves
  exact absurd hpreserves.1 (by decide)

end CSO.KnowledgeRag
