import Mathlib

/-! Strings, JSON text and SHA-256 as the services use them. -/
namespace CSO.JS

/-- White space and line terminators of ECMAScript. -/
def isWhiteSpace (c : Char) : Bool :=
  let n := c.toNat
  (9 ≤ n && n ≤ 13) || n == 0x20 || n == 0xA0 || n == 0x1680 || (0x2000 ≤ n && n ≤ 0x200A) ||
    n == 0x2028 || n == 0x2029 || n == 0x202F || n == 0x205F || n == 0x3000 || n == 0xFEFF

def trim (s : String) : String :=
  String.ofList ((s.toList.dropWhile isWhiteSpace).reverse.dropWhile isWhiteSpace).reverse

/-- A letter or digit, then letters, digits and `._:-`, at most `limit` of them. -/
def isIdentifier (limit : ℕ) (text : String) : Bool :=
  match text.toList with
  | [] => false
  | c :: cs => c.isAlphanum && (cs.all fun c => c.isAlphanum || c ∈ ['.', '_', ':', '-']) &&
      cs.length < limit

theorem ne_empty_of_isIdentifier {limit : ℕ} {text : String}
    (h : isIdentifier limit text = true) : text ≠ "" := by
  rintro rfl
  simp [isIdentifier] at h

/-- Length in UTF-16 code units. -/
def length (s : String) : ℕ :=
  (s.toList.map fun c => if c.toNat < 0x10000 then 1 else 2).sum

def codeUnits (s : String) : List ℕ :=
  s.toList.flatMap fun c =>
    if c.toNat < 0x10000 then [c.toNat]
    else [0xD800 + (c.toNat - 0x10000) / 0x400, 0xDC00 + (c.toNat - 0x10000) % 0x400]

/-- The order of `<` and of `sort` on strings. -/
def notAfter (left right : String) : Bool := codeUnits left ≤ codeUnits right

/-- Upper case of one character, as far as the image is ASCII. No other character has ASCII
letters only in its upper case, so comparing with an ASCII word is exact. -/
def upperChar (c : Char) : List Char :=
  match c with
  | 'ı' => ['I']
  | 'ſ' => ['S']
  | 'ß' => ['S', 'S']
  | 'ﬀ' => ['F', 'F']
  | 'ﬁ' => ['F', 'I']
  | 'ﬂ' => ['F', 'L']
  | 'ﬃ' => ['F', 'F', 'I']
  | 'ﬄ' => ['F', 'F', 'L']
  | 'ﬅ' => ['S', 'T']
  | 'ﬆ' => ['S', 'T']
  | c => [c.toUpper]

def toUpperCase (s : String) : String := String.ofList (s.toList.flatMap upperChar)

inductive Json
  | null
  | bool (b : Bool)
  | num (n : ℤ)
  | str (s : String)
  | arr (items : List Json)
  | obj (fields : List (String × Json))

def hexDigits (n : ℕ) (width : ℕ) : List Char :=
  (List.range width).reverse.map fun i => Nat.digitChar (n / 16 ^ i % 16)

def escapeChar (c : Char) : List Char :=
  match c with
  | '"' => ['\\', '"']
  | '\\' => ['\\', '\\']
  | '\x08' => ['\\', 'b']
  | '\x0c' => ['\\', 'f']
  | '\n' => ['\\', 'n']
  | '\r' => ['\\', 'r']
  | '\t' => ['\\', 't']
  | c => if c.toNat < 0x20 then ['\\', 'u'] ++ hexDigits c.toNat 4 else [c]

def quote (s : String) : String := String.ofList ('"' :: (s.toList.flatMap escapeChar ++ ['"']))

mutual

/-- `JSON.stringify`; the fields of an object stand in insertion order. -/
def Json.stringify : Json → String
  | .null => "null"
  | .bool b => if b then "true" else "false"
  | .num n => toString n
  | .str s => quote s
  | .arr items => "[" ++ ",".intercalate (Json.stringifyItems items) ++ "]"
  | .obj fields => "\x7b" ++ ",".intercalate (Json.stringifyFields fields) ++ "\x7d"

def Json.stringifyItems : List Json → List String
  | [] => []
  | item :: items => item.stringify :: Json.stringifyItems items

def Json.stringifyFields : List (String × Json) → List String
  | [] => []
  | (key, value) :: fields => (quote key ++ ":" ++ value.stringify) :: Json.stringifyFields fields

end

namespace Sha256

def roundConstants : List UInt32 := [
  0x428a2f98, 0x71374491, 0xb5c0fbcf, 0xe9b5dba5, 0x3956c25b, 0x59f111f1, 0x923f82a4, 0xab1c5ed5,
  0xd807aa98, 0x12835b01, 0x243185be, 0x550c7dc3, 0x72be5d74, 0x80deb1fe, 0x9bdc06a7, 0xc19bf174,
  0xe49b69c1, 0xefbe4786, 0x0fc19dc6, 0x240ca1cc, 0x2de92c6f, 0x4a7484aa, 0x5cb0a9dc, 0x76f988da,
  0x983e5152, 0xa831c66d, 0xb00327c8, 0xbf597fc7, 0xc6e00bf3, 0xd5a79147, 0x06ca6351, 0x14292967,
  0x27b70a85, 0x2e1b2138, 0x4d2c6dfc, 0x53380d13, 0x650a7354, 0x766a0abb, 0x81c2c92e, 0x92722c85,
  0xa2bfe8a1, 0xa81a664b, 0xc24b8b70, 0xc76c51a3, 0xd192e819, 0xd6990624, 0xf40e3585, 0x106aa070,
  0x19a4c116, 0x1e376c08, 0x2748774c, 0x34b0bcb5, 0x391c0cb3, 0x4ed8aa4a, 0x5b9cca4f, 0x682e6ff3,
  0x748f82ee, 0x78a5636f, 0x84c87814, 0x8cc70208, 0x90befffa, 0xa4506ceb, 0xbef9a3f7, 0xc67178f2]

def initialState : List UInt32 := [
  0x6a09e667, 0xbb67ae85, 0x3c6ef372, 0xa54ff53a, 0x510e527f, 0x9b05688c, 0x1f83d9ab, 0x5be0cd19]

def rotateRight (x : UInt32) (n : UInt32) : UInt32 := (x >>> n) ||| (x <<< (32 - n))

/-- The message with a one bit, zeros and its length in bits, a multiple of 64 bytes. -/
def pad (message : List UInt8) : List UInt8 :=
  let zeros := (119 - message.length % 64) % 64
  let bits := message.length * 8
  message ++ 0x80 :: (List.replicate zeros 0 ++
    (List.range 8).reverse.map fun i => UInt8.ofNat (bits / 256 ^ i))

def words : List UInt8 → List UInt32
  | a :: b :: c :: d :: rest =>
    ((a.toUInt32 <<< 24) ||| (b.toUInt32 <<< 16) ||| (c.toUInt32 <<< 8) ||| d.toUInt32) ::
      words rest
  | _ => []

/-- The sixteen words of a block extended to sixty-four. -/
def schedule (block : List UInt32) : List UInt32 :=
  (List.range 48).foldl (fun w i =>
    let x := w.getD (i + 1) 0
    let y := w.getD (i + 14) 0
    let s₀ := rotateRight x 7 ^^^ rotateRight x 18 ^^^ (x >>> 3)
    let s₁ := rotateRight y 17 ^^^ rotateRight y 19 ^^^ (y >>> 10)
    w ++ [w.getD i 0 + s₀ + w.getD (i + 9) 0 + s₁]) block

def round (state : List UInt32) (kw : UInt32 × UInt32) : List UInt32 :=
  match state with
  | [a, b, c, d, e, f, g, h] =>
    let s₁ := rotateRight e 6 ^^^ rotateRight e 11 ^^^ rotateRight e 25
    let t₁ := h + s₁ + ((e &&& f) ^^^ (~~~e &&& g)) + kw.1 + kw.2
    let s₀ := rotateRight a 2 ^^^ rotateRight a 13 ^^^ rotateRight a 22
    let t₂ := s₀ + ((a &&& b) ^^^ (a &&& c) ^^^ (b &&& c))
    [t₁ + t₂, a, b, c, d + t₁, e, f, g]
  | other => other

def compress (state block : List UInt32) : List UInt32 :=
  (state.zip ((roundConstants.zip (schedule block)).foldl round state)).map fun (x, y) => x + y

/-- `createHash('sha256').update(text).digest('hex')`. -/
def hex (text : String) : String :=
  let blocks := (words (pad text.toUTF8.toList)).toChunks 16
  String.ofList ((blocks.foldl compress initialState).flatMap fun w => hexDigits w.toNat 8)

end Sha256
end CSO.JS
