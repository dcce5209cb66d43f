import OutageLedger.Json.Basic
import OutageLedger.Text.Hex
import OutageLedger.Text.Utf8

/-
  The tokens of a JSON text, read from its bytes: brackets, colons, commas, and the values that hold
  no other value. Bytes that are not UTF-8 are refused outside strings only.
-/

namespace OutageLedger.Json

open Text

inductive Token
  | beginArray
  | endArray
  | beginObject
  | endObject
  | colon
  | comma
  | leaf (value : Json)
  deriving Repr

/-! ## Strings -/

/-- What stands inside the quotes of a string: a byte, or a UTF-16 unit given by an escape. -/
inductive Piece
  | byte (b : UInt8)
  | unit (n : Nat)
  deriving DecidableEq, Repr

/-- The byte that a backslash with this letter stands for. -/
def escaped? (letter : Char) : Option Char :=
  match letter with
  | '"' => some '"'
  | '\\' => some '\\'
  | '/' => some '/'
  | 'b' => some '\x08'
  | 'f' => some '\x0c'
  | 'n' => some '\n'
  | 'r' => some '\r'
  | 't' => some '\t'
  | _ => none

def byteChar (b : UInt8) : Char :=
  Char.ofNat b.toNat

def charByte (c : Char) : UInt8 :=
  .ofNat c.toNat

/-- The pieces up to the closing quote, and how many bytes they and the quote take. -/
def pieces? : List UInt8 → Option (List Piece × Nat)
  | [] => none
  | b :: bs =>
    if byteChar b = '"' then some ([], 1)
    else if byteChar b = '\\' then
      match bs with
      | [] => none
      | e :: bs =>
        if byteChar e = 'u' then
          match bs with
          | h1 :: h2 :: h3 :: h4 :: bs => do
            let n ← hexValue? ([h1, h2, h3, h4].map byteChar)
            let (ps, used) ← pieces? bs
            pure (.unit n :: ps, used + 6)
          | _ => none
        else do
          let c ← escaped? (byteChar e)
          let (ps, used) ← pieces? bs
          pure (.byte (charByte c) :: ps, used + 2)
    else if b.toNat < 0x20 then none
    else do
      let (ps, used) ← pieces? bs
      pure (.byte b :: ps, used + 1)

def isHighSurrogate (n : Nat) : Bool :=
  0xD800 ≤ n && n < 0xDC00

def isLowSurrogate (n : Nat) : Bool :=
  0xDC00 ≤ n && n < 0xE000

/-- The bytes that pieces denote; none if a surrogate stands alone. -/
def assemble? : List Piece → Option (List UInt8)
  | [] => some []
  | .byte b :: ps => (assemble? ps).map (b :: ·)
  | .unit n :: ps =>
    if isLowSurrogate n then none
    else if isHighSurrogate n then
      match ps with
      | .unit m :: ps =>
        if isLowSurrogate m then
          (assemble? ps).map
            (Utf8.encodeChar (.ofNat (0x10000 + (n - 0xD800) * 0x400 + (m - 0xDC00))) ++ ·)
        else none
      | _ => none
    else (assemble? ps).map (Utf8.encodeChar (.ofNat n) ++ ·)

/-- The text that pieces denote, if they denote one. -/
def content? (ps : List Piece) : Option String :=
  (assemble? ps >>= Utf8.decode?).map String.ofList

/-! ## Numbers -/

/-- A text without a sign at its front. -/
def dropSign : List Char → List Char
  | '+' :: cs => cs
  | '-' :: cs => cs
  | cs => cs

/-- Digits after `e` and perhaps a sign, or nothing. -/
def isExponent : List Char → Bool
  | [] => true
  | e :: cs => (e == 'e' || e == 'E') && !(dropSign cs).isEmpty && (dropSign cs).all isDigit

/-- A fraction if there is one, and then an exponent if there is one. -/
def isFraction : List Char → Bool
  | '.' :: cs => !(cs.takeWhile isDigit).isEmpty && isExponent (cs.dropWhile isDigit)
  | cs => isExponent cs

/-- A number of JSON: digits without a leading zero, a fraction and an exponent. -/
def isNumber (cs : List Char) : Bool :=
  let cs := match cs with
    | '-' :: cs => cs
    | cs => cs
  match cs with
  | '0' :: cs => isFraction cs
  | c :: cs => isDigit c && isFraction (cs.dropWhile isDigit)
  | [] => false

def isNumberMark (b : UInt8) : Bool :=
  let c := byteChar b
  isDigit c || c == '-' || c == '+' || c == '.' || c == 'e' || c == 'E'

/-! ## Tokens -/

def isSpace (b : UInt8) : Bool :=
  let c := byteChar b
  c == ' ' || c == '\t' || c == '\n' || c == '\r'

/-- The words of JSON. -/
def words : List (String × Json) :=
  [("null", .null), ("true", .bool true), ("false", .bool false)]

/-- The word at the front of a text and its length. -/
def word? (bs : List UInt8) : Option (Token × Nat) :=
  words.findSome? fun (word, value) =>
    let cs := word.toList
    if (bs.take cs.length).map byteChar = cs then some (.leaf value, cs.length) else none

/-- The token that begins with `b`, and how many of the bytes after `b` belong to it. -/
def token? (b : UInt8) (bs : List UInt8) : Option (Token × Nat) :=
  match byteChar b with
  | '[' => some (.beginArray, 0)
  | ']' => some (.endArray, 0)
  | '\x7b' => some (.beginObject, 0)
  | '\x7d' => some (.endObject, 0)
  | ':' => some (.colon, 0)
  | ',' => some (.comma, 0)
  | '"' => (pieces? bs).map fun (ps, used) => (.leaf (.string (content? ps)), used)
  | _ =>
    if isNumberMark b then
      let digits := (b :: bs.takeWhile isNumberMark).map byteChar
      if isNumber digits then some (.leaf (.number digits), digits.length - 1) else none
    else (word? (b :: bs)).map fun (token, used) => (token, used - 1)

/-- The tokens of a JSON text. -/
def tokens? : List UInt8 → Option (List Token)
  | [] => some []
  | b :: bs =>
    if isSpace b then tokens? bs
    else
      match token? b bs with
      | none => none
      | some (token, used) => (tokens? (bs.drop used)).map (token :: ·)
termination_by bs => bs.length
decreasing_by
  · simp
  · simp only [List.length_cons, List.length_drop]; omega

end OutageLedger.Json
