import OutageLedger.Text.Hex
import OutageLedger.Text.Utf8

/-
  Percent-encoding: a byte as a percent sign and two hexadecimal digits. Characters outside ASCII are
  encoded byte by byte; which characters of ASCII are encoded depends on the place.
-/

namespace OutageLedger.Text

/-- The upper-case digit for a value below sixteen. -/
def upperHexDigit (n : Nat) : Char :=
  if n % 16 < 10 then Char.ofNat (48 + n % 16) else Char.ofNat (55 + n % 16)

def percentByte (b : UInt8) : List Char :=
  ['%', upperHexDigit (b.toNat / 16), upperHexDigit b.toNat]

/-- Encodes the characters of ASCII that `escape` names and all others outside ASCII. -/
def percentEncode (escape : Char → Bool) (cs : List Char) : List Char :=
  cs.flatMap fun c =>
    if c.toNat < 0x80 && !escape c then [c] else (Utf8.encodeChar c).flatMap percentByte

/-- The bytes that a text denotes; a percent sign without two digits stands for itself. -/
def percentDecode : List Char → List UInt8
  | [] => []
  | c :: cs =>
    match c, cs with
    | '%', a :: b :: rest =>
      match hexDigitValue? a, hexDigitValue? b with
      | some x, some y => .ofNat (x * 16 + y) :: percentDecode rest
      | _, _ => Utf8.encodeChar '%' ++ percentDecode (a :: b :: rest)
    | c, cs => Utf8.encodeChar c ++ percentDecode cs

/-! ## What is encoded where in a URL -/

def isControl (c : Char) : Bool :=
  c.toNat < 0x20 || c.toNat == 0x7F

def inFragment (c : Char) : Bool :=
  isControl c || " \"<>\x60".toList.contains c

def inPath (c : Char) : Bool :=
  inFragment c || "#?\x7b\x7d".toList.contains c

def inUserInfo (c : Char) : Bool :=
  inPath c || "/:;=@[\\]^|".toList.contains c

/-- In a segment that is to stay one segment. A special scheme takes a backslash for a slash. -/
def inSegment (special : Bool) (c : Char) : Bool :=
  inPath c || c == '/' || c == '%' || (special && c == '\\')

def inQuery (special : Bool) (c : Char) : Bool :=
  isControl c || " \"#<>".toList.contains c || (special && c == '\'')

end OutageLedger.Text
