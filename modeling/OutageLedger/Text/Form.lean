import OutageLedger.Text.Percent

/-
  Forms as text (application/x-www-form-urlencoded): pairs of a name and a value, with a plus sign for
  a space.
-/

namespace OutageLedger.Text.Form

/-- The characters that stand for themselves. -/
def isPlain (c : Char) : Bool :=
  c.isAlphanum || c == '*' || c == '-' || c == '.' || c == '_'

/-- A name or a value. -/
def part (s : String) : List Char :=
  (percentEncode (fun c => !isPlain c && c != ' ') s.toList).map fun c => if c = ' ' then '+' else c

def pair (name value : String) : List Char :=
  part name ++ '=' :: part value

/-- Pairs with ampersands between them. -/
def encode (pairs : List (String × String)) : List Char :=
  List.intercalate ['&'] (pairs.map fun (name, value) => pair name value)

/-! ## Reading -/

/-- The bytes of a name or a value. -/
def partBytes (cs : List Char) : List UInt8 :=
  percentDecode (cs.map fun c => if c = '+' then ' ' else c)

def partText (cs : List Char) : String :=
  String.ofList (Utf8.decodeLossy (partBytes cs))

/-- The name and the value of a pair; without an equals sign there is no value. -/
def splitPair (cs : List Char) : String × String :=
  (partText (cs.takeWhile (· != '=')), partText ((cs.dropWhile (· != '=')).drop 1))

def decode (cs : List Char) : List (String × String) :=
  ((cs.splitOn '&').filter (!·.isEmpty)).map splitPair

end OutageLedger.Text.Form
