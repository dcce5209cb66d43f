/-
  Places in a YAML text, and the characters that part it. Line ends are brought to one form before a
  text is read.
-/

namespace OutageLedger.Yaml

/-- How far a text has been read. -/
structure Position where
  line : Nat
  column : Nat
  /-- The number of bytes before. -/
  index : Nat
  deriving DecidableEq, Repr

def isBreak (c : Char) : Bool :=
  c == '\n' || c.toNat == 0x2028 || c.toNat == 0x2029

def isBlank (c : Char) : Bool :=
  c == ' ' || c == '\t'

/-- The text is at its end, or a blank or a line end follows. -/
def endsWord (cs : List Char) : Bool :=
  cs.head?.all fun c => isBlank c || isBreak c

namespace Position

def start : Position :=
  ⟨0, 0, 0⟩

/-- The place after a character. -/
def after (p : Position) (c : Char) : Position :=
  if isBreak c then ⟨p.line + 1, 0, p.index + c.utf8Size⟩
  else ⟨p.line, p.column + 1, p.index + c.utf8Size⟩

/-- The place after some characters. -/
def afterAll (p : Position) (cs : List Char) : Position :=
  cs.foldl after p

end Position

/-- A text in which every line ends in one way. -/
def normalize : List Char → List Char
  | [] => []
  | '\r' :: '\n' :: cs => '\n' :: normalize cs
  | c :: cs => (if c = '\r' ∨ c.toNat = 0x85 then '\n' else c) :: normalize cs

/-- The characters that a YAML text may hold. -/
def isAllowed (c : Char) : Bool :=
  let n := c.toNat
  n == 0x9 || n == 0xA || n == 0xD || (0x20 ≤ n && n ≤ 0x7E) || n == 0x85 ||
    (0xA0 ≤ n && n ≤ 0xFFFD) || 0x10000 ≤ n

/-- Three marks at the start of a line part documents. -/
def startsWithMark (mark : Char) (cs : List Char) : Bool :=
  cs.take 3 == [mark, mark, mark] && endsWord (cs.drop 3)

def startsDocumentMark (cs : List Char) : Bool :=
  startsWithMark '-' cs || startsWithMark '.' cs

end OutageLedger.Yaml
