import OutageLedger.Text.Hex

/-
  The tags of YAML nodes, as the bytes that they stand for: a percent sign with two hexadecimal digits
  is a byte, and such bytes make up characters in UTF-8. A byte of zero ends a tag.
-/

namespace OutageLedger.Yaml

open Text

/-- A tag, or a part of one. -/
abbrev Tag : Type := List UInt8

namespace Tag

/-- The bytes of a text of ASCII. -/
def ofBasic (cs : List Char) : Tag :=
  cs.map (·.toNat.toUInt8)

/-- The tag of a mark alone. -/
def mark : Tag :=
  ofBasic ['!']

/-- How many bytes follow the first byte of a character. -/
def following? (b : UInt8) : Option Nat :=
  if b < 0x80 then some 0
  else if b < 0xC0 then none
  else if b < 0xE0 then some 1
  else if b < 0xF0 then some 2
  else if b < 0xF8 then some 3
  else none

/-- A byte within a character. -/
def isFollowing (b : UInt8) : Bool :=
  0x80 ≤ b && b < 0xC0

/-- Reads a part of a tag; `due` bytes of a character are still to come. -/
def bytes? (due : Nat) : List Char → Option Tag
  | [] => if due = 0 then some [] else none
  | '%' :: a :: b :: cs => do
    let byte := (← hexValue? [a, b]).toUInt8
    let due ← if due = 0 then following? byte else if isFollowing byte then some (due - 1) else none
    pure (byte :: (← bytes? due cs))
  | c :: cs => if c = '%' ∨ due ≠ 0 then none else (bytes? 0 cs).map (c.toNat.toUInt8 :: ·)

/-- The part of a tag that a text stands for. -/
def ofText? (cs : List Char) : Option Tag :=
  (bytes? 0 cs).map (·.takeWhile (· ≠ 0))

end Tag

end OutageLedger.Yaml
