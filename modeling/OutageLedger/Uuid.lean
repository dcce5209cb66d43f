import OutageLedger.Text.Hex
import OutageLedger.Text.Utf8

/-
  Identifiers of 128 bits. They are written as five groups of lower-case hexadecimal digits; they are
  read in either case, in groups or as 32 digits in a row, the groups also in braces or after
  `urn:uuid:`.
-/

namespace OutageLedger

open Text

structure Uuid where
  value : Nat
  value_lt : value < 0x100000000000000000000000000000000
  deriving DecidableEq, Repr

/-- What is wrong with a text that is no identifier. -/
inductive UuidError
  /-- A character that is neither a digit nor a hyphen, with its place. -/
  | character (c : Char) (place : Nat)
  /-- Digits in a row, but not 32 of them, or a text longer than any form. -/
  | length (bytes : Nat)
  | groupCount (groups : Nat)
  | groupLength (group expected found : Nat)
  deriving DecidableEq, Repr

def UuidError.message : UuidError → String
  | .character c place => s!"invalid character: found \x60{c}\x60 at {natText place}"
  | .length bytes => s!"invalid length: found {natText bytes}"
  | .groupCount groups => s!"invalid group count: expected 5, found {natText groups}"
  | .groupLength group expected found =>
    s!"invalid group length in group {natText group}: expected {natText expected}, " ++
      s!"found {natText found}"

namespace Uuid

/-- The lengths of the groups. -/
def groups : List Nat := [8, 4, 4, 4, 12]

def ofValue? (n : Nat) : Option Uuid :=
  if h : n < 0x100000000000000000000000000000000 then some ⟨n, h⟩ else none

/-- The identifier of version 4 made of two random numbers: the bits of the version and of the variant
take the place of some of theirs. -/
def ofRandom (high low : UInt64) : Uuid :=
  let high := high &&& 0xFFFFFFFFFFFF0FFF ||| 0x4000
  let low := low &&& 0x3FFFFFFFFFFFFFFF ||| 0x8000000000000000
  { value := high.toNat * 0x10000000000000000 + low.toNat
    value_lt := by
      have := high.toNat_lt
      have := low.toNat_lt
      omega }

def digits (u : Uuid) : List Char :=
  hexFixed 32 u.value

/-- Cuts a row into groups of the given lengths with hyphens between them. -/
def hyphenate : List Nat → List Char → List Char
  | [], cs => cs
  | [_], cs => cs
  | n :: ns, cs => cs.take n ++ '-' :: hyphenate ns (cs.drop n)

/-- The hyphenated form. -/
def text (u : Uuid) : List Char :=
  hyphenate groups u.digits

instance : ToString Uuid where
  toString u := String.ofList u.text

/-! ## Reading -/

/-- 32 digits in a row. -/
def ofDigits? (cs : List Char) : Option Uuid :=
  if cs.length = 32 then hexValue? cs >>= ofValue? else none

/-- Takes hyphens away between groups of the given lengths. -/
def unhyphenate? : List Nat → List Char → Option (List Char)
  | [], cs => some cs
  | [_], cs => some cs
  | n :: ns, cs =>
    match cs.drop n with
    | '-' :: rest => (unhyphenate? ns rest).map (cs.take n ++ ·)
    | _ => none

/-- Five groups of digits with hyphens between them. -/
def ofGroups? (cs : List Char) : Option Uuid :=
  if cs.length = 36 then unhyphenate? groups cs >>= ofDigits? else none

/-- `urn:uuid:` in any case. -/
def isUrn (cs : List Char) : Bool :=
  cs.map Char.toLower == "urn:uuid:".toList

/-- The text inside braces or after `urn:uuid:`. -/
def inner? (cs : List Char) : Option (List Char) :=
  match cs with
  | '\x7b' :: rest => if rest.getLast? = some '\x7d' then some rest.dropLast else none
  | _ => if isUrn (cs.take 9) then some (cs.drop 9) else none

def ofChars? (cs : List Char) : Option Uuid :=
  match inner? cs with
  | some inner => ofGroups? inner
  | none => (ofDigits? cs).or (ofGroups? cs)

/-! ## What is wrong -/

/-- The first character that is neither a digit nor a hyphen, with its place. -/
def stray? : Nat → List Char → Option (Char × Nat)
  | _, [] => none
  | place, c :: cs =>
    if c = '-' ∨ isHexDigit c then stray? (place + 1) cs else some (c, place)

/-- The lengths of the pieces between hyphens. -/
def pieces (cs : List Char) : List Nat :=
  (cs.splitOn '-').map List.length

/-- No form has more bytes. -/
def longest : Nat := 45

/-- The groups before the last, with their hyphens, have this many bytes. -/
def lastGroupPlace : Nat := 24

/-- What is wrong with a text. Places are those in braces or after `urn:uuid:`; the last group is
found to have all that the whole text has beyond the groups before it. -/
def diagnose (cs : List Char) : UuidError :=
  let size := (Utf8.encode cs).length
  let inner := (inner? cs).getD cs
  let lengths := pieces inner
  if longest < size then .length size
  else
    match stray? 0 inner with
    | some (c, place) => .character c place
    | none =>
      if lengths.length = 1 ∧ inner? cs = none then .length size
      else if lengths.length ≠ 5 then .groupCount lengths.length
      else
        match (((groups.zip lengths).take 4).zipIdx).find? (fun ((e, f), _) => e ≠ f) with
        | some ((expected, found), i) => .groupLength i expected found
        | none => .groupLength 4 12 (size - lastGroupPlace)

/-- Reads an identifier in any of its forms. -/
def ofText (s : String) : Except UuidError Uuid :=
  match ofChars? s.toList with
  | some u => .ok u
  | none => .error (diagnose s.toList)

end Uuid

end OutageLedger
