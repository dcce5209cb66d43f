import OutageLedger.Text.Punycode
import OutageLedger.Url.Domain.Joiner
import OutageLedger.Url.Domain.Mapping

/-
  The labels of a domain name. A label of ASCII is written as it is; another is written in Punycode
  after `xn--`. A label that begins so must be in Punycode, for a label that is not of ASCII.
-/

namespace OutageLedger.Domain

open Text

/-- The characters of ASCII that no domain name holds. -/
def isForbidden (c : Char) : Bool :=
  c.toNat ≤ 0x20 || c.toNat == 0x7F || "%#/:<>?@[\\]^|".toList.contains c

def punycodeMark : List Char :=
  "xn--".toList

/-- Longer labels are not read from Punycode, and not written in it. -/
def longestPunycode : Nat := 2000

def longestLabel : Nat := 1000

/-- A label begins with no mark, and its joiners stand where they may. -/
def isLabel (cs : List Char) : Bool :=
  !cs.head?.any isMark && joinersFit [] cs

/-- What a text in Punycode stands for: a label that stands for itself. -/
def ofPunycode? (cs : List Char) : Option (List Char) := do
  let label ← if cs.length ≤ longestPunycode then Punycode.decode? cs else none
  let text ← mapped? label
  if text = label ∧ !label.all isBasic ∧ !label.any (fun c => isForbidden c || c == '.') ∧ isLabel label
  then pure label else none

/-- The label that a mapped text stands for. -/
def label? (cs : List Char) : Option (List Char) :=
  if cs.take 4 = punycodeMark then
    if cs.all isBasic then ofPunycode? (cs.drop 4) else none
  else if cs.all isBasic then some cs
  else if cs.length ≤ longestLabel ∧ isLabel cs then some cs
  else none

/-- The written form of a label. -/
def written (label : List Char) : List Char :=
  if label.all isBasic then label else punycodeMark ++ Punycode.encode label

end OutageLedger.Domain
