import OutageLedger.Json.Basic
import OutageLedger.Text.Hex

/-
  Writing JSON without blanks. Quotes, backslashes and control characters are escaped, all else stands
  as it is. A string that denotes no text is written as a lone surrogate, which denotes none either.
-/

namespace OutageLedger.Json

open Text

/-- One character of a string. -/
def quotedChar (c : Char) : List Char :=
  match c with
  | '"' => ['\\', '"']
  | '\\' => ['\\', '\\']
  | '\x08' => ['\\', 'b']
  | '\x0c' => ['\\', 'f']
  | '\n' => ['\\', 'n']
  | '\r' => ['\\', 'r']
  | '\t' => ['\\', 't']
  | _ => if c.toNat < 0x20 then '\\' :: 'u' :: hexFixed 4 c.toNat else [c]

def quoted (content : Option String) : List Char :=
  let inner := match content with
    | some s => s.toList.flatMap quotedChar
    | none => "\\ud800".toList
  '"' :: inner ++ ['"']

mutual

def write : Json → List Char
  | .null => "null".toList
  | .bool true => "true".toList
  | .bool false => "false".toList
  | .number digits => digits
  | .string content => quoted content
  | .array items => '[' :: writeItems items ++ [']']
  | .object members => '\x7b' :: writeMembers members ++ ['\x7d']

/-- Items with commas between them. -/
def writeItems : List Json → List Char
  | [] => []
  | [item] => write item
  | item :: items => write item ++ ',' :: writeItems items

/-- Members with commas between them. -/
def writeMembers : List (Option String × Json) → List Char
  | [] => []
  | [(name, value)] => quoted name ++ ':' :: write value
  | (name, value) :: members => quoted name ++ ':' :: write value ++ ',' :: writeMembers members

end

/-- The JSON text of a value. -/
def toText (value : Json) : String :=
  String.ofList value.write

end OutageLedger.Json
