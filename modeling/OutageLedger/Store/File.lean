import OutageLedger.Json.Fields
import OutageLedger.Json.Reader
import OutageLedger.Json.Writer
import OutageLedger.Store.Basic
import OutageLedger.Text.Hex

/-
  Stores in files: a mark, and the two tables as one JSON text, a row as an array of its cells.
-/

namespace OutageLedger

open Text

/-! ## Writing -/

def Cell.toJson : Cell → Json
  | .null => .null
  | .text s => .text s
  | .blob bytes => .array [.text (String.ofList (bytes.flatMap fun b => hexFixed 2 b.toNat))]

def Row.toJson (r : Row) : Json :=
  .array (r.map Cell.toJson)

namespace Store

def toJson (s : Store) : Json :=
  .record [(outageTable.name, .array (s.outages.map Row.toJson)),
    (alertTable.name, .array (s.alerts.map Row.toJson))]

/-- The first byte of a file for a store. No text in UTF-8 has it. -/
def fileMark : UInt8 := 0xFF

/-- The contents of a file for a store. -/
def toBytes (s : Store) : List UInt8 :=
  fileMark :: Utf8.encode s.toJson.toText.toList

end Store

/-! ## Reading -/

def bytesOfHex? : List Char → Option (List UInt8)
  | [] => some []
  | [_] => none
  | a :: b :: cs => do
    let high ← hexDigitValue? a
    let low ← hexDigitValue? b
    let bytes ← bytesOfHex? cs
    pure (.ofNat (high * 16 + low) :: bytes)

def Cell.ofJson? : Json → Option Cell
  | .null => some .null
  | .text s => some (.text s)
  | .array [.text s] => (bytesOfHex? s.toList).map .blob
  | _ => none

/-- A row has a cell for each column of its table. -/
def Row.ofJson? (t : Table) (j : Json) : Option Row := do
  let row ← Json.list? Cell.ofJson? j
  if row.length = t.columns.length then pure row else none

namespace Store

def ofJson? (j : Json) : Option Store := do
  let f ← j.fields? [outageTable.name, alertTable.name]
  let outages ← f.required outageTable.name (Json.list? (Row.ofJson? outageTable))
  let alerts ← f.required alertTable.name (Json.list? (Row.ofJson? alertTable))
  pure ⟨outages, alerts⟩

/-- The store in the contents of a file. -/
def ofBytes? : List UInt8 → Option Store
  | [] => none
  | mark :: bytes => if mark = fileMark then Json.ofBytes? bytes >>= ofJson? else none

end Store

end OutageLedger
