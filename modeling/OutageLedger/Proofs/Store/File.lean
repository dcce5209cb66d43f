import OutageLedger.Proofs.Json.Fields
import OutageLedger.Proofs.Json.ReadBack
import OutageLedger.Store.File

/-
  Stores in files read back. A file for a store holds all of it, whatever is in the cells, as long as each row
  has a cell for each column of its table. Main statement: `Store.ofBytes?_toBytes`.
-/

namespace OutageLedger

open Text

theorem mapM_map_of {α β : Type} {f : α → β} {read : β → Option α} {as : List α}
    (h : ∀ a ∈ as, read (f a) = some a) : (as.map f).mapM read = some as := by
  have hread := Json.mapM_map_eq (g := id) h
  rwa [List.map_id] at hread

theorem Json.areVerbal_map {α : Type} {f : α → Json} (h : ∀ a, (f a).isVerbal = true) (as : List α) :
    areVerbal (as.map f) = true := by
  induction as with
  | nil => rfl
  | cons a as ih =>
    rw [List.map_cons, areVerbal, h a, ih]
    rfl

/-! ## Cells and rows -/

theorem bytesOfHex?_hexFixed (bytes : List UInt8) :
    bytesOfHex? (bytes.flatMap fun b => hexFixed 2 b.toNat) = some bytes := by
  induction bytes with
  | nil => rfl
  | cons b bytes ih =>
    have hlt : b.toNat < 256 := b.toNat_lt
    have hvalue : b.toNat / 16 % 16 * 16 + b.toNat % 16 = b.toNat := by omega
    rw [List.flatMap_cons]
    show bytesOfHex? (hexDigit (b.toNat / 16) :: hexDigit b.toNat ::
      bytes.flatMap fun b => hexFixed 2 b.toNat) = _
    rw [bytesOfHex?, hexDigitValue_hexDigit, hexDigitValue_hexDigit, ih]
    show some (UInt8.ofNat (b.toNat / 16 % 16 * 16 + b.toNat % 16) :: bytes) = _
    rw [hvalue, UInt8.ofNat_toNat]

namespace Cell

theorem ofJson?_toJson (c : Cell) : ofJson? c.toJson = some c := by
  cases c with
  | null => rfl
  | text s => rfl
  | blob bytes =>
    show (bytesOfHex? (String.ofList _).toList).map Cell.blob = _
    rw [String.toList_ofList, bytesOfHex?_hexFixed]
    rfl

theorem isVerbal_toJson (c : Cell) : c.toJson.isVerbal = true := by
  cases c <;> rfl

end Cell

namespace Row

theorem ofJson?_toJson {t : Table} {row : Row} (h : row.length = t.columns.length) :
    ofJson? t row.toJson = some row := by
  have hcells : Json.list? Cell.ofJson? row.toJson = some row := mapM_map_of fun c _ => c.ofJson?_toJson
  unfold ofJson?
  rw [hcells]
  exact if_pos h

theorem isVerbal_toJson (row : Row) : row.toJson.isVerbal = true :=
  Json.areVerbal_map Cell.isVerbal_toJson row

end Row

/-! ## Stores -/

namespace Store

/-- Each row has a cell for each column of its table. -/
structure IsShaped (s : Store) : Prop where
  outages : ∀ row ∈ s.outages, row.length = outageTable.columns.length
  alerts : ∀ row ∈ s.alerts, row.length = alertTable.columns.length

theorem isVerbal_toJson (s : Store) : s.toJson.isVerbal = true := by
  have houtages := Json.areVerbal_map Row.isVerbal_toJson s.outages
  have halerts := Json.areVerbal_map Row.isVerbal_toJson s.alerts
  show Json.areVerbalMembers [(some outageTable.name, .array (s.outages.map Row.toJson)),
    (some alertTable.name, .array (s.alerts.map Row.toJson))] = true
  rw [Json.areVerbalMembers, Json.isVerbal, houtages, Json.areVerbalMembers, Json.isVerbal, halerts]
  rfl

theorem ofJson?_toJson {s : Store} (h : s.IsShaped) : ofJson? s.toJson = some s := by
  have houtages : Json.list? (Row.ofJson? outageTable) (.array (s.outages.map Row.toJson)) = some s.outages :=
    mapM_map_of fun row hrow => Row.ofJson?_toJson (h.outages row hrow)
  have halerts : Json.list? (Row.ofJson? alertTable) (.array (s.alerts.map Row.toJson)) = some s.alerts :=
    mapM_map_of fun row hrow => Row.ofJson?_toJson (h.alerts row hrow)
  show (Json.list? _ (.array (s.outages.map Row.toJson))).bind _ = _
  rw [houtages]
  show (Json.list? _ (.array (s.alerts.map Row.toJson))).bind _ = _
  rw [halerts]
  rfl

/-- The store in the contents of a file for a store is that store. -/
theorem ofBytes?_toBytes {s : Store} (h : s.IsShaped) : ofBytes? s.toBytes = some s := by
  have hread := Json.ofBytes?_toText s.isVerbal_toJson
  show (Json.ofBytes? (Utf8.encode s.toJson.toText.toList)).bind ofJson? = some s
  rw [hread]
  exact ofJson?_toJson h

end Store

end OutageLedger
