import OutageLedger.Alert.Basic
import OutageLedger.Instant.Reader
import OutageLedger.Store.Constraint
import OutageLedger.Store.Error

/-
  The rows of the two tables. A row is written from an outage or a record, and read back cell by cell;
  instants are stored as texts in UTC. What a cell holds may have been changed by others.
-/

namespace OutageLedger

inductive Cell
  | null
  | text (s : String)
  | blob (bytes : List UInt8)
  deriving DecidableEq, Repr

/-- The cells of a row, in the order of the columns. -/
abbrev Row := List Cell

structure Column where
  name : String
  /-- The cell is never empty. -/
  required : Bool

structure Table where
  name : String
  columns : List Column
  /-- In the order of declaration. -/
  constraints : List Constraint

def outageTable : Table :=
  { name := "outages"
    columns := [⟨"id", false⟩, ⟨"title", true⟩, ⟨"description", true⟩, ⟨"status", true⟩,
      ⟨"severity", true⟩, ⟨"created_at", true⟩, ⟨"updated_at", true⟩, ⟨"resolved_at", false⟩]
    constraints := [.primaryKey [0]] }

def alertTable : Table :=
  { name := "alerts"
    columns := [⟨"id", false⟩, ⟨"outage_id", true⟩, ⟨"external_id", true⟩, ⟨"source", true⟩,
      ⟨"team_name", true⟩, ⟨"title", true⟩, ⟨"description", true⟩, ⟨"severity", true⟩,
      ⟨"triggered_at", true⟩, ⟨"acknowledged_at", false⟩, ⟨"resolved_at", false⟩,
      ⟨"created_at", true⟩]
    constraints := [.primaryKey [0], .reference 1, .unique [2, 3]] }

namespace Table

def columnName (t : Table) (index : Nat) : String :=
  match t.columns[index]? with
  | some c => c.name
  | none => ""

/-- A column by its name after that of its table. -/
def qualified (t : Table) (index : Nat) : String :=
  t.name ++ "." ++ t.columnName index

/-- What a broken constraint of the table is reported as. -/
def failure (t : Table) : Constraint → BackendError
  | .primaryKey columns | .unique columns => .notUnique (columns.map t.qualified)
  | .reference _ => .noReferent

end Table

/-! ## Writing -/

def Cell.uuid (u : Uuid) : Cell :=
  .text (toString u)

def Cell.time (t : Instant) : Cell :=
  .text t.stamp

def Cell.optionTime : Option Instant → Cell
  | some t => time t
  | none => null

def Outage.row (o : Outage) : Row :=
  [.uuid o.id, .text o.title, .text o.description, .text o.status.name, .text o.severity,
    .time o.createdAt, .time o.updatedAt, .optionTime o.resolvedAt]

def AlertRecord.row (r : AlertRecord) : Row :=
  [.uuid r.id, .uuid r.outageId, .text r.alert.externalId, .text r.alert.source.name,
    .text r.alert.teamName, .text r.alert.title, .text r.alert.description, .text r.alert.severity,
    .time r.alert.triggeredAt, .optionTime r.alert.acknowledgedAt, .optionTime r.alert.resolvedAt,
    .time r.createdAt]

/-! ## Reading -/

def Row.cell (r : Row) (index : Nat) : Cell :=
  r[index]?.getD .null

/-- Reads the cells of a row of a table. -/
structure RowReader where
  table : Table
  row : Row

namespace RowReader

def badType {α : Type} (r : RowReader) (kind : String) (index : Nat) : Except BackendError α :=
  .error (.badType kind index (r.table.columnName index))

def text (r : RowReader) (index : Nat) : Except BackendError String :=
  match r.row.cell index with
  | .text s => .ok s
  | .null => r.badType "Null" index
  | .blob _ => r.badType "Blob" index

/-- A text that is a value of its column. -/
def parsed {α ε : Type} (r : RowReader) (index : Nat) (cause : ε → CellError)
    (read : String → Except ε α) : Except BackendError α := do
  let s ← r.text index
  match read s with
  | .ok a => .ok a
  | .error e => .error (.badText index (cause e))

def uuid (r : RowReader) (index : Nat) : Except BackendError Uuid :=
  r.parsed index .id Uuid.ofText

def time (r : RowReader) (index : Nat) : Except BackendError Instant :=
  r.parsed index .time Instant.ofText

def optionTime (r : RowReader) (index : Nat) : Except BackendError (Option Instant) :=
  match r.row.cell index with
  | .null => .ok none
  | _ => (r.time index).map some

end RowReader

/-- Reads an outage; its status is looked at first. -/
def Outage.ofRow (row : Row) : Except BackendError Outage := do
  let r : RowReader := ⟨outageTable, row⟩
  let status ← r.parsed 3 .status OutageStatus.ofName
  pure {
    id := ← r.uuid 0
    title := ← r.text 1
    description := ← r.text 2
    status
    severity := ← r.text 4
    createdAt := ← r.time 5
    updatedAt := ← r.time 6
    resolvedAt := ← r.optionTime 7 }

/-- Reads an alert on record; its source is looked at first. -/
def AlertRecord.ofRow (row : Row) : Except BackendError AlertRecord := do
  let r : RowReader := ⟨alertTable, row⟩
  let source ← r.parsed 3 .source Source.ofName
  let id ← r.uuid 0
  let outageId ← r.uuid 1
  let externalId ← r.text 2
  let teamName ← r.text 4
  let title ← r.text 5
  let description ← r.text 6
  let severity ← r.text 7
  let triggeredAt ← r.time 8
  let acknowledgedAt ← r.optionTime 9
  let resolvedAt ← r.optionTime 10
  let createdAt ← r.time 11
  pure {
    id
    outageId
    alert := {
      externalId, source, teamName, title, description, severity, triggeredAt, acknowledgedAt,
      resolvedAt }
    createdAt }

end OutageLedger
