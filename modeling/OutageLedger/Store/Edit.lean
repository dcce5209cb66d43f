import OutageLedger.Store.Basic

/-
  Changing a cell by hand. The database still asks for required cells and unique values, and for names
  that it knows.
-/

namespace OutageLedger.Store

/-- Puts a cell into a row. -/
def setCell (index : Nat) (c : Cell) (row : Row) : Row :=
  row.set index c

/-- The rows of a table after the cell of a column has changed in the row with an id, and how many rows
have changed. -/
def editRows (t : Table) (rows : List Row) (id : String) (index : Nat) (c : Cell) :
    Except BackendError (List Row × Nat) :=
  let isMeant (row : Row) : Bool := row.cell 0 == .text id
  let changed := rows.map fun row => if isMeant row then setCell index c row else row
  let others := rows.filter fun row => !isMeant row
  match rows.find? isMeant with
  | none => .ok (rows, 0)
  | some row =>
    if c == .null && t.columns[index]?.any (·.required) then .error (.noValue (t.qualified index))
    else
      let isBroken (columns : List Nat) : Bool :=
        columns.contains index && others.any (agree columns (setCell index c row))
      match Constraint.lastFirst (t.constraints.filter (·.columns?.any isBroken)) with
      | some broken => .error (t.failure broken)
      | none => .ok (changed, (rows.filter isMeant).length)

/-- Changes a cell of the row with an id, in a table and a column given by name. -/
def edit (s : Store) (table id column : String) (c : Cell) : Except BackendError (Store × Nat) :=
  let lower (name : String) : String := name.map Char.toLower
  match [outageTable, alertTable].find? fun t => t.name == lower table with
  | none => .error (.noTable table)
  | some t =>
    match t.columns.findIdx? fun col => col.name == lower column with
    | none => .error (.noColumn column)
    | some index =>
      if t.name = alertTable.name then
        (editRows t s.alerts id index c).map fun (rows, n) => ({ s with alerts := rows }, n)
      else (editRows t s.outages id index c).map fun (rows, n) => ({ s with outages := rows }, n)

end OutageLedger.Store
