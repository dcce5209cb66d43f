import OutageLedger.Store.Row

/-
  The store: a table of outages and a table of alerts on record, each in the order of insertion. An
  outage has an id of its own, and so has an alert on record; no two alerts have the same identity,
  and each belongs to an outage of the store. With an outage go its alerts.
-/

namespace OutageLedger

structure Store where
  outages : List Row
  alerts : List Row
  deriving DecidableEq, Repr

namespace Store

def empty : Store :=
  ⟨[], []⟩

/-! ## Writing -/

/-- Some row has this cell in this column. -/
def hasCell (rows : List Row) (index : Nat) (c : Cell) : Bool :=
  rows.any fun row => row.cell index == c

/-- Some alert has this identity. -/
def hasKey (s : Store) (key : AlertKey) : Bool :=
  s.alerts.any fun row =>
    row.cell 2 == .text key.externalId && row.cell 3 == .text key.source.name

/-- Two rows have the same values in some columns; an empty cell is like no other. -/
def agree (columns : List Nat) (a b : Row) : Bool :=
  columns.all fun i => a.cell i != .null && a.cell i == b.cell i

/-- A row breaks a constraint on a table with these rows. -/
def breaks (s : Store) (rows : List Row) (row : Row) : Constraint → Bool
  | .primaryKey columns | .unique columns => rows.any (agree columns row)
  | .reference column => !hasCell s.outages 0 (row.cell column)

/-- The rows of a table with another one, unless it breaks constraints; then one of them is reported. -/
def insert (report : Constraint.Report) (s : Store) (t : Table) (rows : List Row) (row : Row) :
    Except Constraint (List Row) :=
  match report (t.constraints.filter (s.breaks rows row)) with
  | some c => .error c
  | none => .ok (rows ++ [row])

def createOutage (s : Store) (o : Outage) : Except StoreError Store :=
  match s.insert Constraint.lastFirst outageTable s.outages o.row with
  | .ok outages => .ok { s with outages }
  | .error c => .error (.backend (outageTable.failure c))

/-- Adds an alert. A failure with the code for values that are not unique says that its identity is on
record. -/
def createAlertWith (report : Constraint.Report) (s : Store) (r : AlertRecord) :
    Except StoreError Store :=
  match s.insert report alertTable s.alerts r.row with
  | .ok alerts => .ok { s with alerts }
  | .error c =>
    if c.code = Constraint.uniqueCode then .error (.duplicate r.key)
    else .error (.backend (alertTable.failure c))

def createAlert (s : Store) (r : AlertRecord) : Except StoreError Store :=
  s.createAlertWith Constraint.lastFirst r

def hasOutage (s : Store) (id : Uuid) : Bool :=
  hasCell s.outages 0 (.uuid id)

/-- Removes an outage and its alerts. -/
def deleteOutage (s : Store) (id : Uuid) : Store :=
  if s.hasOutage id then
    { outages := s.outages.filter fun row => row.cell 0 != .uuid id
      alerts := s.alerts.filter fun row => row.cell 1 != .uuid id }
  else s

/-! ## Reading -/

def backend {α : Type} : Except BackendError α → Except StoreError α
  | .ok a => .ok a
  | .error e => .error (.backend e)

/-- The row of the alert with an identity. -/
def findRow? (s : Store) (key : AlertKey) : Option Row :=
  s.alerts.find? fun row =>
    row.cell 2 == .text key.externalId && row.cell 3 == .text key.source.name

def find (s : Store) (key : AlertKey) : Except StoreError (Option AlertRecord) :=
  match s.findRow? key with
  | some row => backend ((AlertRecord.ofRow row).map some)
  | none => .ok none

def getOutage (s : Store) (id : Uuid) : Except StoreError (Option Outage) :=
  match s.outages.find? fun row => row.cell 0 == .uuid id with
  | some row => backend ((Outage.ofRow row).map some)
  | none => .ok none

/-- The order of cells: empty cells, texts by code point, bytes. -/
def cellLe : Cell → Cell → Bool
  | .null, _ => true
  | .text _, .null => false
  | .text a, .text b => decide (a ≤ b)
  | .text _, .blob _ => true
  | .blob a, .blob b => !(b.map UInt8.toNat).lex (a.map UInt8.toNat)
  | .blob _, _ => false

/-- The alerts of an outage, by the text of the time that they were triggered at; those of one time stay
in the order of insertion. -/
def alertsOf (s : Store) (id : Uuid) : Except StoreError (List AlertRecord) :=
  let rows := s.alerts.filter fun row => row.cell 1 == .uuid id
  let rows := rows.mergeSort fun a b => cellLe (a.cell 8) (b.cell 8)
  backend (rows.mapM AlertRecord.ofRow)

end Store

end OutageLedger
