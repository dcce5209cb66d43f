/-
  The constraints of a table. A database refuses a row that breaks some, and reports one of them by its
  code.
-/

namespace OutageLedger

/-- What the rows of a table are held to. Columns are given by their places. -/
inductive Constraint
  /-- A row is known by its values in these columns, which no other row has. -/
  | primaryKey (columns : List Nat)
  /-- No two rows have the same values in these columns. -/
  | unique (columns : List Nat)
  /-- The value in this column is the id of an outage. -/
  | reference (column : Nat)
  deriving DecidableEq, Repr

namespace Constraint

/-- The columns whose values are to be unique. -/
def columns? : Constraint → Option (List Nat)
  | primaryKey columns | unique columns => some columns
  | reference _ => none

/-- The constraint is one on the values of columns. -/
def isOnValues (c : Constraint) : Bool :=
  c.columns?.isSome

/-- The extended code that a database fails with: that of constraints in the low byte, and their kind
above it. -/
def code : Constraint → Nat
  | primaryKey _ => 1555
  | unique _ => 2067
  | reference _ => 787

/-- The extended code for values that are not unique. A primary key has another one. -/
def uniqueCode : Nat := 2067

/-- Which of the constraints that a row breaks is reported. They are given in the order of declaration. -/
abbrev Report : Type := List Constraint → Option Constraint

/-- For each constraint on values there is an index, made in the order of declaration. The indexes are
searched from the last one made, and references are looked at once the row is written. -/
def lastFirst : Report := fun broken =>
  (broken.reverse.find? isOnValues).or broken.head?

end Constraint

end OutageLedger
