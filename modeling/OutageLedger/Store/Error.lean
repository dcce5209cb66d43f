import OutageLedger.Alert.Basic
import OutageLedger.Instant.Reader
import OutageLedger.Text.Decimal

/-
  What may go wrong in the store.
-/

namespace OutageLedger

open Text

/-- Why the text of a cell is no value of its column. -/
inductive CellError
  | status (e : UnknownStatus)
  | source (e : UnknownSource)
  | time (e : TimestampError)
  | id (e : UuidError)

def CellError.message : CellError → String
  | .status e => e.message
  | .source e => e.message
  | .time e => e.message
  | .id e => e.message

/-- Why a database refuses a call. -/
inductive BackendError
  /-- Another row has these values in these columns. -/
  | notUnique (columns : List String)
  /-- The row refers to a row that does not exist. -/
  | noReferent
  | noValue (column : String)
  | noColumn (name : String)
  | noTable (name : String)
  /-- A text that is no value of its column. -/
  | badText (index : Nat) (e : CellError)
  /-- A cell that holds no text. -/
  | badType (kind : String) (index : Nat) (column : String)
  | cannotOpen (path : String)
  /-- The file that is kept beside that of the database while it changes cannot be made. -/
  | cannotJournal
  | notDatabase
  /-- What is at its place is there but cannot be read. -/
  | unreadable
  /-- The database is only for reading. -/
  | readOnly
  /-- The address has a byte of zero. -/
  | zeroByte (position : Nat)
  /-- The address names another machine. -/
  | badAuthority (name : String)
  | noSuchMode (kind value : String)
  | modeNotAllowed (value : String)
  /-- There is no system of this name to reach files by. -/
  | noSuchSystem (name : String)
  | other (detail : String)

def BackendError.message : BackendError → String
  | .notUnique columns => "UNIQUE constraint failed: " ++ String.intercalate ", " columns
  | .noReferent => "FOREIGN KEY constraint failed"
  | .noValue column => s!"NOT NULL constraint failed: {column}"
  | .noColumn name => s!"no such column: {name}"
  | .noTable name => s!"no such table: {name}"
  | .badText index e => s!"Conversion error from type Text at index: {natText index}, {e.message}"
  | .badType kind index column =>
    s!"Invalid column type {kind} at index: {natText index}, name: {column}"
  | .cannotOpen path => s!"unable to open database file: {path}"
  | .cannotJournal => "unable to open database file"
  | .notDatabase => "file is not a database"
  | .unreadable => "disk I/O error"
  | .readOnly => "attempt to write a readonly database"
  | .zeroByte position => s!"nul byte found in provided data at position: {natText position}"
  | .badAuthority name => s!"invalid uri authority: {name}"
  | .noSuchMode kind value => s!"no such {kind} mode: {value}"
  | .modeNotAllowed value => s!"access mode not allowed: {value}"
  | .noSuchSystem name => s!"no such vfs: {name}"
  | .other detail => detail

inductive StoreError
  /-- An alert with this identity is on record. -/
  | duplicate (key : AlertKey)
  | backend (e : BackendError)

def StoreError.message : StoreError → String
  | .duplicate key => s!"alert {key.externalId} from {key.source} already exists"
  | .backend e => s!"store backend error: {e.message}"

end OutageLedger
