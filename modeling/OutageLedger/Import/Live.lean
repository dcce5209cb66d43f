import OutageLedger.Import.Creation

/-
  Importing a single alert by its number at the paging service.
-/

namespace OutageLedger.Importer

/-- An alert on record, added just now or before. -/
structure LiveImport where
  record : AlertRecord
  created : Bool
  deriving DecidableEq, Repr

/-- Looks an alert up that the store has called a duplicate. -/
def reread (a : Alert) : Importer (Except LiveError LiveImport) := do
  match ← existing a with
  | .ok (some r) => pure (.ok ⟨r, false⟩)
  | .ok none => pure (.error (.vanished a.externalId))
  | .error e => pure (.error (.ingest e))

/-- Adds an alert that is not on record. -/
def importNew (a : Alert) (target : Option Uuid) : Importer (Except LiveError LiveImport) := do
  match ← create .now a target with
  | .ok c =>
    note (.importedAlert a.externalId c.record.outageId c.newOutage)
    pure (.ok ⟨c.record, true⟩)
  | .error (.duplicate _) => reread a
  | .error e => pure (.error (.ingest e))

/-- Fetches an alert and puts it on record, unless it is there: in the outage `target`, or in one
opened for it. -/
def importAlert (id : String) (target : Option Uuid) : Importer (Except LiveError LiveImport) := do
  match ← ask (.alert id) with
  | .error e => pure (.error (.provider e))
  | .ok (a : Alert) =>
    match ← existing a with
    | .error e => pure (.error (.ingest e))
    | .ok (some r) =>
      note (.knownAlert a.externalId r.outageId)
      pure (.ok ⟨r, false⟩)
    | .ok none => importNew a target

end OutageLedger.Importer
