import OutageLedger.Import.Call

/-
  Taking in an alert: looking it up, and adding it to an outage. An outage opened for an alert that
  cannot be added is removed again.
-/

namespace OutageLedger.Importer

/-- The time that an outage opened for an alert bears. -/
inductive Stamp
  /-- When the alert was triggered. -/
  | trigger
  /-- When the alert is taken in. -/
  | now
  deriving DecidableEq, Repr

def Stamp.time (s : Stamp) (a : Alert) (now : Instant) : Instant :=
  match s with
  | trigger => a.triggeredAt
  | .now => now

/-- An alert that was added, to an outage opened for it or to another. -/
structure Created where
  record : AlertRecord
  newOutage : Bool
  deriving DecidableEq, Repr

/-- The alert on record with the identity of an alert. -/
def existing (a : Alert) : Importer (Except IngestError (Option AlertRecord)) := do
  match ← store (.find a.key) with
  | .ok r => pure (.ok r)
  | .error e => pure (.error (.lookup a.externalId e))

/-- What is reported when the store refuses an alert. -/
def refusal (a : Alert) : StoreError → IngestError
  | .duplicate key => .duplicate key
  | .backend e => .createAlert a.externalId (.backend e)

/-- Deletes an outage; it is noted if there is none. -/
def deleteOutage (id : Uuid) : Importer (Except StoreError Unit) := do
  match ← store (.deleteOutage id) with
  | .ok true => pure (.ok ())
  | .ok false =>
    note (.noSuchOutage id)
    pure (.ok ())
  | .error e => pure (.error e)

/-- Removes the outage opened for an alert that the store refused with `e`. -/
def takeBack (a : Alert) (outageId : Uuid) (e : StoreError) : Importer IngestError := do
  match ← deleteOutage outageId with
  | .ok () =>
    note (.rolledBack outageId)
    pure (refusal a e)
  | .error cleanup =>
    note (.cleanupFailed a.externalId outageId cleanup)
    pure (.compensation a.externalId outageId e cleanup)

/-- Adds an alert to an outage, which was opened for it if `newOutage`. -/
def attach (a : Alert) (outageId : Uuid) (newOutage : Bool) (time : Instant) :
    Importer (Except IngestError Created) := do
  let record : AlertRecord := ⟨← newId, outageId, a, time⟩
  match ← store (.createAlert record) with
  | .ok () => pure (.ok ⟨record, newOutage⟩)
  | .error e =>
    if newOutage then
      let failed ← takeBack a outageId e
      pure (.error failed)
    else pure (.error (refusal a e))

/-- Adds an alert to the outage `target`, or to one opened for it. -/
def create (stamp : Stamp) (a : Alert) (target : Option Uuid) :
    Importer (Except IngestError Created) := do
  let time ← now
  match target with
  | some outageId => attach a outageId false time
  | none =>
    let outage := a.openOutage (← newId) (stamp.time a time)
    match ← store (.createOutage outage) with
    | .ok () => attach a outage.id true time
    | .error e => pure (.error (.createOutage a.externalId e))

end OutageLedger.Importer
