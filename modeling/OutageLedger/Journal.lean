import OutageLedger.Import.Error
import OutageLedger.Instant.Text
import OutageLedger.Provider.Basic
import OutageLedger.Text.Quoted

/-
  The journal: what is noted while the program works, with a level, the part of the program that notes
  it, a message, and named values.
-/

namespace OutageLedger

open Text

inductive Level
  | debug
  | info
  | warn
  | error
  deriving DecidableEq, Repr

def Level.name : Level → String
  | debug => "DEBUG"
  | info => "INFO"
  | warn => "WARN"
  | error => "ERROR"

/-- A named value of an entry. -/
inductive FieldValue
  | text (s : String)
  | nat (n : Nat)
  | bool (b : Bool)
  deriving DecidableEq, Repr

def FieldValue.show : FieldValue → String
  | text s => s
  | nat n => natText n
  | bool true => "true"
  | bool false => "false"

inductive Event
  | fetchedPage (source : Source) (offset : UInt32) (page : AlertPage)
  | offsetTooLarge (source : Source) (offset limit : UInt32)
  | wouldImport (alert : Alert)
  | skippedKnown (externalId : String)
  | skippedConcurrent (externalId : String)
  | imported (alert : Alert)
  | notImported (externalId : String) (e : IngestError)
  | cleanupFailed (externalId : String) (outageId : Uuid) (e : StoreError)
  | rolledBack (outageId : Uuid)
  | noSuchOutage (outageId : Uuid)
  | knownAlert (externalId : String) (outageId : Uuid)
  | importedAlert (externalId : String) (outageId : Uuid) (newOutage : Bool)
  | fetchingTeams (source : Source)
  | fetchedTeams (count : Nat)
  | errorStatus (source : Source) (status : Nat)
  | incidentPage (offset : UInt32) (incidents : Nat) (more : Bool)
  | droppedByTeam (offset : UInt32) (scanned kept : Nat)
  | startingImport (request : FetchRequest) (dryRun : Bool)

namespace Event

def level : Event → Level
  | fetchedPage .. | wouldImport _ | skippedKnown _ | skippedConcurrent _ | imported _
  | knownAlert .. | importedAlert .. | fetchingTeams _ | startingImport .. => .info
  | offsetTooLarge .. | notImported .. => .warn
  | cleanupFailed .. => .error
  | rolledBack _ | noSuchOutage _ | fetchedTeams _ | errorStatus .. | incidentPage ..
  | droppedByTeam .. => .debug

/-- The part of the program that notes an event. -/
def target : Event → String
  | fetchedPage .. | offsetTooLarge .. | wouldImport _ | skippedKnown _ | skippedConcurrent _
  | imported _ | notImported .. => "outalator_ingest::driver"
  | cleanupFailed .. | rolledBack _ => "outalator_ingest::aggregate"
  | noSuchOutage _ => "outalator_store_sqlite::store"
  | knownAlert .. | importedAlert .. => "outalator_ingest::live"
  | fetchingTeams _ | fetchedTeams _ => "outalator_ingest::teams"
  | errorStatus .. => "outalator_core::http"
  | incidentPage .. => "outalator_source_pagerduty::source"
  | droppedByTeam .. => "outalator_source_opsgenie::source"
  | startingImport .. => "import_history::cmd_backfill"

def message : Event → String
  | fetchedPage .. => "fetched page"
  | offsetTooLarge .. => "next offset out of range, stopping"
  | wouldImport _ => "dry run: would import"
  | skippedKnown _ => "skipping: already exists"
  | skippedConcurrent _ => "skipping: inserted concurrently"
  | imported _ => "imported"
  | notImported .. => "failed to import alert"
  | cleanupFailed .. => "failed to delete outage after alert insert failed"
  | rolledBack _ => "rolled back outage"
  | noSuchOutage _ => "delete_outage: no such outage"
  | knownAlert .. => "alert already imported"
  | importedAlert .. => "imported alert"
  | fetchingTeams _ => "fetching teams"
  | fetchedTeams _ => "fetched teams"
  | errorStatus .. => "provider returned error status"
  | incidentPage .. => "pagerduty incidents page"
  | droppedByTeam .. => "opsgenie team filter dropped alerts"
  | startingImport .. => "starting import"

def sourceField (s : Source) : String × FieldValue :=
  ("source", .text s.name)

def offsetField (n : UInt32) : String × FieldValue :=
  ("offset", .nat n.toNat)

def idField (id : String) : String × FieldValue :=
  ("external_id", .text id)

def outageField (id : Uuid) : String × FieldValue :=
  ("outage_id", .text (toString id))

/-- The named values of an event, in order. -/
def fields : Event → List (String × FieldValue)
  | fetchedPage s offset p =>
    [sourceField s, offsetField offset, ("fetched", .nat p.alerts.length), ("scanned", .nat p.scanned),
      ("has_more", .bool p.hasMore)]
  | offsetTooLarge s offset limit =>
    [sourceField s, offsetField offset, ("limit", .nat limit.toNat)]
  | wouldImport a =>
    [idField a.externalId, ("title", .text a.title), ("team", .text a.teamName),
      ("triggered_at", .text a.triggeredAt.stamp)]
  | skippedKnown id | skippedConcurrent id => [idField id]
  | imported a => [idField a.externalId, ("title", .text a.title), ("team", .text a.teamName)]
  | notImported id e => [idField id, ("error", .text e.message)]
  | cleanupFailed id outageId e =>
    [idField id, outageField outageId, ("error", .text e.message)]
  | rolledBack outageId | noSuchOutage outageId => [outageField outageId]
  | knownAlert id outageId => [idField id, outageField outageId]
  | importedAlert id outageId newOutage =>
    [idField id, outageField outageId, ("new_outage", .bool newOutage)]
  | fetchingTeams s => [sourceField s]
  | fetchedTeams count => [("count", .nat count)]
  | errorStatus s status => [sourceField s, ("status", .nat status)]
  | incidentPage offset incidents more =>
    [offsetField offset, ("incidents", .nat incidents), ("more", .bool more)]
  | droppedByTeam offset scanned kept =>
    [offsetField offset, ("scanned", .nat scanned), ("kept", .nat kept)]
  | startingImport r dryRun =>
    [("since", .text r.since.zuluSecond), ("until", .text (shownOption (r.upTo.map Instant.zuluSecond))),
      ("teams", .text (shownList r.teamIds)), ("batch_size", .nat r.limit.toNat),
      ("dry_run", .bool dryRun)]

/-- An event as a line of text after its time. -/
def line (e : Event) : String :=
  let level := e.level.name
  let padded := String.ofList (List.replicate (5 - level.length) ' ') ++ level
  let values := e.fields.map fun (name, value) => s!" {name}={value.show}"
  s!"{padded} {e.target}: {e.message}{String.join values}"

end Event

end OutageLedger
