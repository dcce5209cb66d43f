import OutageLedger.Import.Creation
import OutageLedger.Import.Stats

/-
  Importing the alerts of a window of time, page by page. An alert that cannot be taken in is counted;
  a page that cannot be fetched ends the run. The run ends with the last page, with a page for which
  the service read nothing, or where the next offset would be too large.
-/

namespace OutageLedger.Importer

/-- Takes in one alert, unless it is on record. -/
def ingest (a : Alert) : Importer (Except IngestError (Option Created)) := do
  match ← existing a with
  | .error e => pure (.error e)
  | .ok (some _) => pure (.ok none)
  | .ok none =>
    match ← create .trigger a none with
    | .ok c => pure (.ok (some c))
    | .error e => pure (.error e)

/-- Takes in one alert and counts what became of it. -/
def process (stats : ImportStats) (a : Alert) : Importer ImportStats := do
  match ← ingest a with
  | .ok none =>
    note (.skippedKnown a.externalId)
    pure { stats with skipped := stats.skipped + 1 }
  | .ok (some c) =>
    note (.imported a)
    pure { stats with
      newOutages := stats.newOutages + (if c.newOutage then 1 else 0)
      newAlerts := stats.newAlerts + 1 }
  | .error (.duplicate _) =>
    note (.skippedConcurrent a.externalId)
    pure { stats with skipped := stats.skipped + 1 }
  | .error e =>
    note (.notImported a.externalId e)
    pure { stats with errors := stats.errors + 1 }

/-- Counts one alert as taken in. -/
def preview (stats : ImportStats) (a : Alert) : Importer ImportStats := do
  note (.wouldImport a)
  pure { stats with newOutages := stats.newOutages + 1, newAlerts := stats.newAlerts + 1 }

/-- Takes in the alerts of a page, or only counts them. -/
def processAll (dryRun : Bool) : ImportStats → List Alert → Importer ImportStats
  | stats, [] => pure stats
  | stats, a :: as => do
    let stats ← if dryRun then preview stats a else process stats a
    processAll dryRun stats as

/-- Fetches the page of a request and takes in its alerts, and then the pages after it. -/
def walk (source : Source) (dryRun : Bool) (stats : ImportStats) (r : FetchRequest)
    (h : r.limit ≠ 0) : Importer (ImportStats × Option ImportError) :=
  ask (.page r) >>= fun
    | .error e => pure (stats, some ⟨r.offset, e⟩)
    | .ok (page : AlertPage) => do
      note (.fetchedPage source r.offset page)
      let stats ← processAll dryRun
        { stats with totalFetched := stats.totalFetched + page.alerts.length } page.alerts
      if !page.hasMore || page.scanned = 0 then pure (stats, none)
      else
        match hn : r.next? with
        | none =>
          note (.offsetTooLarge source r.offset r.limit)
          pure (stats, none)
        | some next =>
          pause
          walk source dryRun stats next (r.limit_next hn ▸ h)
termination_by UInt32.size - r.offset.toNat
decreasing_by
  have h1 := r.toNat_offset_next hn
  have h2 : r.limit.toNat ≠ 0 := fun h0 => h (UInt32.toNat_inj.mp h0)
  have h3 := next.offset.toNat_lt
  have h4 : UInt32.size = 2 ^ 32 := rfl
  omega

/-- Imports the alerts of a window of time, adding to numbers counted before. -/
def backfill (source : Source) (dryRun : Bool) (stats : ImportStats) (r : FetchRequest) :
    Importer (ImportStats × Option ImportError) :=
  walk source dryRun stats { r with limit := r.effectiveLimit } r.effectiveLimit_ne_zero

end OutageLedger.Importer
