import OutageLedger.Json.Reader
import OutageLedger.Provider.Report

/-
  The answers of the services: a page of reports, a single report, and a list of teams. One service
  says whether there is more; the other gives a link to the next page, and its pages are filtered by
  team here.
-/

namespace OutageLedger

/-! ## Pages -/

/-- A page as a service sends it. -/
structure ReportPage where
  reports : List Report
  hasMore : Bool

/-- The link of a page to the next one. -/
def nextLink? (j : Json) : Option (Option String) := do
  let f ← j.fields? ["next"]
  f.optional "next" Json.text?

namespace Source

def reportPage? : Source → Json → Option ReportPage
  | .pagerDuty, j => do
    let f ← j.fields? ["incidents", "more"]
    let reports ← f.withDefault "incidents" (Json.list? pagerDuty.vocabulary.report?) []
    let more ← f.withDefault "more" Json.bool? false
    pure ⟨reports, more⟩
  | .opsGenie, j => do
    let f ← j.fields? ["data", "paging"]
    let reports ← f.withDefault "data" (Json.list? opsGenie.vocabulary.report?) []
    let next ← f.withDefault "paging" nextLink? none
    pure ⟨reports, match next with
      | some link => link ≠ ""
      | none => false⟩

/-- Whether the service leaves it to its client to filter a page by team. -/
def filtersHere : Source → Bool
  | .pagerDuty => false
  | .opsGenie => true

end Source

/-- The alerts of a page, of these the ones of the teams asked for. -/
def ReportPage.alertPage (p : ReportPage) (source : Source) (teamIds : List String) : AlertPage :=
  let kept := if source.filtersHere then p.reports.filter (·.matchesTeams teamIds) else p.reports
  { alerts := kept.map (·.alert source), hasMore := p.hasMore, scanned := p.reports.length }

/-! ## Single reports and teams -/

namespace Source

def itemName : Source → String
  | .pagerDuty => "incident"
  | .opsGenie => "data"

def item? (source : Source) (j : Json) : Option Report := do
  let f ← j.fields? [source.itemName]
  f.required source.itemName source.vocabulary.report?

def teamListName : Source → String
  | .pagerDuty => "teams"
  | .opsGenie => "data"

/-- A team of a list; only one of the services may leave its id out. -/
def team? (source : Source) (j : Json) : Option Team := do
  let f ← j.fields? Team.fieldNames
  let id ← match source with
    | .pagerDuty => f.required "id" Json.text?
    | .opsGenie => f.withDefault "id" Json.text? ""
  pure { id, name := ← f.withDefault "name" Json.text? "" }

def teams? (source : Source) (j : Json) : Option (List Team) := do
  let f ← j.fields? [source.teamListName]
  f.withDefault source.teamListName (Json.list? source.team?) []

/-! ## Answers as bytes -/

def pageOfBytes? (source : Source) (body : List UInt8) : Option ReportPage :=
  Json.ofBytes? body >>= source.reportPage?

def alertOfBytes? (source : Source) (body : List UInt8) : Option Alert :=
  (Json.ofBytes? body >>= source.item?).map (·.alert source)

def teamsOfBytes? (source : Source) (body : List UInt8) : Option (List Team) :=
  Json.ofBytes? body >>= source.teams?

end Source

end OutageLedger
