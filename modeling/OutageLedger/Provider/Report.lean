import OutageLedger.Alert.Json
import OutageLedger.Provider.Basic

/-
  Alerts as the services send them. Both services send the same things under different names, so one
  reader serves both, with the names as a parameter.
-/

namespace OutageLedger

/-- The names that a service uses in its reports. -/
structure Vocabulary where
  title : String
  severity : String
  createdAt : String
  acknowledgedAt : String
  resolvedAt : String
  teamName : String

def Source.vocabulary : Source → Vocabulary
  | .pagerDuty =>
    { title := "title"
      severity := "urgency"
      createdAt := "created_at"
      acknowledgedAt := "acknowledged_at"
      resolvedAt := "resolved_at"
      teamName := "summary" }
  | .opsGenie =>
    { title := "message"
      severity := "priority"
      createdAt := "createdAt"
      acknowledgedAt := "acknowledgedAt"
      resolvedAt := "closedAt"
      teamName := "name" }

/-- The name of the team of an alert that has none. -/
def unknownTeam : String := "unknown"

/-- An alert as a service sends it. -/
structure Report where
  id : String
  title : Option String
  description : Option String
  severity : Option String
  createdAt : Instant
  acknowledgedAt : Option Instant
  resolvedAt : Option Instant
  teams : List Team
  deriving DecidableEq, Repr

namespace Vocabulary

def reportNames (v : Vocabulary) : List String :=
  ["id", v.title, "description", v.severity, v.createdAt, v.acknowledgedAt, v.resolvedAt, "teams"]

def teamNames (v : Vocabulary) : List String :=
  ["id", v.teamName]

/-- A reference to a team; what it leaves out is empty. -/
def team? (v : Vocabulary) (j : Json) : Option Team := do
  let f ← j.fields? v.teamNames
  pure { id := ← f.withDefault "id" Json.text? "", name := ← f.withDefault v.teamName Json.text? "" }

def report? (v : Vocabulary) (j : Json) : Option Report := do
  let f ← j.fields? v.reportNames
  pure {
    id := ← f.required "id" Json.text?
    title := ← f.optional v.title Json.text?
    description := ← f.optional "description" Json.text?
    severity := ← f.optional v.severity Json.text?
    createdAt := ← f.required v.createdAt Instant.ofJson?
    acknowledgedAt := ← f.optional v.acknowledgedAt Instant.ofJson?
    resolvedAt := ← f.optional v.resolvedAt Instant.ofJson?
    teams := ← f.withDefault "teams" (Json.list? v.team?) [] }

end Vocabulary

namespace Report

/-- The alert that a report describes; its team is the first one named. -/
def alert (r : Report) (source : Source) : Alert :=
  { externalId := r.id
    source
    teamName := match r.teams with
      | [] => unknownTeam
      | team :: _ => team.name
    title := r.title.getD ""
    description := r.description.getD ""
    severity := r.severity.getD ""
    triggeredAt := r.createdAt
    acknowledgedAt := r.acknowledgedAt
    resolvedAt := r.resolvedAt }

/-- One of the teams of the report has one of the ids; no ids at all ask for every report. -/
def matchesTeams (r : Report) (teamIds : List String) : Bool :=
  teamIds.isEmpty || r.teams.any fun team => teamIds.contains team.id

end Report

end OutageLedger
