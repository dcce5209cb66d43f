import OutageLedger.Provider.Basic
import OutageLedger.Text.Blank

/-
  What a command line asks for: the teams, one alert, or the alerts of a window of time.
-/

namespace OutageLedger

open Text

/-- The settings of a command line. -/
structure CommandLine where
  service : Source
  since : Option Instant
  upTo : Option Instant
  teams : Option String
  listTeams : Bool
  dryRun : Bool
  config : String
  batchSize : UInt32
  alert : Option String
  outage : Option Uuid
  deriving DecidableEq, Repr

inductive Mode
  | listTeams
  | live (externalId : String) (outage : Option Uuid)
  | backfill (request : FetchRequest) (dryRun : Bool)
  deriving DecidableEq, Repr

/-- Why a command line asks for nothing. -/
inductive ModeError
  | noStart
  deriving DecidableEq, Repr

def ModeError.message : ModeError → String
  | .noStart => "--since is required (RFC3339, e.g. 2024-01-01T00:00:00Z)"

/-- The ids in a list with commas: blanks around an id and empty ids are passed over. -/
def idsOfText (s : String) : List String :=
  (((s.toList.splitOn ',').map trim).filter (!·.isEmpty)).map String.ofList

namespace CommandLine

def teamIds (c : CommandLine) : List String :=
  match c.teams with
  | some s => idsOfText s
  | none => []

/-- The mode of a command line; a window without an end ends at `now`. -/
def mode (c : CommandLine) (now : Instant) : Except ModeError Mode :=
  if c.listTeams then .ok .listTeams
  else
    match c.alert, c.since with
    | some id, _ => .ok (.live id c.outage)
    | none, none => .error .noStart
    | none, some since =>
      let request : FetchRequest :=
        { since
          upTo := some (c.upTo.getD now)
          teamIds := c.teamIds
          limit := c.batchSize
          offset := 0 }
      .ok (.backfill request c.dryRun)

end CommandLine

end OutageLedger
