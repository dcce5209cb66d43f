import OutageLedger.Command.Call
import OutageLedger.Command.Error
import OutageLedger.CommandLine.Reader
import OutageLedger.Import.Backfill
import OutageLedger.Import.Live
import OutageLedger.Import.Teams
import OutageLedger.Journal.Filter
import OutageLedger.Provider.Service

/-
  The command: it reads its arguments and its configuration, and then lists the teams, imports one
  alert, or imports the alerts of a window of time. The configuration is read before the database is
  opened, and the database is opened before anything is sent.
-/

namespace OutageLedger

/-- How the command ends. -/
inductive ExitStatus
  | success
  | failure
  /-- The arguments cannot be read. -/
  | misuse
  deriving DecidableEq, Repr

def ExitStatus.code : ExitStatus → UInt32
  | success => 0
  | failure => 1
  | misuse => 2

namespace Command

/-! ## Settings -/

/-- The variables that set a filter for the journal; the first one that is set counts. -/
def filterVariables : List String := ["OUTALATOR_LOG", "RUST_LOG"]

def defaultFilter : String := "info"

/-- The variable that sets the path of the configuration. -/
def configVariable : String := "OUTALATOR_CONFIG"

/-- The value of the first variable that is set. -/
def firstVariable : List String → Command (Option String)
  | [] => pure none
  | name :: names => do
    match ← getVariable name with
    | some value => pure (some value)
    | none => firstVariable names

def printErrors : List String → Command Unit
  | [] => pure ()
  | text :: texts => do
    printError text
    printErrors texts

/-- The filter for the journal. What is no rule of it is complained about. -/
def logFilter : Command LogFilter := do
  let given := (← firstVariable filterVariables).getD defaultFilter
  printErrors (LogFilter.complaints given)
  pure (.ofText given)

/-- The values of the variables that are set. -/
def valuesOf : List String → Command (List (String × String))
  | [] => pure []
  | name :: names => do
    let value ← getVariable name
    let others ← valuesOf names
    pure ((value.toList.map fun v => (name, v)) ++ others)

def loadConfig (path : String) : Command (Except ConfigError Config) := do
  let file ← contentsOf path
  let environment ← valuesOf Config.variableNames
  pure (Config.load path file fun name => environment.lookup name)

/-- The client of a service with the configured settings. -/
def clientFor (source : Source) (config : Config) : Except CommandError ProviderClient :=
  match config.provider source with
  | .error e => .error (.settings e)
  | .ok settings => (ProviderClient.ofSettings source settings).mapError .provider

/-! ## Importers as commands -/

/-- Logs an event if the filter shows it. -/
def note (filter : LogFilter) (e : Event) : Command Unit :=
  if filter.shows e then log e else pure ()

def noteAll (filter : LogFilter) : List Event → Command Unit
  | [] => pure ()
  | e :: es => do
    note filter e
    noteAll filter es

/-- Asks a service by a request. -/
def ask (filter : LogFilter) (client : ProviderClient) (q : ProviderQuery) :
    Command (Except ProviderError q.Answer) :=
  match client.request q with
  | .error e => pure (.error (e.providerError client.source))
  | .ok request => do
    let reply ← send request
    noteAll filter (client.source.remarks q reply)
    pure (client.source.answer q reply)

/-- What the command does where an importer makes a call. -/
def carryOut (filter : LogFilter) (client : ProviderClient) : (c : ImportCall) → Command c.Reply
  | .ask q => ask filter client q
  | .pause => pause
  | .store c => store c
  | .now => now
  | .newId => newId
  | .note e => note filter e

/-- An importer that asks a service by requests. -/
def ofImporter {α : Type} (filter : LogFilter) (client : ProviderClient) (importer : Importer α) :
    Command α :=
  importer.interpret (T := commanding) (carryOut filter client)

/-! ## What is printed -/

/-- The line above the numbers of a run. -/
def heading (dryRun aborted : Bool) : String :=
  if aborted then "Import aborted"
  else if dryRun then "Dry run completed (no changes made)"
  else "Import completed"

def liveLine (i : Importer.LiveImport) : String :=
  let verb := if i.created then "Imported" else "Already imported"
  s!"{verb}: alert {i.record.alert.externalId} (id {i.record.id}) in outage {i.record.outageId}\n"

def teamList (teams : List Team) : String :=
  if teams.isEmpty then "No teams found.\n" else "Available teams:\n" ++ teamsText teams

/-! ## Modes -/

/-- Opens the database, and goes on if there is one. -/
def withDatabase {α : Type} (path : String) (next : Command (Except CommandError α)) :
    Command (Except CommandError α) := do
  match ← openStore path with
  | .error e => pure (.error (.database path (.backend e)))
  | .ok () => next

/-- Imports the alerts of a window of time. The numbers are printed even if the run breaks off. -/
def backfill (filter : LogFilter) (client : ProviderClient) (request : FetchRequest)
    (dryRun : Bool) : Command (Except CommandError Unit) := do
  note filter (.startingImport request dryRun)
  let (stats, e) ← ofImporter filter client (Importer.backfill client.source dryRun .zero request)
  print s!"{heading dryRun e.isSome}\n{stats.summary}\n"
  match e with
  | some e => pure (.error (.backfill e))
  | none => pure (.ok ())

def live (filter : LogFilter) (client : ProviderClient) (id : String) (outage : Option Uuid) :
    Command (Except CommandError Unit) := do
  match ← ofImporter filter client (Importer.importAlert id outage) with
  | .error e => pure (.error (.live id e))
  | .ok i =>
    print (liveLine i)
    pure (.ok ())

def listTeams (filter : LogFilter) (client : ProviderClient) : Command (Except CommandError Unit) := do
  match ← ofImporter filter client (Importer.listTeams client.source) with
  | .error e => pure (.error (.provider e))
  | .ok teams =>
    print (teamList teams)
    pure (.ok ())

/-- Does what a mode asks for. Only an import that writes opens the database. -/
def perform (filter : LogFilter) (client : ProviderClient) (database : String) :
    Mode → Command (Except CommandError Unit)
  | .listTeams => listTeams filter client
  | .live id outage => withDatabase database (live filter client id outage)
  | .backfill request true => backfill filter client request true
  | .backfill request false => withDatabase database (backfill filter client request false)

/-! ## The whole command -/

/-- Does what a command line asks for. -/
def execute (c : CommandLine) : Command (Except CommandError Unit) := do
  let filter ← logFilter
  let time ← now
  match c.mode time with
  | .error e => pure (.error (.mode e))
  | .ok mode =>
    match ← loadConfig c.config with
    | .error e => pure (.error (.config e))
    | .ok config =>
      match clientFor c.service config with
      | .error e => pure (.error e)
      | .ok client => perform filter client config.database mode

/-- Reads the arguments, does what they ask for, and reports what goes wrong. -/
def importHistory (arguments : List String) : Command ExitStatus := do
  let environment ← getVariable configVariable
  match CommandLine.ofArguments arguments environment with
  | .error .helpRequested =>
    print UsageError.help
    pure .success
  | .error e =>
    printError e.report
    pure .misuse
  | .ok c =>
    match ← execute c with
    | .ok () => pure .success
    | .error e =>
      printError e.report
      pure .failure

end Command

end OutageLedger
