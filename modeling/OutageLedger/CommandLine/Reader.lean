import OutageLedger.CommandLine.Basic
import OutageLedger.CommandLine.Flag

/-
  Reading a command line. A value stands in the argument of its flag after `=`, or is the next
  argument if that does not begin with a hyphen. A value in an argument of its own is taken in when
  the next known flag or the end of the line is reached.
-/

namespace OutageLedger

/-- Why a command line cannot be read. -/
inductive UsageError
  | unknownArgument (argument : String)
  /-- Two flags that exclude each other, or one flag twice. -/
  | conflict
  | missingArguments (flags : List Flag)
  | badValue (flag : Flag) (e : ValueError)
  /-- A flag without the value it takes. -/
  | missingValue (flag : Flag)
  /-- A value for a flag that takes none. -/
  | unexpectedValue (flag : Flag)
  | helpRequested

/-! ## Settings read so far -/

/-- The settings that a command line gives. -/
structure Given where
  service : Option Source
  since : Option Instant
  upTo : Option Instant
  teams : Option String
  listTeams : Bool
  dryRun : Bool
  config : Option String
  batchSize : Option UInt32
  alert : Option String
  outage : Option Uuid

namespace Given

def none : Given :=
  ⟨.none, .none, .none, .none, false, false, .none, .none, .none, .none⟩

/-- A setting that was not given before. -/
def once {α : Type} (current : Option α) (value : Except UsageError α) : Except UsageError α :=
  if current.isSome then .error .conflict else value

def checked {α : Type} (flag : Flag) : Except ValueError α → Except UsageError α
  | .ok a => .ok a
  | .error e => .error (.badValue flag e)

/-- A path is not empty. -/
def path (flag : Flag) (s : String) : Except UsageError String :=
  if s = "" then .error (.missingValue flag) else .ok s

/-- Takes in a flag with its value. -/
def assign (g : Given) (flag : Flag) (s : String) : Except UsageError Given :=
  match flag with
  | .service => do
    let v ← once g.service (checked flag ((Source.ofName s).mapError .service))
    pure { g with service := some v }
  | .since => do
    let v ← once g.since (checked flag (readDate s))
    pure { g with since := some v }
  | .upTo => do
    let v ← once g.upTo (checked flag (readDate s))
    pure { g with upTo := some v }
  | .teams => do
    let v ← once g.teams (.ok s)
    pure { g with teams := some v }
  | .config => do
    let v ← once g.config (path flag s)
    pure { g with config := some v }
  | .batchSize => do
    let v ← once g.batchSize (checked flag ((readBatchSize s).mapError .batchSize))
    pure { g with batchSize := some v }
  | .alert => do
    let v ← once g.alert (.ok s)
    pure { g with alert := some v }
  | .outage => do
    let v ← once g.outage (checked flag ((Uuid.ofText s).mapError .outage))
    pure { g with outage := some v }
  | .listTeams | .dryRun | .help => .error (.unexpectedValue flag)

/-- Takes in a flag that stands alone. -/
def switchOn (g : Given) (flag : Flag) : Except UsageError Given :=
  match flag with
  | .listTeams => if g.listTeams then .error .conflict else .ok { g with listTeams := true }
  | .dryRun => if g.dryRun then .error .conflict else .ok { g with dryRun := true }
  | .help => .error .helpRequested
  | _ => .error (.missingValue flag)

end Given

/-! ## Arguments -/

/-- The shape of an argument. -/
inductive Argument
  /-- Two hyphens. -/
  | stop
  /-- A name after two hyphens, and perhaps a value after `=`. -/
  | long (name : String) (value : Option String)
  /-- A letter after one hyphen. -/
  | short (letter : Char)
  | plain (s : String)

def Argument.ofText (s : String) : Argument :=
  match s.toList with
  | ['-', '-'] => .stop
  | '-' :: '-' :: cs =>
    match cs.dropWhile (· != '=') with
    | [] => .long (String.ofList cs) none
    | _ :: value => .long (String.ofList (cs.takeWhile (· != '='))) (some (String.ofList value))
  | '-' :: c :: _ => .short c
  | _ => .plain s

/-- The letter that asks for help. -/
def helpLetter : Char := 'h'

/-- A flag that takes a value, and the value once an argument gave it. -/
structure Pending where
  flag : Flag
  value : Option String

namespace Given

/-- Takes in the flag whose value is being read. -/
def settle (g : Given) : Option Pending → Except UsageError Given
  | .none => .ok g
  | some ⟨flag, .none⟩ => .error (.missingValue flag)
  | some ⟨flag, some value⟩ => g.assign flag value

/-- Takes in the arguments that follow. -/
def readFrom (g : Given) (pending : Option Pending) : List String → Except UsageError Given
  | [] => g.settle pending
  | s :: rest =>
    match Argument.ofText s with
    | .stop =>
      match rest with
      | [] => g.settle pending
      | s :: _ => .error (.unknownArgument s)
    | .long name value =>
      match Flag.ofName? name, value with
      | .none, _ => .error (.unknownArgument s)
      | some flag, .none =>
        if flag.isSwitch then do
          let g ← g.settle pending
          let g ← g.switchOn flag
          g.readFrom .none rest
        else do
          let g ← g.settle pending
          g.readFrom (some ⟨flag, .none⟩) rest
      | some flag, some value =>
        if flag.isSwitch then .error (.unexpectedValue flag)
        else do
          let g ← g.settle pending
          let g ← g.assign flag value
          g.readFrom .none rest
    | .short letter =>
      if letter = helpLetter then do
        let g ← g.settle pending
        let g ← g.switchOn .help
        g.readFrom .none rest
      else .error (.unknownArgument s)
    | .plain s =>
      match pending with
      | some ⟨flag, .none⟩ => g.readFrom (some ⟨flag, some s⟩) rest
      | _ => .error (.unknownArgument s)

/-- The path of the configuration: given, from the environment, or the default. -/
def configPath (g : Given) (environment : Option String) : Except UsageError String :=
  match g.config, environment with
  | some path, _ => .ok path
  | .none, some path => Given.path .config path
  | .none, .none => .ok "config.yaml"

/-- A single alert is neither listed with the teams nor previewed. -/
def hasConflict (g : Given) : Bool :=
  g.alert.isSome && (g.listTeams || g.dryRun)

/-- A window needs a start. -/
def lacksStart (g : Given) : Bool :=
  g.since.isNone && !g.listTeams && g.alert.isNone

/-- An outage needs an alert, where an alert is not excluded. -/
def lacksAlert (g : Given) : Bool :=
  g.outage.isSome && g.alert.isNone && !g.listTeams && !g.dryRun

/-- The flags to name when one of them is missing. -/
def missing (g : Given) : List Flag :=
  (if g.service.isNone then [.service] else []) ++
    (if g.outage.isSome && g.alert.isNone then [.alert] else []) ++
    (if g.lacksStart then [.since] else [])

/-- The settings, with defaults for what is not given. -/
def commandLine (g : Given) (environment : Option String) : Except UsageError CommandLine := do
  let config ← g.configPath environment
  if g.hasConflict then .error .conflict
  else
    match g.service with
    | .none => .error (.missingArguments g.missing)
    | some service =>
      if g.lacksAlert || g.lacksStart then .error (.missingArguments g.missing)
      else
        .ok {
          service
          since := g.since
          upTo := g.upTo
          teams := g.teams
          listTeams := g.listTeams
          dryRun := g.dryRun
          config
          batchSize := g.batchSize.getD defaultLimit
          alert := g.alert
          outage := g.outage }

end Given

/-- Reads the arguments of a command line. `environment` is the path that the environment sets for the
configuration. -/
def CommandLine.ofArguments (arguments : List String) (environment : Option String) :
    Except UsageError CommandLine := do
  let g ← Given.none.readFrom none arguments
  g.commandLine environment

/-! ## Reports -/

namespace UsageError

def flagText (f : Flag) : String :=
  "--" ++ f.name

/-- What is wrong, in one line. -/
def message : UsageError → String
  | unknownArgument argument => s!"unexpected argument {Text.shown argument}"
  | conflict => "these arguments cannot be used together"
  | missingArguments flags => "missing arguments: " ++ String.intercalate " " (flags.map flagText)
  | badValue flag e => s!"invalid value for {flagText flag}: {e.message}"
  | missingValue flag => s!"a value is required for {flagText flag}"
  | unexpectedValue flag => s!"{flagText flag} takes no value"
  | helpRequested => "help requested"

/-- What the command can be called with. -/
def help : String :=
  "Import historical alerts from PagerDuty or OpsGenie as outages\n\nUsage: import-history [OPTIONS] " ++
    "--service <SERVICE>\n\nOptions:\n" ++ String.join (Flag.all.map fun f => s!"  {flagText f}\n")

def report (e : UsageError) : String :=
  s!"error: {e.message}\n\nFor more information, try {flagText .help}.\n"

end UsageError

end OutageLedger
