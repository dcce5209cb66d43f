import OutageLedger.Alert.Source
import OutageLedger.File.Error
import OutageLedger.Text.Blank
import OutageLedger.Text.Utf8
import OutageLedger.Yaml.Node

/-
  The configuration: where the database is, and the key and the address of each paging service. It is
  read from a YAML file; variables of the environment go before what the file says.
-/

namespace OutageLedger

open Text Yaml

/-- The key and the address of a paging service. -/
structure ProviderSettings where
  apiKey : String
  /-- The service's own address when there is none or an empty one. -/
  apiUrl : Option String
  deriving DecidableEq, Repr

structure Config where
  database : String
  pagerDuty : Option ProviderSettings
  opsGenie : Option ProviderSettings
  deriving DecidableEq, Repr

def defaultDatabase : String := "outalator.db"

inductive ConfigError
  | read (path : String) (e : FileError)
  | parse (path : String)
  | missingKey (source : Source)
  deriving DecidableEq, Repr

/-- What is said of a file that holds no configuration. -/
def malformedConfig : String := "invalid configuration"

def ConfigError.message : ConfigError → String
  | .read path e => s!"failed to read config file {path}: {e.message}"
  | .parse path => s!"failed to parse config file {path}: {malformedConfig}"
  | .missingKey source => s!"{source} API key not configured"

/-! ## Reading nodes -/

namespace Yaml.Document

def text? (d : Document) (n : Node) : Option String :=
  match d.follow n with
  | .scalar _ _ text => some text
  | _ => none

/-- The values of the named fields of a record. A record is a mapping, whose other fields are passed
over, or nothing at all. -/
def fields? (d : Document) (names : List String) (n : Node) : Option (List (String × Node)) :=
  match d.follow n with
  | .mapping pairs => do
    let given ← pairs.mapM fun (k, v) => (d.text? k).map (·, v)
    let known := given.filter fun (name, _) => names.contains name
    if (known.map (·.1)).eraseDups.length = known.length then pure known else none
  | .scalar true _ "" => some []
  | _ => none

/-- The plain texts for nothing. -/
def nulls : List String := ["null", "Null", "NULL", "~"]

def nullTag : Tag := Tag.ofBasic "tag:yaml.org,2002:null".toList

/-- What `read` finds, or nothing in place of a plain text for nothing. A tag keeps such a text, unless
it is that of nothing, which only such a text may have. -/
def optional? {α : Type} (d : Document) (read : Node → Option α) (n : Node) : Option (Option α) :=
  match d.follow n with
  | .scalar true none text =>
    if text = "" ∨ text ∈ nulls then some none else (read n).map some
  | .scalar true (some tag) text =>
    if tag = nullTag then (if text ∈ nulls then some none else none) else (read n).map some
  | _ => (read n).map some

end Yaml.Document

namespace ProviderSettings

def empty : ProviderSettings :=
  ⟨"", none⟩

def ofNode? (d : Document) (n : Node) : Option ProviderSettings := do
  let fields ← d.fields? ["api_key", "api_url"] n
  let apiKey ← match fields.lookup "api_key" with
    | some n => d.text? n
    | none => some ""
  let apiUrl ← match fields.lookup "api_url" with
    | some n => d.optional? d.text? n
    | none => some none
  pure ⟨apiKey, apiUrl⟩

end ProviderSettings

namespace Config

def default : Config :=
  ⟨defaultDatabase, none, none⟩

/-- The path of the database in its section. -/
def databaseOfNode? (d : Document) (n : Node) : Option String := do
  let fields ← d.fields? ["path"] n
  match fields.lookup "path" with
  | some n => d.text? n
  | none => some defaultDatabase

def ofDocument? (d : Document) : Option Config := do
  let fields ← d.fields? ["database", "pagerduty", "opsgenie"] d.root
  let section? (name : String) : Option (Option ProviderSettings) :=
    match fields.lookup name with
    | some n => d.optional? (ProviderSettings.ofNode? d) n
    | none => some none
  let database ← match fields.lookup "database" with
    | some n => databaseOfNode? d n
    | none => some defaultDatabase
  pure ⟨database, ← section? "pagerduty", ← section? "opsgenie"⟩

/-- Reads a YAML text; a text without a document says nothing. -/
def ofText? (s : String) : Option Config :=
  if (trim s.toList).isEmpty then some default
  else
    match Yaml.document? s with
    | some (some d) => ofDocument? d
    | some none => some default
    | none => none

/-! ## The environment -/

/-- The variable for the key of a paging service. -/
def keyVariable : Source → String
  | .pagerDuty => "PAGERDUTY_API_KEY"
  | .opsGenie => "OPSGENIE_API_KEY"

/-- The variable for the address of a paging service. -/
def urlVariable : Source → String
  | .pagerDuty => "PAGERDUTY_API_URL"
  | .opsGenie => "OPSGENIE_API_URL"

/-- The variable for the path of the database. -/
def databaseVariable : String := "DB_PATH"

/-- All variables that a configuration depends on. -/
def variableNames : List String :=
  databaseVariable :: Source.all.flatMap fun s => [keyVariable s, urlVariable s]

/-- A section with what the environment says of it. -/
def overrideSection (given : Option ProviderSettings) (key url : Option String) :
    Option ProviderSettings :=
  match key, url with
  | none, none => given
  | _, _ =>
    let current := given.getD .empty
    some ⟨key.getD current.apiKey, url.or current.apiUrl⟩

/-- The value of a variable, unless it is empty. -/
def nonEmpty (lookup : String → Option String) (name : String) : Option String :=
  (lookup name).filter (· ≠ "")

def overrideBy (lookup : String → Option String) (source : Source)
    (given : Option ProviderSettings) : Option ProviderSettings :=
  overrideSection given (nonEmpty lookup (keyVariable source)) (nonEmpty lookup (urlVariable source))

/-- The configuration with what the environment says. -/
def applyEnvironment (c : Config) (lookup : String → Option String) : Config :=
  { database := (nonEmpty lookup databaseVariable).getD c.database
    pagerDuty := overrideBy lookup .pagerDuty c.pagerDuty
    opsGenie := overrideBy lookup .opsGenie c.opsGenie }

/-! ## Use -/

/-- Reads the contents of a file, with what the environment says. -/
def load (path : String) (file : Except FileError (List UInt8)) (lookup : String → Option String) :
    Except ConfigError Config :=
  match file with
  | .error e => .error (.read path e)
  | .ok bytes =>
    match Utf8.decode? bytes with
    | none => .error (.read path .notUtf8)
    | some cs =>
      match ofText? (String.ofList cs) with
      | none => .error (.parse path)
      | some c => .ok (c.applyEnvironment lookup)

def settings? (c : Config) : Source → Option ProviderSettings
  | .pagerDuty => c.pagerDuty
  | .opsGenie => c.opsGenie

/-- The settings of a paging service, which must have a key. -/
def provider (c : Config) (source : Source) : Except ConfigError ProviderSettings :=
  match c.settings? source with
  | some s => if s.apiKey = "" then .error (.missingKey source) else .ok s
  | none => .error (.missingKey source)

end Config

end OutageLedger
