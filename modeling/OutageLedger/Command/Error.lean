import OutageLedger.CommandLine.Basic
import OutageLedger.Config
import OutageLedger.Import.Error

/-
  Why a command fails, and how that is reported: what went wrong, and below it what caused it, one cause
  a line, each the cause of the one before.
-/

namespace OutageLedger

open Text

/-! ## Causes -/

def ProviderError.chain (e : ProviderError) : List String :=
  e.message ::
    match e with
    | .transport _ detail => [detail]
    | _ => []

def ConfigError.chain (e : ConfigError) : List String :=
  e.message ::
    match e with
    | .read _ file => [file.message]
    | .parse _ => [malformedConfig]
    | .missingKey _ => []

def IngestError.chain (e : IngestError) : List String :=
  e.message :: e.cause?.toList.map StoreError.message

def LiveError.chain : LiveError → List String
  | .provider e => e.chain
  | .ingest e => e.chain
  | .vanished id => [(LiveError.vanished id).message]

inductive CommandError
  /-- The command line asks for nothing. -/
  | mode (e : ModeError)
  /-- The configuration cannot be read. -/
  | config (e : ConfigError)
  /-- The configuration lacks what is asked for. -/
  | settings (e : ConfigError)
  | provider (e : ProviderError)
  | database (path : String) (e : StoreError)
  | backfill (e : ImportError)
  | live (externalId : String) (e : LiveError)

namespace CommandError

/-- What went wrong, followed by its causes. -/
def chain : CommandError → List String
  | mode e => [e.message]
  | config e => "failed to load configuration" :: e.chain
  | settings e => e.chain
  | provider e => e.chain
  | database path e => [s!"failed to open database {path}", e.message]
  | backfill e => "import failed" :: e.message :: e.cause.chain
  | live id e => s!"failed to import alert {id}" :: e.chain

end CommandError

/-! ## Reports -/

/-- A text of several lines whose lines after the first are indented. -/
def hanging (indent : String) (s : String) : String :=
  String.ofList (s.toList.flatMap fun c => if c = '\n' then '\n' :: indent.toList else [c])

/-- A cause that has no other cause. -/
def soleCause (s : String) : String :=
  "    " ++ hanging "    " s ++ "\n"

/-- One of several causes, with its number in five columns. -/
def numberedCause (s : String) (number : Nat) : String :=
  let digits := natText number
  String.ofList (List.replicate (5 - digits.length) ' ') ++ digits ++ ": " ++ hanging "       " s ++ "\n"

def causesText : List String → String
  | [] => ""
  | [cause] => "\nCaused by:\n" ++ soleCause cause
  | causes => "\nCaused by:\n" ++ String.join (causes.zipIdx.map fun (s, i) => numberedCause s i)

/-- What went wrong with its causes, as lines of text. -/
def CommandError.report (e : CommandError) : String :=
  match e.chain with
  | [] => ""
  | top :: causes => s!"Error: {top}\n" ++ causesText causes

end OutageLedger
