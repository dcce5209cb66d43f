import OutageLedger.Alert.Source
import OutageLedger.Instant.Reader
import OutageLedger.Text.Quoted
import OutageLedger.Uuid

/-
  The flags of the command line and the values that they take.
-/

namespace OutageLedger

open Text

inductive Flag
  | service
  | since
  | upTo
  | teams
  | listTeams
  | dryRun
  | config
  | batchSize
  | alert
  | outage
  | help
  deriving DecidableEq, Repr

namespace Flag

def all : List Flag :=
  [service, since, upTo, teams, listTeams, dryRun, config, batchSize, alert, outage, help]

/-- The name of a flag, which stands after two hyphens. -/
def name : Flag → String
  | service => "service"
  | since => "since"
  | upTo => "until"
  | teams => "teams"
  | listTeams => "list-teams"
  | dryRun => "dry-run"
  | config => "config"
  | batchSize => "batch-size"
  | alert => "alert"
  | outage => "outage"
  | help => "help"

def ofName? (name : String) : Option Flag :=
  all.find? (·.name == name)

/-- The flags that stand alone. -/
def isSwitch : Flag → Bool
  | listTeams | dryRun | help => true
  | _ => false

end Flag

/-! ## Numbers -/

/-- What is wrong with a text that is no batch size. -/
inductive BatchSizeError
  | noDigits
  | badDigit
  | tooLarge
  | tooSmall
  | outside (value : Int)
  deriving DecidableEq, Repr

/-- The largest batch size. -/
def maxBatchSize : Nat := 10000

def BatchSizeError.message : BatchSizeError → String
  | .noDigits => "cannot parse integer from empty string"
  | .badDigit => "invalid digit found in string"
  | .tooLarge => "number too large to fit in target type"
  | .tooSmall => "number too small to fit in target type"
  | .outside value => s!"{intText value} is not in 1..={natText maxBatchSize}"

/-- Digits after a number read so far; what is wrong first is reported. -/
def readDigits (max : Nat) (overflow : BatchSizeError) : Nat → List Char → Except BatchSizeError Nat
  | acc, [] => .ok acc
  | acc, c :: cs =>
    if !isDigit c then .error .badDigit
    else if max < acc * 10 + digitValue c then .error overflow
    else readDigits max overflow (acc * 10 + digitValue c) cs

/-- The largest number of 64 bits with a sign. -/
def maxInteger : Nat := 0x7FFFFFFFFFFFFFFF

/-- A number of 64 bits with its sign. -/
def readInteger : List Char → Except BatchSizeError Int
  | [] => .error .noDigits
  | ['+'] | ['-'] => .error .badDigit
  | '+' :: cs => (readDigits maxInteger .tooLarge 0 cs).map Int.ofNat
  | '-' :: cs => (readDigits (maxInteger + 1) .tooSmall 0 cs).map fun n => -(Int.ofNat n)
  | cs => (readDigits maxInteger .tooLarge 0 cs).map Int.ofNat

/-- A number from one to the largest batch size. -/
def readBatchSize (s : String) : Except BatchSizeError UInt32 := do
  let n ← readInteger s.toList
  if 1 ≤ n ∧ n ≤ maxBatchSize then .ok (.ofNat n.toNat) else .error (.outside n)

/-! ## What is wrong with a value -/

inductive ValueError
  | service (e : UnknownSource)
  | date (text : String) (e : TimestampError)
  | batchSize (e : BatchSizeError)
  | outage (e : UuidError)

def ValueError.message : ValueError → String
  | .service e => e.message
  | .date text e => s!"invalid RFC3339 date {shown text}: {e.message}"
  | .batchSize e => e.message
  | .outage e => e.message

/-- Reads a point of time. -/
def readDate (s : String) : Except ValueError Instant :=
  match Instant.ofText s with
  | .ok t => .ok t
  | .error e => .error (.date s e)

end OutageLedger
