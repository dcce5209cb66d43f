import OutageLedger.Config
import OutageLedger.Http.Request
import OutageLedger.Journal
import OutageLedger.Program
import OutageLedger.Store.Call

/-
  The calls that the command makes: variables of the environment, files, the database, requests to the
  paging service, the clock, new ids, and what it prints.
-/

namespace OutageLedger

inductive CommandCall
  /-- The value of a variable of the environment. -/
  | getVariable (name : String)
  | contentsOf (path : String)
  /-- Opens the database at a path; the calls on the store that follow are about it. -/
  | openStore (path : String)
  | store (c : StoreCall)
  | send (request : HttpRequest)
  | pause
  | now
  | newId
  /-- Puts an event of the journal on the error output. -/
  | log (e : Event)
  | print (text : String)
  | printError (text : String)

abbrev CommandCall.Reply : CommandCall → Type
  | getVariable _ => Option String
  | contentsOf _ => Except FileError (List UInt8)
  | openStore _ => Except BackendError Unit
  | store c => Except StoreError c.Answer
  | send _ => HttpReply
  | pause | log _ | print _ | printError _ => Unit
  | now => Instant
  | newId => Uuid

/-- The calls of the command with their replies. -/
abbrev commanding : Signature :=
  ⟨CommandCall, CommandCall.Reply⟩

/-- A command that ends with a result. -/
abbrev Command (α : Type) : Type :=
  Program commanding α

namespace Command

def getVariable (name : String) : Command (Option String) :=
  Program.perform (S := commanding) (.getVariable name)

def contentsOf (path : String) : Command (Except FileError (List UInt8)) :=
  Program.perform (S := commanding) (.contentsOf path)

def openStore (path : String) : Command (Except BackendError Unit) :=
  Program.perform (S := commanding) (.openStore path)

def store (c : StoreCall) : Command (Except StoreError c.Answer) :=
  Program.perform (S := commanding) (.store c)

def send (request : HttpRequest) : Command HttpReply :=
  Program.perform (S := commanding) (.send request)

def pause : Command Unit :=
  Program.perform (S := commanding) .pause

def now : Command Instant :=
  Program.perform (S := commanding) .now

def newId : Command Uuid :=
  Program.perform (S := commanding) .newId

def log (e : Event) : Command Unit :=
  Program.perform (S := commanding) (.log e)

def print (text : String) : Command Unit :=
  Program.perform (S := commanding) (.print text)

def printError (text : String) : Command Unit :=
  Program.perform (S := commanding) (.printError text)

end Command

end OutageLedger
