import OutageLedger.Command.Call
import OutageLedger.File.Tree
import OutageLedger.Store.Opening

/-
  Rehearsals of the command: it works on files of its own, with a clock that stands still and without a
  network, and all that it prints is put on record.
-/

namespace OutageLedger

/-- What the command prints. -/
inductive Printing
  | output (text : String)
  | error (text : String)
  | event (e : Event)

/-- The command at work: the files and the open store as it has left them, how many ids it has drawn, and
what it has printed, in order. -/
structure CommandRehearsal where
  files : FileTree
  opened : OpenStore
  drawn : Nat
  printed : List Printing

namespace CommandRehearsal

/-- The command before it starts. -/
def before (files : FileTree) (drawn : Nat) : CommandRehearsal :=
  ⟨files, .memory, drawn, []⟩

def record (r : CommandRehearsal) (p : Printing) : CommandRehearsal :=
  { r with printed := r.printed ++ [p] }

/-! ## The store in its file -/

/-- The bytes that the path to a store may have at any of its names. -/
def tidyLimit : Nat := 510

/-- The bytes that the path to a store may have, so that the names of the files beside it fit too. -/
def storePathLimit : Nat := 504

/-- Where the path of a store leads. -/
def storeLocation? (files : FileTree) (path : String) : Option Location :=
  (files.tidy? tidyLimit path).filter fun l => l ≠ [] ∧ l.size ≤ storePathLimit

/-- How much longer than the name of a store's file those of the files beside it are, in bytes. -/
def besideSize : Nat := 8

/-- The names of the files beside that of a store are not too long. -/
def hasRoomBeside (l : Location) : Bool :=
  (l.getLast?.getD "").utf8ByteSize + besideSize ≤ Location.nameLimit

/-- What is at a location. -/
def siteAt (files : FileTree) (l : Location) : StoreSite :=
  if files.isDirectory l then .directory
  else
    match files.bytes? l with
    | some bytes => .file bytes
    | none => if files.isDirectory l.dropLast then .vacant else .nowhere

/-- The files after something was done at a location. -/
def withSite (files : FileTree) (l : Location) : StoreSite → FileTree
  | .file bytes => files.put l bytes
  | _ => files

/-- The rehearsal with the open store in its file. -/
def save (r : CommandRehearsal) : CommandRehearsal :=
  match r.opened.address.path.bind (storeLocation? r.files) with
  | some l => { r with files := r.files.put l r.opened.store.toBytes }
  | none => r

/-- Opens a store in the files. -/
def openAt (r : CommandRehearsal) (path : String) (a : StoreAddress) :
    Except BackendError Unit × CommandRehearsal :=
  let (store, files) : Except BackendError Store × FileTree :=
    match a.path with
    | none => (a.fresh true, r.files)
    | some name =>
      match storeLocation? r.files name with
      | none => (a.storeAt path true .nowhere, r.files)
      | some l =>
        let site := siteAt r.files l
        (a.storeAt path (hasRoomBeside l) site, withSite r.files l (a.siteAfter site))
  let r := { r with files }
  match store with
  | .ok store =>
    let r := { r with opened := ⟨a, store⟩ }
    (.ok (), if a.isWritable then r.save else r)
  | .error e => (.error e, r)

def openStore (r : CommandRehearsal) (path : String) : Except BackendError Unit × CommandRehearsal :=
  match StoreAddress.ofText path with
  | .ok a => r.openAt path a
  | .error e => (.error e, r)

def callStore (r : CommandRehearsal) (c : StoreCall) : Except StoreError c.Answer × CommandRehearsal :=
  let (answer, opened) := r.opened.perform c
  let r := { r with opened }
  (answer, if opened.address.isWritable && !c.isRead then r.save else r)

end CommandRehearsal

/-! ## Answers to the calls -/

/-- What the command meets in a rehearsal: its environment, the time, and the ids to draw. -/
structure CommandStage where
  environment : String → Option String
  time : Instant
  id : Nat → Uuid

namespace CommandStage

variable {α : Type}

def handler (s : CommandStage) : Handler commanding CommandRehearsal
  | .getVariable name, r => (s.environment name, r)
  | .contentsOf path, r => (r.files.contentsOf path, r)
  | .openStore path, r => r.openStore path
  | .store c, r => r.callStore c
  | .send _, r => (.unconnected, r)
  | .pause, r => ((), r)
  | .now, r => (s.time, r)
  | .newId, r => (s.id r.drawn, { r with drawn := r.drawn + 1 })
  | .log e, r => ((), r.record (.event e))
  | .print text, r => ((), r.record (.output text))
  | .printError text, r => ((), r.record (.error text))

/-- Runs a command from a state. -/
def rehearse (s : CommandStage) (command : Command α) (r : CommandRehearsal) : α × CommandRehearsal :=
  command.run s.handler r

end CommandStage

end OutageLedger
