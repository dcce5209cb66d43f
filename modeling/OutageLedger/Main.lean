import OutageLedger.Command.Dispatch
import OutageLedger.Store.Opening
import Std.Time.DateTime.Timestamp

/-
  The program: the command with the files, the clock, and the environment of the machine. No network is
  at hand, so that every request goes without a reply.
-/

namespace OutageLedger.Machine

def save (s : OpenStore) : IO Unit :=
  match s.address.path with
  | none => pure ()
  | some path => IO.FS.writeBinFile path ⟨s.store.toBytes.toArray⟩

/-- The number that the system gives an error. -/
def errorNumber? : IO.Error → Option UInt32
  | .noFileOrDirectory _ number _ => some number
  | .inappropriateType _ number _ => some number
  | .invalidArgument _ number _ => some number
  | _ => none

def fileError (e : IO.Error) : FileError :=
  match errorNumber? e with
  | some 2 => .notFound
  | some 20 => .notDirectory
  | some 21 => .isDirectory
  | some 36 => .nameTooLong
  | _ => .other (toString e)

def readFile (path : String) : IO (Except FileError (List UInt8)) := do
  try
    let bytes ← IO.FS.readBinFile path
    pure (.ok bytes.toList)
  catch e => pure (.error (fileError e))

def siteAt (path : String) : IO StoreSite := do
  match ← readFile path with
  | .ok bytes => pure (.file bytes)
  | .error .notFound => pure .vacant
  | .error .isDirectory => pure .directory
  | .error _ => pure .nowhere

/-- Opens the store at an address, which was given as a text. -/
def openAt (text : String) (a : StoreAddress) : IO (Except BackendError OpenStore) := do
  match a.path with
  | none => pure ((a.fresh true).map (OpenStore.mk a))
  | some path =>
    let site ← siteAt path
    try
      if a.siteAfter site ≠ site then IO.FS.writeBinFile path ⟨#[]⟩
      match a.storeAt text true site with
      | .error e => pure (.error e)
      | .ok store =>
        let s : OpenStore := ⟨a, store⟩
        if a.isWritable then save s
        pure (.ok s)
    catch _ => pure (.error (.cannotOpen text))

def openStore (text : String) : IO (Except BackendError OpenStore) :=
  match StoreAddress.ofText text with
  | .ok a => openAt text a
  | .error e => pure (.error e)

def now : IO Instant := do
  let nanos := (← Std.Time.Timestamp.now).toNanosecondsSinceUnixEpoch.val
  pure ((Instant.ofParts? (nanos / 1000000000) (nanos % 1000000000).toNat).getD .epoch)

def newId : IO Uuid := do
  let bytes := (← IO.getRandomBytes 16).toList
  let word (bytes : List UInt8) : UInt64 := bytes.foldl (fun n b => n * 256 + b.toUInt64) 0
  pure (.ofRandom (word (bytes.take 8)) (word (bytes.drop 8)))

/-- Answers the calls of the command. -/
def answer (current : IO.Ref OpenStore) : (c : CommandCall) → IO c.Reply
  | .getVariable name => IO.getEnv name
  | .contentsOf path => readFile path
  | .openStore path => do
    match ← openStore path with
    | .error e => pure (.error e)
    | .ok s =>
      current.set s
      pure (.ok ())
  | .store c => do
    let (result, s) := (← current.get).perform c
    current.set s
    if s.address.isWritable then save s
    pure result
  | .send _ => pure .unconnected
  | .pause => IO.sleep (.ofNat pageDelay)
  | .now => now
  | .newId => newId
  | .log e => do
    let time ← now
    IO.eprintln s!"{time.zulu} {e.line}"
  | .print text => IO.print text
  | .printError text => IO.eprint text

end OutageLedger.Machine

open OutageLedger

/-- Runs the command with the arguments of the program. -/
def main (arguments : List String) : IO UInt32 := do
  let current ← IO.mkRef OpenStore.memory
  let status ← (Command.importHistory arguments).runIn (Machine.answer current)
  pure status.code
