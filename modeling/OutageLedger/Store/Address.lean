import OutageLedger.Store.Error
import OutageLedger.Text.Percent

/-
  The addresses of stores: the path of a file, or a URI of the scheme "file" with options about how the
  file is to be used.
-/

namespace OutageLedger

open Text

/-- How a store may be used. -/
inductive StoreMode
  /-- It is there and is not changed. -/
  | readOnly
  /-- It is there. -/
  | readWrite
  /-- It is made if there is none. -/
  | create
  deriving DecidableEq, Repr

structure StoreAddress where
  /-- The path of its file. A store without one is in memory, and gone when it is closed. -/
  path : Option String
  mode : StoreMode
  /-- The file is said never to change. -/
  frozen : Bool
  deriving DecidableEq, Repr

/-- The store can be changed. -/
def StoreAddress.isWritable (a : StoreAddress) : Bool :=
  a.mode != .readOnly && !a.frozen

namespace StoreAddress

def memory : StoreAddress :=
  ⟨none, .create, false⟩

/-- The name for a store in memory. An empty name is such a name too. -/
def memoryName : String := ":memory:"

/-- The store in the file of a name. -/
def ofName (name : String) (mode : StoreMode) (frozen : Bool) : StoreAddress :=
  if name = "" ∨ name = memoryName then ⟨none, mode, false⟩ else ⟨some name, mode, frozen⟩

/-! ## Parts of a URI -/

/-- What a part of a URI says: its escapes are read, and a byte of zero ends it. -/
def uriPart (cs : List Char) : String :=
  String.ofList (Utf8.decodeLossy ((percentDecode cs).takeWhile (· != 0)))

/-- The name and the value of an option; without an equals sign there is no value. -/
def uriOption (cs : List Char) : String × String :=
  (uriPart (cs.takeWhile (· != '=')), uriPart ((cs.dropWhile (· != '=')).drop 1))

/-- The options, in order; one without a name is none. -/
def uriOptions (cs : List Char) : List (String × String) :=
  ((cs.splitOn '&').map uriOption).filter fun (name, _) => name != ""

def uriScheme : List Char := "file:".toList

/-- The part of a URI after its scheme and its authority, which may name no other machine. -/
def withoutAuthority : List Char → Except BackendError (List Char)
  | '/' :: '/' :: cs =>
    let authority := String.ofList (cs.takeWhile (· != '/'))
    if authority = "" ∨ authority = "localhost" then .ok (cs.dropWhile (· != '/'))
    else .error (.badAuthority authority)
  | cs => .ok cs

/-! ## Options -/

/-- The mode that an option asks for, where none stands for a store in memory. -/
def modeOfName? : String → Option (Option StoreMode)
  | "ro" => some (some .readOnly)
  | "rw" => some (some .readWrite)
  | "rwc" => some (some .create)
  | "memory" => some none
  | _ => none

/-- What was allowed allows another mode, unless that asks for more. A store in memory allows every mode
and is allowed by every mode. -/
def allows : Option StoreMode → Option StoreMode → Bool
  | none, _ | _, none | some .create, _ | _, some .readOnly => true
  | some .readWrite, some mode => mode == .readWrite
  | some .readOnly, some _ => false

/-- The mode after an option. -/
def readMode (mode : Option StoreMode) (option : String × String) :
    Except BackendError (Option StoreMode) :=
  match option with
  | ("cache", value) =>
    if value = "shared" ∨ value = "private" then .ok mode else .error (.noSuchMode "cache" value)
  | ("mode", value) =>
    match modeOfName? value with
    | none => .error (.noSuchMode "access" value)
    | some asked => if allows mode asked then .ok asked else .error (.modeNotAllowed value)
  | _ => .ok mode

/-- The systems by which files are reached. -/
def fileSystems : List String := ["unix", "unix-none", "unix-dotfile", "unix-excl"]

/-- The system that keeps a file in memory. -/
def memorySystem : String := "memdb"

/-- The last system that the options name must be a known one. Says whether it keeps files. -/
def keepsFiles (options : List (String × String)) : Except BackendError Bool :=
  match options.reverse.lookup "vfs" with
  | none => .ok true
  | some name =>
    if name ∈ fileSystems then .ok true
    else if name = memorySystem then .ok false
    else .error (.noSuchSystem name)

/-- A number of digits at the start of a text; too large a number counts as zero. -/
def leadingNumber (s : String) : Nat :=
  let n := (s.toList.takeWhile Char.isDigit).foldl (fun n c => n * 10 + (c.toNat - '0'.toNat)) 0
  if n < 0x80000000 then n else 0

/-- A text that says yes: a number whose last byte is not zero, or a word. -/
def isYes (s : String) : Bool :=
  if s.toList.head?.any Char.isDigit then leadingNumber s % 256 != 0
  else ["on", "yes", "true"].contains (s.map Char.toLower)

/-! ## Reading addresses -/

/-- The address that a URI without its scheme gives. -/
def ofUri (cs : List Char) : Except BackendError StoreAddress := do
  let rest ← withoutAuthority cs
  let named := rest.takeWhile (· != '#')
  let name := uriPart (named.takeWhile (· != '?'))
  let options := uriOptions ((named.dropWhile (· != '?')).drop 1)
  let mode ← options.foldlM readMode (some .create)
  let inFile ← keepsFiles options
  let frozen := (options.lookup "immutable").any isYes
  match mode with
  | none => pure memory
  | some mode =>
    let address := ofName name mode frozen
    pure (if inFile then address else { address with path := none })

/-- The address that a text gives. -/
def ofText (s : String) : Except BackendError StoreAddress :=
  let zero := Char.ofNat 0
  if s.toList.contains zero then
    .error (.zeroByte (Utf8.encode (s.toList.takeWhile (· != zero))).length)
  else if uriScheme.isPrefixOf s.toList then ofUri (s.toList.drop uriScheme.length)
  else .ok (ofName s .create false)

end StoreAddress

end OutageLedger
