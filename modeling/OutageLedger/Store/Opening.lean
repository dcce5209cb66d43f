import OutageLedger.Store.Address
import OutageLedger.Store.Call
import OutageLedger.Store.File

/-
  Opening a store: what comes of what is found at its place, and the calls on a store that was opened.
  Main statement: `perform_of_not_writable`, a store that was opened for reading stays as it is.
-/

namespace OutageLedger

/-- What is found at the place of a store. -/
inductive StoreSite
  /-- There can be no file at such a place. -/
  | nowhere
  /-- A file can be made there. -/
  | vacant
  | directory
  | file (bytes : List UInt8)
  deriving DecidableEq, Repr

/-- A store with the address by which it was opened. -/
structure OpenStore where
  address : StoreAddress
  store : Store

namespace StoreAddress

/-- A new store, whose tables have to be written, which takes room for a file beside its own. -/
def fresh (a : StoreAddress) (roomBeside : Bool) : Except BackendError Store :=
  if !a.isWritable then .error .readOnly
  else if roomBeside then .ok .empty
  else .error .cannotJournal

/-- Contents of a file that count as those of an empty file. -/
def isBare (bytes : List UInt8) : Bool :=
  bytes.length ≤ 1

/-- The store at a site, for the path that was given. -/
def storeAt (a : StoreAddress) (path : String) (roomBeside : Bool) :
    StoreSite → Except BackendError Store
  | .nowhere => .error (.cannotOpen path)
  | .vacant => if a.mode = .create then a.fresh roomBeside else .error (.cannotOpen path)
  | .directory => .error (if a.mode = .readOnly then .unreadable else .cannotOpen path)
  | .file bytes =>
    if isBare bytes then a.fresh roomBeside
    else
      match Store.ofBytes? bytes with
      | some s => .ok s
      | none => .error .notDatabase

/-- What is at a site once it was tried to open a store there. -/
def siteAfter (a : StoreAddress) : StoreSite → StoreSite
  | .vacant => if a.mode = .create then .file [] else .vacant
  | site => site

end StoreAddress

namespace StoreCall

/-- The call changes nothing. -/
def isRead : StoreCall → Bool
  | find _ => true
  | createOutage _ | deleteOutage _ | createAlert _ => false

end StoreCall

namespace OpenStore

def memory : OpenStore :=
  ⟨.memory, .empty⟩

/-- Performs a call, unless it is to change a store that is only for reading. -/
def perform (s : OpenStore) (c : StoreCall) : Except StoreError c.Answer × OpenStore :=
  if s.address.isWritable || c.isRead then
    let (answer, store) := s.store.perform c
    (answer, { s with store })
  else (.error (.backend .readOnly), s)

/-- Closes the store and opens it again, by the same address. -/
def reopen (s : OpenStore) : Except BackendError OpenStore :=
  let store :=
    match s.address.path with
    | none => s.address.fresh true
    | some path => s.address.storeAt path true (.file s.store.toBytes)
  store.map (OpenStore.mk s.address)

theorem perform_of_not_writable {s : OpenStore} (h : s.address.isWritable = false) (c : StoreCall) :
    (s.perform c).2 = s := by
  cases c <;> simp [perform, h, StoreCall.isRead, Store.perform]

end OpenStore

end OutageLedger
