import OutageLedger.Import.Call
import OutageLedger.Provider.Service

/-
  Rehearsals: an importer works on a store of its own, where planned faults befall some of its calls, and
  all that it does is put on record.
-/

namespace OutageLedger

/-! ## Faults -/

/-- The kinds of calls to a store. -/
inductive StoreCallKind
  | find
  | createOutage
  | deleteOutage
  | createAlert
  deriving DecidableEq, Repr

def StoreCall.kind : StoreCall → StoreCallKind
  | find _ => .find
  | createOutage _ => .createOutage
  | deleteOutage _ => .deleteOutage
  | createAlert _ => .createAlert

/-- What befalls a call, which then does not reach the store. -/
inductive Fault
  | backend (detail : String)
  /-- The call succeeds without an effect; a look-up finds nothing. -/
  | skip
  /-- An alert with this number, or with that of the call, is said to be on record. -/
  | duplicate (externalId : Option String)
  deriving DecidableEq, Repr

/-- A fault for the calls of a kind. -/
structure PlannedFault where
  kind : StoreCallKind
  /-- Which of them, counted from zero; all when absent. -/
  place : Option Nat
  fault : Fault
  deriving DecidableEq, Repr

/-- The first of the planned faults for the call of a kind at a place. -/
def faultAt? (plan : List PlannedFault) (kind : StoreCallKind) (place : Nat) : Option Fault :=
  (plan.find? fun f => f.kind = kind && f.place.all (· = place)).map (·.fault)

namespace StoreCall

/-- The answer of a call without an effect. -/
def skipped : (c : StoreCall) → c.Answer
  | find _ => none
  | deleteOutage _ => true
  | createOutage _ | createAlert _ => ()

/-- The identity of the alert that a call is about. -/
def key : StoreCall → AlertKey
  | find key => key
  | createAlert r => r.key
  | createOutage _ | deleteOutage _ => ⟨"", .pagerDuty⟩

end StoreCall

/-- What a call is answered with when a fault befalls it. -/
def Fault.answer (f : Fault) (c : StoreCall) : Except StoreError c.Answer :=
  match f with
  | backend detail => .error (.backend (.other detail))
  | skip => .ok c.skipped
  | duplicate externalId => .error (.duplicate { c.key with externalId := externalId.getD c.key.externalId })

/-! ## Records -/

/-- What an importer has done. -/
inductive Deed
  | asked (q : ProviderQuery)
  | paused
  | called (c : StoreCall) (outcome : Except StoreError c.Answer)
  | noted (e : Event)

/-- An importer at work: the service and the store as it has left them, how many ids it has drawn, and
what it has done, in order. -/
structure Rehearsal (π : Type) where
  provider : π
  store : Store
  drawn : Nat
  deeds : List Deed

namespace Rehearsal

variable {π : Type}

/-- Puts deeds on record. -/
def record (r : Rehearsal π) (deeds : List Deed) : Rehearsal π :=
  { r with deeds := r.deeds ++ deeds }

/-- How many calls of a kind are on record. -/
def callsOf (r : Rehearsal π) (kind : StoreCallKind) : Nat :=
  r.deeds.countP fun
    | .called c _ => c.kind = kind
    | _ => false

/-- Answers a call to the store, which a fault may befall. -/
def call (plan : List PlannedFault) (r : Rehearsal π) (c : StoreCall) :
    Except StoreError c.Answer × Rehearsal π :=
  match faultAt? plan c.kind (r.callsOf c.kind) with
  | some f =>
    let outcome := f.answer c
    (outcome, r.record [.called c outcome])
  | none =>
    let (outcome, store) := r.store.perform c
    (outcome, { r with store }.record [.called c outcome])

end Rehearsal

/-- What an importer meets in a rehearsal: a service, planned faults, a clock that stands still, and the
ids to draw. -/
structure Stage (π : Type) where
  provider : Provider π
  faults : List PlannedFault
  time : Instant
  id : Nat → Uuid

namespace Stage

variable {π α : Type}

def handler (s : Stage π) : Handler importing (Rehearsal π)
  | .ask q, r =>
    let (answer, remarks, provider) := s.provider.answer q r.provider
    (answer, { r with provider }.record (.asked q :: remarks.map .noted))
  | .pause, r => ((), r.record [.paused])
  | .store c, r => r.call s.faults c
  | .now, r => (s.time, r)
  | .newId, r => (s.id r.drawn, { r with drawn := r.drawn + 1 })
  | .note e, r => ((), r.record [.noted e])

/-- Runs an importer from a state. -/
def rehearse (s : Stage π) (importer : Importer α) (r : Rehearsal π) : α × Rehearsal π :=
  importer.run s.handler r

end Stage

end OutageLedger
