import OutageLedger.Proofs.Import.Paging
import OutageLedger.Provider.Service

/-
  What an importer meets: a paging service, and a world of which nothing is said but that it has a state.
  Neither sees the other: what asks the service nothing works in the world alone, and leaves the service as it
  is (`run_of_onlyWorks`).
-/

namespace OutageLedger

/-- What an importer works with besides a paging service: a store, a clock and a supply of ids, which may
keep a state. -/
structure World (ω : Type) where
  store : (c : StoreCall) → ω → Except StoreError c.Answer × ω
  now : ω → Instant × ω
  newId : ω → Uuid × ω

namespace World

variable {π ω α : Type} (w : World ω)

/-- The world with a paging service in it. Neither pauses nor notes change it. -/
def handler (p : Provider π) : Handler importing (π × ω)
  | .ask q, (x, y) => ((p.answer q x).1, (p.answer q x).2.2, y)
  | .pause, s => ((), s)
  | .store c, (x, y) => ((w.store c y).1, x, (w.store c y).2)
  | .now, (x, y) => ((w.now y).1, x, (w.now y).2)
  | .newId, (x, y) => ((w.newId y).1, x, (w.newId y).2)
  | .note _, s => ((), s)

/-- The world without a service: no question is answered. -/
def offline : Handler importing ω
  | .ask _, y => (.error (.transport .pagerDuty "no connection"), y)
  | .pause, y => ((), y)
  | .store c, y => w.store c y
  | .now, y => w.now y
  | .newId, y => w.newId y
  | .note _, y => ((), y)

variable {w}

/-- What asks no question works in the world as if there were no service. -/
theorem run_of_onlyWorks {p : Importer α} (hp : Importer.OnlyWorks p) (service : Provider π) (x : π)
    (y : ω) :
    p.run (w.handler service) (x, y) = ((p.run w.offline y).1, x, (p.run w.offline y).2) := by
  induction p generalizing y with
  | done a => rfl
  | call c next ih =>
    cases c with
    | ask q => cases hp.1
    | pause => exact ih () (hp.2 ()) y
    | store c => exact ih _ (hp.2 _) _
    | now => exact ih _ (hp.2 _) _
    | newId => exact ih _ (hp.2 _) _
    | note e => exact ih () (hp.2 ()) y

end World

end OutageLedger
