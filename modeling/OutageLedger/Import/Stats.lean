import OutageLedger.Text.Decimal

/-
  What became of the alerts of a run, in numbers.
-/

namespace OutageLedger

open Text

structure ImportStats where
  totalFetched : Nat
  newOutages : Nat
  newAlerts : Nat
  /-- Alerts that were on record already. -/
  skipped : Nat
  errors : Nat
  deriving DecidableEq, Repr

namespace ImportStats

def zero : ImportStats :=
  ⟨0, 0, 0, 0, 0⟩

/-- The five numbers, one a line. -/
def summary (s : ImportStats) : String :=
  s!"Total fetched: {natText s.totalFetched}\nNew outages:   {natText s.newOutages}\n" ++
    s!"New alerts:    {natText s.newAlerts}\nSkipped:       {natText s.skipped}\n" ++
    s!"Errors:        {natText s.errors}"

end ImportStats

end OutageLedger
