import OutageLedger.Url.Domain.Direction
import OutageLedger.Url.Domain.Label

/-
  Domain names, after Unicode Technical Standard 46: a name is mapped, split at its dots into labels,
  each of which is checked, and written in ASCII.
-/

namespace OutageLedger.Domain

open Text

/-- The written form of a domain name. -/
def ofText? (cs : List Char) : Option (List Char) := do
  let name ← mapped? cs
  if name.any isForbidden then none
  else
    let labels ← (name.splitOn '.').mapM label?
    if areOrdered labels then pure (List.intercalate ['.'] (labels.map written)) else none

end OutageLedger.Domain
