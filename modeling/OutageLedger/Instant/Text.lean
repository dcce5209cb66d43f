import OutageLedger.Instant.Basic
import OutageLedger.Text.Decimal

/-
  Written instants, after RFC 3339: a date, `T`, a time of day with second 60 in a leap second, a
  fraction, and the offset from UTC. Years outside 0 to 9999 carry a sign and at least four digits.
-/

namespace OutageLedger

open Text

/-- Four digits, or a sign and at least four digits. -/
def yearText (year : Int) : List Char :=
  if 0 ≤ year ∧ year ≤ 9999 then fixed 4 year.toNat
  else
    let digits := if year.natAbs < 10000 then fixed 4 year.natAbs else decimal year.natAbs
    (if year < 0 then '-' else '+') :: digits

/-- No digits, or 3, 6 or 9 of them: the fewest that lose nothing. -/
def fractionText (nano : Nat) : List Char :=
  if nano = 0 then []
  else if nano % 1000000 = 0 then '.' :: fixed 3 (nano / 1000000)
  else if nano % 1000 = 0 then '.' :: fixed 6 (nano / 1000)
  else '.' :: fixed 9 nano

/-- Sign, hours and minutes of an offset in minutes. -/
def offsetText (minutes : Int) : List Char :=
  (if minutes < 0 then '-' else '+') ::
    (fixed 2 (minutes.natAbs / 60) ++ ':' :: fixed 2 (minutes.natAbs % 60))

namespace ClockReading

/-- Date and time of day to the second. -/
def toText (r : ClockReading) : List Char :=
  yearText r.date.year ++ '-' :: fixed 2 r.date.month ++ '-' :: fixed 2 r.date.day ++
    'T' :: fixed 2 r.hour ++ ':' :: fixed 2 r.minute ++ ':' :: fixed 2 r.second

end ClockReading

namespace Instant

/-- The instant as a clock `minutes` ahead of UTC shows it, with its offset. -/
def textAt (t : Instant) (minutes : Int) : List Char :=
  let r := t.reading (minutes * 60)
  r.toText ++ fractionText r.nano ++ offsetText minutes

/-- The form of stored times: UTC, written as offset `+00:00`. -/
def stamp (t : Instant) : String :=
  String.ofList (t.textAt 0)

/-- The form of times in JSON: UTC, written as `Z`. -/
def zulu (t : Instant) : String :=
  let r := t.reading 0
  String.ofList (r.toText ++ fractionText r.nano ++ ['Z'])

/-- The form of times in queries: UTC to the second, written as `Z`. -/
def zuluSecond (t : Instant) : String :=
  String.ofList ((t.reading 0).toText ++ ['Z'])

end Instant

end OutageLedger
