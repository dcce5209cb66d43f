import OutageLedger.Instant.Calendar

/-
  Instants: points of time to the nanosecond, in UTC, from year -262143 to year 262142. A second
  that ends a minute may be followed by a leap second, which keeps the number of that second and
  counts its nanoseconds from 10^9 on.
-/

namespace OutageLedger

def nanosPerSecond : Nat := 1000000000

def secondsPerDay : Int := 86400

structure Instant where
  /-- Seconds since 1970-01-01T00:00:00Z. -/
  second : Int
  /-- Nanoseconds within the second, from 10^9 on within the leap second after it. -/
  nano : Nat
  nano_lt : nano < 2 * nanosPerSecond
  leap : nanosPerSecond ≤ nano → second % 60 = 59
  first_le : -8334601228800 ≤ second
  le_last : second ≤ 8210266876799
  deriving DecidableEq, Repr

namespace Instant

/-- The instant with these parts, if there is one. -/
def ofParts? (second : Int) (nano : Nat) : Option Instant :=
  if h : (nano < 2 * nanosPerSecond ∧ (nanosPerSecond ≤ nano → second % 60 = 59)) ∧
      (-8334601228800 ≤ second ∧ second ≤ 8210266876799) then
    some ⟨second, nano, h.1.1, h.1.2, h.2.1, h.2.2⟩
  else none

/-- 1970-01-01T00:00:00Z. -/
def epoch : Instant :=
  ⟨0, 0, by decide, by decide, by decide, by decide⟩

theorem ofParts?_self (t : Instant) : ofParts? t.second t.nano = some t := by
  unfold ofParts?
  rw [dif_pos ⟨⟨t.nano_lt, t.leap⟩, t.first_le, t.le_last⟩]

/-- Earlier, a leap second lying between the second it keeps the number of and the next. -/
def le (a b : Instant) : Bool :=
  a.second < b.second || (a.second == b.second && a.nano ≤ b.nano)

theorem le_eq_true_iff {a b : Instant} :
    a.le b = true ↔ a.second < b.second ∨ a.second = b.second ∧ a.nano ≤ b.nano := by
  simp only [le, Bool.or_eq_true, Bool.and_eq_true, decide_eq_true_eq, beq_iff_eq]

theorem le_eq_false_iff {a b : Instant} :
    a.le b = false ↔ b.second < a.second ∨ b.second = a.second ∧ b.nano < a.nano := by
  rw [← Bool.not_eq_true, le_eq_true_iff]
  omega

end Instant

/-! ## Date and time of day -/

/-- A date with a time of day as a clock at some offset from UTC shows it; `second` is 60 in a leap
second. -/
structure ClockReading where
  date : CalendarDate
  hour : Nat
  minute : Nat
  second : Nat
  nano : Nat
  deriving DecidableEq, Repr

namespace Instant

/-- What a clock shows that is `offset` seconds ahead of UTC. -/
def reading (t : Instant) (offset : Int) : ClockReading :=
  let local' := t.second + offset
  let ofDay := (local' % secondsPerDay).toNat
  { date := .ofDayNumber (local' / secondsPerDay)
    hour := ofDay / 3600
    minute := ofDay / 60 % 60
    second := ofDay % 60 + t.nano / nanosPerSecond
    nano := t.nano % nanosPerSecond }

/-- The year in UTC. -/
def year (t : Instant) : Int :=
  (t.reading 0).date.year

end Instant

namespace ClockReading

/-- The date is on the calendar and the time of day exists; every minute may have a leap second. -/
def isValid (r : ClockReading) : Bool :=
  r.date.isValid && r.hour < 24 && r.minute < 60 && r.second ≤ 60 && r.nano < nanosPerSecond

/-- The instant at which a clock `offset` seconds ahead of UTC shows the reading. -/
def instant? (r : ClockReading) (offset : Int) : Option Instant :=
  let second := if r.second = 60 then 59 else r.second
  let nano := if r.second = 60 then r.nano + nanosPerSecond else r.nano
  Instant.ofParts? (r.date.dayNumber * secondsPerDay + (r.hour * 3600 + r.minute * 60 + second : Nat)
    - offset) nano

end ClockReading

end OutageLedger
