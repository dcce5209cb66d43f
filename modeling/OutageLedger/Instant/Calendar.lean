/-
  The proleptic Gregorian calendar: dates counted as days from 1970-01-01. The count works in cycles
  of 400 years that begin on a first of March, so the leap day is the last day of its year.
  Main statements: `dayNumber_ofDayNumber`, a day number survives the way through its date.
-/

namespace OutageLedger

/-- A date of the proleptic Gregorian calendar; year 0 is the year before year 1. -/
structure CalendarDate where
  year : Int
  month : Nat
  day : Nat
  deriving Repr, DecidableEq

namespace CalendarDate

def isLeapYear (year : Int) : Bool :=
  year % 4 == 0 && (year % 100 != 0 || year % 400 == 0)

def daysInMonth (year : Int) (month : Nat) : Nat :=
  if month == 2 then (if isLeapYear year then 29 else 28)
  else if month == 4 || month == 6 || month == 9 || month == 11 then 30
  else 31

/-- The date is on the calendar, which has years from -262143 to 262142. -/
def isValid (d : CalendarDate) : Bool :=
  -262143 ≤ d.year && d.year ≤ 262142 && 1 ≤ d.month && d.month ≤ 12 && 1 ≤ d.day &&
    d.day ≤ daysInMonth d.year d.month

/-- Days in 400 years. -/
def cycleDays : Int := 146097

/-- The day number of 0000-03-01, counted backwards from 1970-01-01. -/
def epochShift : Int := 719468

/-- The first day of a month, counted from the first of March of its year; months are counted from
March as 0. -/
def monthStart (m : Int) : Int :=
  (153 * m + 2) / 5

/-- The first day of a year of the cycle, counted from the start of the cycle. -/
def yearStart (y : Int) : Int :=
  365 * y + y / 4 - y / 100

/-- Days from 1970-01-01 to a date. -/
def dayNumber (d : CalendarDate) : Int :=
  let early := d.month ≤ 2
  let y := if early then d.year - 1 else d.year
  let m : Int := if early then d.month + 9 else (d.month : Int) - 3
  y / 400 * cycleDays + (yearStart (y % 400) + (monthStart m + ((d.day : Int) - 1))) - epochShift

/-- The year of the cycle that a day of the cycle lies in: by centuries of 36524 days, then by spans
of four years of 1461 days, then by years of 365 days. The last century and the last year of a span
have one day more. -/
def yearOfCycle (d : Int) : Int :=
  let century := if d / 36524 = 4 then 3 else d / 36524
  let d := d - century * 36524
  let span := d / 1461
  let d := d - span * 1461
  let year := if d / 365 = 4 then 3 else d / 365
  100 * century + 4 * span + year

/-- The date of a day number. -/
def ofDayNumber (n : Int) : CalendarDate :=
  let z := n + epochShift
  let inCycle := z % cycleDays
  let y := yearOfCycle inCycle
  let inYear := inCycle - yearStart y
  let m := (5 * inYear + 2) / 153
  let day := inYear - monthStart m + 1
  let month := if m < 10 then m + 3 else m - 9
  { year := y + z / cycleDays * 400 + (if month ≤ 2 then 1 else 0)
    month := month.toNat
    day := day.toNat }

/-! ## There and back -/

/-- The first day of a year, by its century, the span in that, and the year in that. -/
theorem yearStart_of_parts {c q a : Int} (hq : 0 ≤ q ∧ q ≤ 24) (ha : 0 ≤ a ∧ a ≤ 3) :
    yearStart (100 * c + 4 * q + a) = 36524 * c + 1461 * q + 365 * a := by
  unfold yearStart
  omega

/-- A day of the cycle lies in the year that `yearOfCycle` finds for it. -/
theorem yearOfCycle_bounds {d : Int} (h0 : 0 ≤ d) (h1 : d < 146097) :
    0 ≤ yearOfCycle d ∧ yearOfCycle d < 400 ∧ 0 ≤ d - yearStart (yearOfCycle d) ∧
      d - yearStart (yearOfCycle d) ≤ 365 := by
  unfold yearOfCycle
  simp only []
  generalize hc : (if d / 36524 = 4 then 3 else d / 36524) = c
  have hc' : 0 ≤ c ∧ c ≤ 3 ∧ 0 ≤ d - c * 36524 ∧ d - c * 36524 ≤ 36524 := by
    split at hc <;> omega
  generalize hr : d - c * 36524 = r at hc' ⊢
  generalize hq : r / 1461 = q
  have hq' : 0 ≤ q ∧ q ≤ 24 ∧ 0 ≤ r - q * 1461 ∧ r - q * 1461 ≤ 1460 := by omega
  generalize hs : r - q * 1461 = s at hq' ⊢
  generalize ha : (if s / 365 = 4 then 3 else s / 365) = a
  have ha' : 0 ≤ a ∧ a ≤ 3 ∧ 0 ≤ s - a * 365 ∧ s - a * 365 ≤ 365 := by
    split at ha <;> omega
  rw [yearStart_of_parts (by omega) (by omega)]
  omega

theorem dayNumber_ofDayNumber (n : Int) : (ofDayNumber n).dayNumber = n := by
  have hz0 : 0 ≤ (n + epochShift) % cycleDays := by unfold cycleDays; omega
  have hz1 : (n + epochShift) % cycleDays < 146097 := by unfold cycleDays; omega
  generalize hd : (n + epochShift) % cycleDays = d at hz0 hz1
  obtain ⟨hy0, hy1, hr0, hr1⟩ := yearOfCycle_bounds hz0 hz1
  generalize hy : yearOfCycle d = y at hy0 hy1 hr0 hr1
  generalize hr : d - yearStart y = r at hr0 hr1
  generalize hm : (5 * r + 2) / 153 = m
  have hm0 : 0 ≤ m := by omega
  have hm1 : m ≤ 11 := by omega
  have hday : 0 ≤ r - monthStart m := by unfold monthStart; omega
  have hsum : n = (n + epochShift) / cycleDays * cycleDays + d - epochShift := by
    have := Int.mul_ediv_add_emod (n + epochShift) cycleDays
    rw [hd] at this
    rw [Int.mul_comm]
    omega
  generalize hc : (n + epochShift) / cycleDays = c at hsum
  simp only [dayNumber, ofDayNumber, hd, hy, hr, hm, hc]
  by_cases hlt : m < 10
  · have e1 : (if m < 10 then m + 3 else m - 9) = m + 3 := if_pos hlt
    have e2 : ¬ (m + 3 ≤ 2) := by omega
    have e3 : ¬ ((m + 3).toNat ≤ 2) := by omega
    simp only [e1, if_neg e2, if_neg e3]
    have e4 : ((m + 3).toNat : Int) - 3 = m := by omega
    have e5 : ((r - monthStart m + 1).toNat : Int) - 1 = r - monthStart m := by omega
    have e6 : (y + c * 400 + 0) / 400 = c := by omega
    have e7 : (y + c * 400 + 0) % 400 = y := by omega
    rw [e4, e5, e6, e7]
    omega
  · have e1 : (if m < 10 then m + 3 else m - 9) = m - 9 := if_neg hlt
    have e2 : m - 9 ≤ 2 := by omega
    have e3 : (m - 9).toNat ≤ 2 := by omega
    simp only [e1, if_pos e2, if_pos e3]
    have e4 : ((m - 9).toNat : Int) + 9 = m := by omega
    have e5 : ((r - monthStart m + 1).toNat : Int) - 1 = r - monthStart m := by omega
    have e6 : (y + c * 400 + 1 - 1) / 400 = c := by omega
    have e7 : (y + c * 400 + 1 - 1) % 400 = y := by omega
    rw [e4, e5, e6, e7]
    omega

end CalendarDate

end OutageLedger
