import OutageLedger.Proofs.Instant.ReadBack

/-
  Times in JSON read back. The lenient reader takes the form of times in JSON, whatever the year: the sign of a
  year outside 0 to 9999 tells it how many digits to take (`looseYear_yearText`), and where a number ends, a
  character stands that is no digit. Main statement: `Instant.ofLooseText?_zulu`.
-/

namespace OutageLedger

open Text

namespace TimestampReader

/-! ## Numbers -/

theorem isBlank_of_isDigit {c : Char} (h : isDigit c = true) : isBlank c = false := by
  simp only [isDigit, Bool.and_eq_true, decide_eq_true_eq] at h
  simp only [isBlank, Bool.or_eq_false_iff, Bool.and_eq_false_iff, decide_eq_false_iff_not,
    beq_eq_false_iff_ne]
  omega

/-- Blanks are passed over where there are any. -/
theorem skipBlanks_of_head {c : Char} {cs : List Char} (h : isBlank c = false) :
    skipBlanks (c :: cs) = .ok ((), c :: cs) := by
  show Except.ok ((), trimLeft (c :: cs)) = _
  rw [trimLeft_of_head h]

/-- A number is read up to the first character that is no digit. -/
theorem number_append {ds : List Char} (h : ∀ d ∈ ds, isDigit d = true) (h0 : ds ≠ []) {max : Nat}
    (hmax : ds.length ≤ max) {c : Char} (hc : isDigit c = false) (rest : List Char) :
    number max (ds ++ c :: rest) = .ok (value ds, c :: rest) := by
  obtain ⟨d, cs, hcs⟩ := List.exists_cons_of_ne_nil (List.append_ne_nil_of_left_ne_nil h0 (c :: rest))
  have htake := takeWhile_digits h max hc rest
  rw [List.take_of_length_le hmax] at htake
  have hdrop : (ds ++ c :: rest).drop ds.length = c :: rest := List.drop_left
  rw [hcs] at htake hdrop ⊢
  have hempty : ds.isEmpty = false := by simpa using h0
  simp only [number, htake, hdrop, hempty, Bool.false_eq_true, ↓reduceIte]

theorem number_fixed {width n : Nat} (hwidth : 0 < width) (hn : n < 10 ^ width) {c : Char}
    (hc : isDigit c = false) (rest : List Char) :
    number width (fixed width n ++ c :: rest) = .ok (n, c :: rest) := by
  have hlength := length_fixed width n
  have hread := number_append (fun d hd => fixed_isDigit hd)
    (List.ne_nil_of_length_pos (Nat.lt_of_lt_of_eq hwidth hlength.symm)) (Nat.le_of_eq hlength) hc rest
  rwa [value_fixed_of_lt hn] at hread

theorem exists_fixed_eq_cons {width : Nat} (hwidth : 0 < width) (n : Nat) :
    ∃ d ds, fixed width n = d :: ds ∧ isDigit d = true := by
  obtain ⟨d, ds, hds⟩ :=
    List.exists_cons_of_length_pos (Nat.lt_of_lt_of_eq hwidth (length_fixed width n).symm)
  exact ⟨d, ds, hds, fixed_isDigit (hds ▸ List.mem_cons_self)⟩

/-- What is written with a fixed number of digits does not begin with a blank. -/
theorem skipBlanks_fixed {width : Nat} (hwidth : 0 < width) (n : Nat) (rest : List Char) :
    skipBlanks (fixed width n ++ rest) = .ok ((), fixed width n ++ rest) := by
  obtain ⟨d, ds, hds, hdigit⟩ := exists_fixed_eq_cons hwidth n
  rw [hds, List.cons_append]
  exact skipBlanks_of_head (isBlank_of_isDigit hdigit)

theorem looseNumber_fixed {n : Nat} (hn : n < 100) {c : Char} (hc : isDigit c = false)
    (rest : List Char) : looseNumber 2 (fixed 2 n ++ c :: rest) = .ok (n, c :: rest) := by
  unfold looseNumber
  rw [scan_bind (skipBlanks_fixed (by decide) n _)]
  exact number_fixed (by decide) hn hc rest

theorem numeral_append {ds : List Char} (h : ∀ d ∈ ds, isDigit d = true) (h0 : ds ≠ []) {c : Char}
    (hc : isDigit c = false) (rest : List Char) :
    numeral (ds ++ c :: rest) = .ok (value ds, c :: rest) := by
  refine number_append h h0 ?_ hc rest
  rw [List.length_append]
  exact Nat.le_add_right ..

/-! ## The parts of a reading -/

/-- A year reads back where no digit follows: four digits as they are, and more only after a sign. -/
theorem looseYear_yearText (y : Int) {c : Char} (hc : isDigit c = false) (rest : List Char) :
    looseYear (yearText y ++ c :: rest) = .ok (y, c :: rest) := by
  unfold looseYear
  by_cases hshort : 0 ≤ y ∧ y ≤ 9999
  · have hy : Int.ofNat y.toNat = y := Int.toNat_of_nonneg hshort.1
    have hlt : y.toNat < 10 ^ 4 := by omega
    have hread := scan_map (f := Int.ofNat) (number_fixed (by decide) hlt hc rest)
    obtain ⟨d, ds, hds, hdigit⟩ := exists_fixed_eq_cons (by decide : 0 < 4) y.toNat
    rw [yearText_of_short hshort.1 hshort.2, scan_bind (skipBlanks_fixed (by decide) _ _)]
    rw [hy] at hread
    rw [hds, List.cons_append] at hread ⊢
    split
    · exact absurd hdigit (by simp_all [isDigit])
    · exact absurd hdigit (by simp_all [isDigit])
    · exact hread
  · obtain ⟨ds, htext, hdigits, hne, hvalue⟩ := yearText_of_long hshort
    rw [htext]
    by_cases hneg : y < 0
    · have hread := scan_map (f := fun n => -(Int.ofNat n)) (numeral_append hdigits hne hc rest)
      have hy : -(Int.ofNat (value ds)) = y := by
        rw [hvalue, Int.ofNat_eq_natCast]
        omega
      rw [hy] at hread
      rw [if_pos hneg, List.cons_append, scan_bind (skipBlanks_of_head (by decide))]
      exact hread
    · have hread := scan_map (f := Int.ofNat) (numeral_append hdigits hne hc rest)
      have hy : Int.ofNat (value ds) = y := by
        rw [hvalue, Int.ofNat_eq_natCast]
        omega
      rw [hy] at hread
      rw [if_neg hneg, List.cons_append, scan_bind (skipBlanks_of_head (by decide))]
      exact hread

theorem looseMark_cons {c : Char} (h : isBlank c = false) (rest : List Char) :
    looseMark c (c :: rest) = .ok ((), rest) := by
  unfold looseMark
  rw [scan_bind (skipBlanks_of_head h)]
  exact expect_cons (beq_self_eq_true c)

/-- No digit follows the seconds. -/
theorem fractionText_head (n : Nat) {c : Char} (hc : isDigit c = false) (rest : List Char) :
    ∃ d cs, fractionText n ++ c :: rest = d :: cs ∧ isDigit d = false := by
  unfold fractionText
  split
  · exact ⟨c, rest, rfl, hc⟩
  · repeat' split
    all_goals exact ⟨'.', _, rfl, rfl⟩

/-- A reading on the calendar reads back where no digit and no point follows. -/
theorem looseReading_append {r : ClockReading} (hr : r.isValid = true) {c : Char}
    (hc : isDigit c = false) (hpoint : c ≠ '.') (rest : List Char) :
    looseReading (r.toText ++ fractionText r.nano ++ c :: rest) = .ok (r, c :: rest) := by
  have hvalid := hr
  simp only [ClockReading.isValid, CalendarDate.isValid, Bool.and_eq_true, decide_eq_true_eq] at hvalid
  obtain ⟨⟨⟨⟨hdate, hhour⟩, hminute⟩, hsecond⟩, hnano⟩ := hvalid
  have hday : r.date.day < 100 := by
    have := CalendarDate.daysInMonth_le r.date.year r.date.month
    omega
  obtain ⟨d, cs, htail, hd⟩ := fractionText_head r.nano hc rest
  unfold ClockReading.toText looseReading
  simp only [List.append_assoc, List.cons_append]
  rw [scan_bind (looseYear_yearText _ rfl _), scan_bind (looseMark_cons (by decide) _),
    scan_bind (looseNumber_fixed (by omega) rfl _), scan_bind (looseMark_cons (by decide) _),
    scan_bind (looseNumber_fixed hday rfl _), scan_bind (expect_cons rfl),
    scan_bind (looseNumber_fixed (by omega) rfl _), scan_bind (looseMark_cons (by decide) _),
    scan_bind (looseNumber_fixed (by omega) rfl _), scan_bind (looseMark_cons (by decide) _),
    htail, scan_bind (looseNumber_fixed (by omega) hd _), ← htail,
    scan_bind (fraction_append (isFraction_fractionText hnano) hc hpoint rest)]
  simp only [hr, if_true]
  rfl

end TimestampReader

namespace Instant

open TimestampReader

/-- Every instant shows a date that is on the calendar in UTC. -/
theorem isValid_reading_utc (t : Instant) : (t.reading 0).isValid = true := by
  have hfirst := t.first_le
  have hlast := t.le_last
  have hyear := CalendarDate.year_ofDayNumber (n := (t.second + 0) / secondsPerDay)
    (by unfold secondsPerDay; omega) (by unfold secondsPerDay; omega)
  exact t.isValid_reading hyear.1 hyear.2

/-- The form of times in JSON reads back, whatever the year. -/
theorem ofLooseText?_zulu (t : Instant) : ofLooseText? t.zulu = some t := by
  have hreading := looseReading_append t.isValid_reading_utc (c := 'Z') rfl (by decide) []
  have hinstant : instantOf (t.reading 0) 0 = .ok t := by
    have hsame := t.instant?_reading 0
    rw [Int.zero_mul] at hsame
    unfold instantOf
    rw [if_neg (by decide), Int.zero_mul, hsame]
  unfold ofLooseText? zulu
  rw [String.toList_ofList]
  unfold lenient
  rw [hreading]
  show (instantOf (t.reading 0) 0).toOption = some t
  rw [hinstant]
  rfl

end Instant

end OutageLedger
