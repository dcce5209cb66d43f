import OutageLedger.Instant.Reader
import OutageLedger.Proofs.Instant.Calendar
import OutageLedger.Proofs.Instant.Written

/-
  Written instants read back. The strict reader takes every text of an instant at an offset of whole
  minutes for that instant, if the year shown has at most four digits and no sign
  (`strict_of_isWrittenAt`); it refuses every stored time with another year
  (`ofText_stamp_of_long_year`). So a stored time is read back exactly if its year in UTC is one of 0 to
  9999.
-/

namespace OutageLedger

open Text

namespace TimestampReader

/-! ## Readers one after the other -/

theorem scan_bind {α β : Type} {p : Scan α} {f : α → Scan β} {cs rest : List Char} {a : α}
    (h : p cs = .ok (a, rest)) : (p >>= f) cs = f a rest := by
  show (p cs >>= fun s => f s.1 s.2) = _
  rw [h]
  rfl

theorem scan_bind_error {α β : Type} {p : Scan α} {f : α → Scan β} {cs : List Char}
    {e : TimestampError} (h : p cs = .error e) : (p >>= f) cs = .error e := by
  show (p cs >>= fun s => f s.1 s.2) = _
  rw [h]
  rfl

theorem scan_map {α β : Type} {p : Scan α} {f : α → β} {cs rest : List Char} {a : α}
    (h : p cs = .ok (a, rest)) : (f <$> p) cs = .ok (f a, rest) := by
  rw [map_eq_pure_bind]
  exact scan_bind h

theorem expect_cons {p : Char → Bool} {c : Char} {cs : List Char} (h : p c = true) :
    expect p (c :: cs) = .ok ((), cs) := by
  simp only [expect, h, if_true]

/-! ## Numbers -/

theorem digits_append {ds : List Char} (h : ∀ c ∈ ds, isDigit c = true) (rest : List Char) :
    digits ds.length (ds ++ rest) = .ok (ds, rest) := by
  induction ds with
  | nil => rfl
  | cons c ds ih =>
    have hrest := ih fun d hd => h d (List.mem_cons_of_mem c hd)
    simp only [List.length_cons, digits, List.cons_append, h c List.mem_cons_self, if_true]
    exact scan_map hrest

theorem fixedNumber_fixed {width n : Nat} (h : n < 10 ^ width) (rest : List Char) :
    fixedNumber width (fixed width n ++ rest) = .ok (n, rest) := by
  have hread := digits_append (fun c (hc : c ∈ fixed width n) => fixed_isDigit hc) rest
  rw [length_fixed] at hread
  have := scan_map (f := value) hread
  rw [value_fixed_of_lt h] at this
  exact this

theorem takeWhile_digits {ds : List Char} (h : ∀ c ∈ ds, isDigit c = true) (n : Nat) {c : Char}
    (hc : isDigit c = false) (rest : List Char) :
    ((ds ++ c :: rest).take n).takeWhile isDigit = ds.take n := by
  rw [List.take_append, List.takeWhile_append_of_pos fun d hd => h d (List.mem_of_mem_take hd)]
  cases n - ds.length with
  | zero => simp
  | succ k => simp [hc]

theorem dropWhile_digits {ds : List Char} (h : ∀ c ∈ ds, isDigit c = true) {c : Char}
    (hc : isDigit c = false) (rest : List Char) :
    (ds ++ c :: rest).dropWhile isDigit = c :: rest := by
  rw [List.dropWhile_append_of_pos h]
  simp [hc]

/-- Digits after the ninth are dropped. -/
theorem nanos_append {ds : List Char} (h : ∀ c ∈ ds, isDigit c = true) (h0 : ds ≠ []) {c : Char}
    (hc : isDigit c = false) (rest : List Char) :
    nanos (ds ++ c :: rest) = .ok (value ds * 10 ^ 9 / 10 ^ ds.length, c :: rest) := by
  have hne : ds ++ c :: rest ≠ [] := by simp
  obtain ⟨d, cs, hcs⟩ := List.exists_cons_of_ne_nil hne
  have htake := takeWhile_digits h 9 hc rest
  have hdrop := dropWhile_digits h hc rest
  have hvalue := fractionValue_take h 9
  unfold fractionValue at hvalue
  rw [hcs] at htake hdrop ⊢
  have hempty : (ds.take 9).isEmpty = false := by simpa using h0
  simp only [nanos, htake, hdrop, hempty, value_append_zeros, hvalue, Bool.false_eq_true, ↓reduceIte]

/-- A fraction that loses nothing reads back where no digit and no point follows. -/
theorem fraction_append {nano : Nat} {cs : List Char} (h : IsFraction nano cs) {c : Char} (hc : isDigit c = false)
    (hpoint : c ≠ '.') (rest : List Char) : fraction (cs ++ c :: rest) = .ok (nano, c :: rest) := by
  cases h with
  | whole =>
    rw [List.nil_append]
    unfold fraction
    split
    · rename_i heq
      exact absurd (List.cons.inj heq).1 hpoint
    · rfl
  | @point _ ds hdigits hne hvalue =>
    have hread := nanos_append hdigits hne hc rest
    rwa [hvalue, Nat.mul_div_cancel _ (Nat.pow_pos (by decide))] at hread

/-! ## Dates, times of day, offsets -/

theorem yearText_of_short {y : Int} (h0 : 0 ≤ y) (h1 : y ≤ 9999) : yearText y = fixed 4 y.toNat :=
  if_pos ⟨h0, h1⟩

/-- Any other year is written as a sign and digits. -/
theorem yearText_of_long {y : Int} (h : ¬ (0 ≤ y ∧ y ≤ 9999)) :
    ∃ ds, yearText y = (if y < 0 then '-' else '+') :: ds ∧ (∀ d ∈ ds, isDigit d = true) ∧ ds ≠ [] ∧
      value ds = y.natAbs := by
  unfold yearText
  rw [if_neg h]
  refine ⟨_, rfl, ?_⟩
  split
  · rename_i hshort
    exact ⟨fun d hd => fixed_isDigit hd, List.ne_nil_of_length_pos (by rw [length_fixed]; decide),
      value_fixed_of_lt hshort⟩
  · exact ⟨fun d hd => decimal_isDigit hd, List.ne_nil_of_length_pos (length_decimal_pos _),
      value_decimal _⟩

theorem strictDate_append {d : CalendarDate} (h0 : 0 ≤ d.year) (h1 : d.year ≤ 9999)
    (hd : d.isValid = true) (rest : List Char) :
    strictDate (yearText d.year ++ '-' :: (fixed 2 d.month ++ '-' :: (fixed 2 d.day ++ rest))) =
      .ok (d, rest) := by
  have hvalid := hd
  simp only [CalendarDate.isValid, Bool.and_eq_true, decide_eq_true_eq] at hvalid
  have hmonth : d.month < 10 ^ 2 := by omega
  have hday : d.day < 10 ^ 2 := by
    have := CalendarDate.daysInMonth_le d.year d.month
    omega
  have hyear : ((d.year.toNat : Nat) : Int) = d.year := by omega
  have heta : (⟨((d.year.toNat : Nat) : Int), d.month, d.day⟩ : CalendarDate) = d := by rw [hyear]
  rw [yearText_of_short h0 h1]
  unfold strictDate
  rw [scan_bind (fixedNumber_fixed (by omega) _), scan_bind (expect_cons rfl),
    scan_bind (fixedNumber_fixed hmonth _), scan_bind (expect_cons rfl),
    scan_bind (fixedNumber_fixed hday _)]
  simp only [heta, hd, if_true]
  rfl

/-- A reading reads back where no digit and no point follows. -/
theorem strictReading_append {r : ClockReading} (h0 : 0 ≤ r.date.year) (h1 : r.date.year ≤ 9999)
    (hr : r.isValid = true) {cs : List Char} (hfraction : IsFraction r.nano cs) {c : Char} (hc : isDigit c = false)
    (hpoint : c ≠ '.') (rest : List Char) :
    strictReading (r.toText ++ cs ++ c :: rest) = .ok (r, c :: rest) := by
  have hvalid := hr
  simp only [ClockReading.isValid, Bool.and_eq_true, decide_eq_true_eq] at hvalid
  obtain ⟨⟨⟨⟨hdate, hhour⟩, hminute⟩, hsecond⟩, -⟩ := hvalid
  unfold ClockReading.toText strictReading
  simp only [List.append_assoc, List.cons_append]
  rw [scan_bind (strictDate_append h0 h1 hdate _), scan_bind (expect_cons rfl),
    scan_bind (fixedNumber_fixed (by omega) _), scan_bind (expect_cons rfl),
    scan_bind (fixedNumber_fixed (by omega) _), scan_bind (expect_cons rfl),
    scan_bind (fixedNumber_fixed (by omega) _),
    scan_bind (fraction_append hfraction hc hpoint rest)]
  simp only [hr, if_true]
  rfl

theorem offsetPair_fixed {n : Nat} (rest : List Char) :
    offsetPair (fixed 2 n ++ rest) = .ok ((digit (n / 10), digit n), rest) := by
  show offsetPair (digit (n / 10) :: digit n :: rest) = _
  simp only [offsetPair, isDigit_digit, Bool.and_self, if_true]

theorem offsetMinutes_append {h m : Nat} (hh : h < 100) (hm : m < 60) (rest : List Char) :
    offsetMinutes (expect (· == ':')) (fixed 2 h ++ ':' :: (fixed 2 m ++ rest)) =
      .ok (h * 60 + m, rest) := by
  have htens : (digit (m / 10)).toNat ≤ '5'.toNat := by
    rw [toNat_digit]
    show 48 + m / 10 % 10 ≤ 53
    omega
  have hpair : ∀ n : Nat, n < 100 → value [digit (n / 10), digit n] = n := by
    intro n hn
    exact value_fixed_of_lt (show n < 10 ^ 2 from hn)
  unfold offsetMinutes
  rw [scan_bind (offsetPair_fixed _)]
  simp only []
  rw [scan_bind (expect_cons rfl), scan_bind (offsetPair_fixed _)]
  simp only [htens, if_true, hpair h hh, hpair m (by omega)]
  rfl

theorem offset_of_isOffset {m : Int} {cs : List Char} (h : IsOffset m cs) (hm : m.natAbs < 24 * 60) :
    offset (expect (· == ':')) cs = .ok (m, []) := by
  have hread := offsetMinutes_append (h := m.natAbs / 60) (m := m.natAbs % 60) (by omega) (by omega) []
  rw [List.append_nil] at hread
  cases h with
  | ahead h0 =>
    have hsum : Int.ofNat (m.natAbs / 60 * 60 + m.natAbs % 60) = m := by
      rw [Int.ofNat_eq_natCast]
      omega
    have := scan_map (f := Int.ofNat) hread
    rw [hsum] at this
    exact this
  | behind h0 =>
    have hsum : -(Int.ofNat (m.natAbs / 60 * 60 + m.natAbs % 60)) = m := by
      rw [Int.ofNat_eq_natCast]
      omega
    have := scan_map (f := fun m => -(Int.ofNat m)) hread
    rw [hsum] at this
    exact this
  | utc => rfl

/-- A text has at least as many bytes as characters. -/
theorem length_le_length_encode (cs : List Char) : cs.length ≤ (Utf8.encode cs).length := by
  induction cs with
  | nil => exact Nat.le_refl 0
  | cons c cs ih =>
    have hpos : 0 < (Utf8.encodeChar c).length := by
      unfold Utf8.encodeChar
      simp only []
      repeat' split
      all_goals exact Nat.succ_pos _
    have hcons : Utf8.encode (c :: cs) = Utf8.encodeChar c ++ Utf8.encode cs := rfl
    rw [hcons, List.length_append, List.length_cons]
    omega

end TimestampReader

/-! ## Instants -/

namespace Instant

open TimestampReader

theorem isValid_reading (t : Instant) {offset : Int} (h0 : -262143 ≤ (t.reading offset).date.year)
    (h1 : (t.reading offset).date.year ≤ 262142) : (t.reading offset).isValid = true := by
  have hdate : (t.reading offset).date.isValid = true := CalendarDate.isValid_ofDayNumber h0 h1
  have hnano := t.nano_lt
  simp only [ClockReading.isValid, Bool.and_eq_true, decide_eq_true_eq]
  refine ⟨⟨⟨⟨hdate, ?_⟩, ?_⟩, ?_⟩, ?_⟩
  · show ((t.second + offset) % secondsPerDay).toNat / 3600 < 24
    unfold secondsPerDay
    omega
  · exact Nat.mod_lt _ (by decide)
  · show ((t.second + offset) % secondsPerDay).toNat % 60 + t.nano / nanosPerSecond ≤ 60
    unfold nanosPerSecond at *
    omega
  · exact Nat.mod_lt _ (by decide)

/-- What a clock at a whole number of minutes from UTC shows belongs to the instant. -/
theorem instant?_reading (t : Instant) (m : Int) :
    (t.reading (m * 60)).instant? (m * 60) = some t := by
  have hnano := t.nano_lt
  have hleap := t.leap
  have hday := CalendarDate.dayNumber_ofDayNumber ((t.second + m * 60) / secondsPerDay)
  unfold reading ClockReading.instant?
  simp only [hday]
  generalize hofDay : ((t.second + m * 60) % secondsPerDay).toNat = ofDay
  generalize hdays : (t.second + m * 60) / secondsPerDay = days
  have hsum : t.second + m * 60 = days * secondsPerDay + ofDay := by
    unfold secondsPerDay at *
    omega
  unfold nanosPerSecond at *
  have hsecond : ∀ s : Nat, s = ofDay % 60 →
      days * secondsPerDay + ((ofDay / 3600 * 3600 + ofDay / 60 % 60 * 60 + s : Nat) : Int) - m * 60 =
        t.second := by
    intro s hs
    unfold secondsPerDay at *
    omega
  by_cases hl : 1000000000 ≤ t.nano
  · have h59 : ofDay % 60 = 59 := by
      have := hleap hl
      unfold secondsPerDay at hsum
      omega
    have h60 : ofDay % 60 + t.nano / 1000000000 = 60 := by omega
    have hn : t.nano % 1000000000 + 1000000000 = t.nano := by omega
    rw [if_pos h60, if_pos h60, hn, hsecond 59 h59.symm]
    exact ofParts?_self t
  · have h60 : ¬ ofDay % 60 + t.nano / 1000000000 = 60 := by omega
    have hn : t.nano % 1000000000 = t.nano := by omega
    have hs : ofDay % 60 + t.nano / 1000000000 = ofDay % 60 := by omega
    rw [if_neg h60, if_neg h60, hn, hsecond _ hs]
    exact ofParts?_self t

/-- A text of an instant at an offset of less than a day reads back, if the year that it shows has four digits. -/
theorem strict_of_isWrittenAt {t : Instant} {m : Int} {cs : List Char} (h : t.IsWrittenAt m cs)
    (hm : m.natAbs < 24 * 60) (h0 : 0 ≤ (t.reading (m * 60)).date.year)
    (h1 : (t.reading (m * 60)).date.year ≤ 9999) : strict cs = .ok t := by
  obtain ⟨digits, zone, hfraction, hoffset, rfl⟩ := h
  have hvalid := t.isValid_reading (Int.le_trans (by decide) h0) (Int.le_trans h1 (by decide))
  generalize htext : (t.reading (m * 60)).toText ++ digits ++ zone = cs
  have hlen : ¬ (Utf8.encode cs).length < 19 := by
    have h := length_le_length_encode cs
    have hyear : (yearText (t.reading (m * 60)).date.year).length = 4 := by
      rw [yearText_of_short h0 h1, length_fixed]
    have h19 : 19 ≤ cs.length := by
      simp only [← htext, ClockReading.toText, List.length_append, List.length_cons, length_fixed, hyear]
      omega
    omega
  have hreading : strictReading cs = .ok (t.reading (m * 60), zone) := by
    obtain ⟨c, rest, hzone, hc, hpoint⟩ := hoffset.exists_cons
    rw [← htext, hzone]
    exact strictReading_append h0 h1 hvalid hfraction hc hpoint rest
  have hinstant : instantOf (t.reading (m * 60)) m = .ok t := by
    unfold instantOf
    rw [if_neg (by omega), t.instant?_reading m]
  unfold strict
  rw [if_neg hlen, hreading]
  show (offset (expect (· == ':')) zone >>= fun s =>
    if s.2.isEmpty then instantOf (t.reading (m * 60)) s.1 else .error .trailing) = _
  rw [offset_of_isOffset hoffset hm]
  exact hinstant

/-- The year in UTC has four digits and no sign. -/
def hasShortYear (t : Instant) : Bool :=
  0 ≤ t.year && t.year ≤ 9999

theorem ofText_stamp {t : Instant} (h : t.hasShortYear = true) : ofText t.stamp = .ok t := by
  simp only [hasShortYear, Bool.and_eq_true, decide_eq_true_eq] at h
  unfold ofText stamp
  rw [String.toList_ofList]
  exact strict_of_isWrittenAt (t.isWrittenAt_textAt 0) (by decide) h.1 h.2

/-- A sign before the year is more than the strict reader takes. -/
theorem ofText_stamp_of_long_year {t : Instant} (h : t.hasShortYear = false) :
    ∃ e, ofText t.stamp = .error e := by
  have hyear : ¬ (0 ≤ t.year ∧ t.year ≤ 9999) := by
    intro hy
    simp [hasShortYear, hy.1, hy.2] at h
  obtain ⟨cs, hsign, -⟩ := yearText_of_long hyear
  generalize hmark : (if t.year < 0 then '-' else '+') = c at hsign
  have hc : isDigit c = false := by
    rw [← hmark]
    split <;> rfl
  obtain ⟨rest, htext⟩ : ∃ rest, t.textAt 0 = c :: rest := by
    unfold textAt ClockReading.toText
    simp only [Int.zero_mul, List.append_assoc]
    rw [show (t.reading 0).date.year = t.year from rfl, hsign]
    exact ⟨_, rfl⟩
  have hnumber : fixedNumber 4 (c :: rest) = .error .invalid := by
    unfold fixedNumber
    rw [map_eq_pure_bind]
    refine scan_bind_error ?_
    simp only [digits, hc, Bool.false_eq_true, ↓reduceIte]
  have hread : strictReading (c :: rest) = .error .invalid := by
    unfold strictReading strictDate
    exact scan_bind_error (scan_bind_error hnumber)
  unfold ofText stamp
  rw [String.toList_ofList, htext]
  unfold strict
  split
  · exact ⟨_, rfl⟩
  · rw [hread]
    exact ⟨_, rfl⟩

end Instant

end OutageLedger
