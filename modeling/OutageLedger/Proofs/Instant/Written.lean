import Mathlib.Algebra.Group.Nat.Defs
import Mathlib.Data.List.Induction
import OutageLedger.Instant.Text

/-
  The texts that RFC 3339 gives an instant (`Instant.IsWrittenAt`): its date and time of day at an offset from UTC,
  with a fraction of as many digits as it takes to lose nothing, or more, and the offset, `Z` or either sign for none.
  The text that is written to the store is one of them (`isWrittenAt_textAt`).
-/

namespace OutageLedger

open Text

namespace Text

/-! ## Digits -/

theorem value_fixed_of_lt {width n : Nat} (h : n < 10 ^ width) : value (fixed width n) = n := by
  induction width generalizing n with
  | zero =>
    have : n = 0 := by simpa using h
    rw [this]
    rfl
  | succ width ih =>
    have hdiv : n / 10 < 10 ^ width := by
      rw [Nat.pow_succ] at h
      omega
    rw [fixed, value_append_singleton, ih hdiv, digitValue_digit]
    omega

theorem value_append_zeros (cs : List Char) (k : Nat) :
    value (cs ++ List.replicate k '0') = value cs * 10 ^ k := by
  induction k with
  | zero => simp
  | succ k ih =>
    rw [List.replicate_succ', ← List.append_assoc, value_append_singleton, ih, Nat.pow_succ,
      Nat.mul_assoc]
    rfl

theorem value_cons (c : Char) (cs : List Char) :
    value (c :: cs) = digitValue c * 10 ^ cs.length + value cs := by
  induction cs using List.reverseRecOn with
  | nil => simp [value]
  | append_singleton cs d ih =>
    rw [← List.cons_append, value_append_singleton, value_append_singleton, ih, List.length_append,
      List.length_singleton, Nat.pow_succ, Nat.add_mul, Nat.mul_assoc, Nat.add_assoc]

theorem value_append (cs ds : List Char) : value (cs ++ ds) = value cs * 10 ^ ds.length + value ds := by
  induction cs with
  | nil => simp [value]
  | cons c cs ih =>
    rw [List.cons_append, value_cons, value_cons, ih, List.length_append, Nat.pow_add, Nat.add_mul, Nat.mul_assoc,
      Nat.add_assoc]

theorem digitValue_le {c : Char} (h : isDigit c = true) : digitValue c ≤ 9 := by
  simp only [isDigit, Bool.and_eq_true, decide_eq_true_eq] at h
  unfold digitValue
  omega

/-! ## Fractions -/

/-- The value of digits after a point, in units of the last of some places. -/
def fractionValue (places : Nat) (cs : List Char) : Nat :=
  value cs * 10 ^ (places - cs.length)

theorem fractionValue_cons (c : Char) {cs : List Char} {places : Nat} (h : cs.length ≤ places) :
    fractionValue (places + 1) (c :: cs) = digitValue c * 10 ^ places + fractionValue places cs := by
  unfold fractionValue
  rw [value_cons, List.length_cons, Nat.add_sub_add_right, Nat.add_mul, Nat.mul_assoc, ← Nat.pow_add,
    Nat.add_sub_cancel' h]

theorem fractionValue_lt {cs : List Char} {places : Nat} (h : ∀ c ∈ cs, isDigit c = true)
    (hlength : cs.length ≤ places) : fractionValue places cs < 10 ^ places := by
  induction cs generalizing places with
  | nil =>
    have hvalue : fractionValue places [] = 0 := Nat.zero_mul _
    rw [hvalue]
    exact Nat.pow_pos (by decide)
  | cons c cs ih =>
    obtain ⟨places, rfl⟩ : ∃ k, places = k + 1 := ⟨places - 1, by rw [List.length_cons] at hlength; omega⟩
    have hrest := ih (fun d hd => h d (List.mem_cons_of_mem c hd)) (Nat.le_of_succ_le_succ hlength)
    have hdigit := Nat.mul_le_mul_right (10 ^ places) (digitValue_le (h c List.mem_cons_self))
    rw [fractionValue_cons c (Nat.le_of_succ_le_succ hlength), Nat.pow_succ]
    omega

theorem value_lt {cs : List Char} (h : ∀ c ∈ cs, isDigit c = true) : value cs < 10 ^ cs.length := by
  have hlt := fractionValue_lt h (Nat.le_refl cs.length)
  rwa [fractionValue, Nat.sub_self, Nat.pow_zero, Nat.mul_one] at hlt

/-- Digits after a point, filled up or cut off at some places, are worth their value rounded down. -/
theorem fractionValue_take {cs : List Char} (h : ∀ c ∈ cs, isDigit c = true) (places : Nat) :
    fractionValue places (cs.take places) = value cs * 10 ^ places / 10 ^ cs.length := by
  unfold fractionValue
  rw [List.length_take]
  rcases Nat.le_total cs.length places with hle | hle
  · have hpow : 10 ^ places = 10 ^ (places - cs.length) * 10 ^ cs.length := by
      rw [← Nat.pow_add, Nat.sub_add_cancel hle]
    rw [List.take_of_length_le hle, Nat.min_eq_right hle, hpow, ← Nat.mul_assoc,
      Nat.mul_div_cancel _ (Nat.pow_pos (by decide))]
  · have hpow : 10 ^ cs.length = 10 ^ (cs.length - places) * 10 ^ places := by
      rw [← Nat.pow_add, Nat.sub_add_cancel hle]
    have hrest := value_lt fun c (hc : c ∈ cs.drop places) => h c (List.mem_of_mem_drop hc)
    have hvalue : value cs = value (cs.take places) * 10 ^ (cs.length - places) + value (cs.drop places) := by
      rw [← List.length_drop, ← value_append, List.take_append_drop]
    rw [List.length_drop] at hrest
    rw [Nat.min_eq_left hle, Nat.sub_self, Nat.pow_zero, Nat.mul_one, hpow,
      Nat.mul_div_mul_right _ _ (Nat.pow_pos (by decide)), hvalue, Nat.mul_comm,
      Nat.mul_add_div (Nat.pow_pos (by decide)), Nat.div_eq_of_lt hrest, Nat.add_zero]

/-- The digits of a fraction that is not zero are worth the nanoseconds. -/
theorem exists_fractionText {n : Nat} (h0 : n ≠ 0) (h : n < nanosPerSecond) :
    ∃ ds, fractionText n = '.' :: ds ∧ (∀ d ∈ ds, isDigit d = true) ∧ ds.length ≤ 9 ∧
      fractionValue 9 ds = n := by
  have hlt : n < 1000000000 := h
  have hdigits : ∀ width k : Nat, width ≤ 9 → k < 10 ^ width → k * 10 ^ (9 - width) = n →
      (∀ d ∈ fixed width k, isDigit d = true) ∧ (fixed width k).length ≤ 9 ∧
        fractionValue 9 (fixed width k) = n := by
    intro width k hwidth hk hn
    refine ⟨fun d hd => fixed_isDigit hd, by rw [length_fixed]; exact hwidth, ?_⟩
    unfold fractionValue
    rw [length_fixed, value_fixed_of_lt hk, hn]
  unfold fractionText
  rw [if_neg h0]
  split
  · exact ⟨_, rfl, hdigits 3 _ (by decide) (by omega) (by omega)⟩
  · split
    · exact ⟨_, rfl, hdigits 6 _ (by decide) (by omega) (by omega)⟩
    · exact ⟨_, rfl, hdigits 9 _ (by decide) (by omega) (by omega)⟩

/-- A fraction of a second that loses none of its nanoseconds: nothing where there are none, or a point and any number
of digits. -/
inductive IsFraction : Nat → List Char → Prop
  | whole : IsFraction 0 []
  | point {nano : Nat} {ds : List Char} (hdigits : ∀ d ∈ ds, isDigit d = true) (hne : ds ≠ [])
      (hvalue : value ds * 10 ^ 9 = nano * 10 ^ ds.length) : IsFraction nano ('.' :: ds)

theorem isFraction_fractionText {n : Nat} (h : n < nanosPerSecond) : IsFraction n (fractionText n) := by
  by_cases h0 : n = 0
  · subst h0
    exact .whole
  · obtain ⟨ds, htext, hdigits, hlength, hvalue⟩ := exists_fractionText h0 h
    rw [htext]
    refine .point hdigits ?_ ?_
    · rintro rfl
      rw [← hvalue] at h0
      exact h0 (Nat.zero_mul _)
    · rw [← hvalue, fractionValue, Nat.mul_assoc, ← Nat.pow_add, Nat.sub_add_cancel hlength]

/-! ## Offsets -/

/-- Sign, hours and minutes of an offset; none has either sign, or is written as `Z`. -/
inductive IsOffset : Int → List Char → Prop
  | ahead {minutes : Int} (h : 0 ≤ minutes) :
      IsOffset minutes ('+' :: (fixed 2 (minutes.natAbs / 60) ++ ':' :: fixed 2 (minutes.natAbs % 60)))
  | behind {minutes : Int} (h : minutes ≤ 0) :
      IsOffset minutes ('-' :: (fixed 2 (minutes.natAbs / 60) ++ ':' :: fixed 2 (minutes.natAbs % 60)))
  | utc : IsOffset 0 ['Z']

theorem isOffset_offsetText (minutes : Int) : IsOffset minutes (offsetText minutes) := by
  unfold offsetText
  by_cases hneg : minutes < 0
  · rw [if_pos hneg]
    exact .behind (Int.le_of_lt hneg)
  · rw [if_neg hneg]
    exact .ahead (Int.not_lt.mp hneg)

/-- No digit and no point begins an offset. -/
theorem IsOffset.exists_cons {minutes : Int} {cs : List Char} (h : IsOffset minutes cs) :
    ∃ c rest, cs = c :: rest ∧ isDigit c = false ∧ c ≠ '.' := by
  cases h with
  | ahead => exact ⟨_, _, rfl, rfl, by decide⟩
  | behind => exact ⟨_, _, rfl, rfl, by decide⟩
  | utc => exact ⟨_, _, rfl, rfl, by decide⟩

end Text

/-! ## Instants -/

namespace Instant

/-- The text shows the instant as a clock `minutes` ahead of UTC does. -/
def IsWrittenAt (t : Instant) (minutes : Int) (cs : List Char) : Prop :=
  ∃ fraction offset, IsFraction (t.reading (minutes * 60)).nano fraction ∧ IsOffset minutes offset ∧
    cs = (t.reading (minutes * 60)).toText ++ fraction ++ offset

theorem isWrittenAt_textAt (t : Instant) (minutes : Int) : t.IsWrittenAt minutes (t.textAt minutes) :=
  ⟨_, _, isFraction_fractionText (Nat.mod_lt _ (by decide)), isOffset_offsetText minutes, rfl⟩

end Instant

end OutageLedger
