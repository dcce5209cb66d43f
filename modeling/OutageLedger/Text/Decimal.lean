/-
  Decimal numerals: a number written with its own digits or with a fixed count of them, and digits
  read back as a number. Main statements: `value_fixed` and `value_decimal`, both written forms
  read back, and `fixed_isDigit`, `decimal_isDigit`, they hold digits only.
-/

namespace OutageLedger.Text

/-- The digit for a value below ten. -/
def digit (n : Nat) : Char :=
  Char.ofNat (48 + n % 10)

/-- An ASCII digit. -/
def isDigit (c : Char) : Bool :=
  48 ≤ c.toNat && c.toNat ≤ 57

def digitValue (c : Char) : Nat :=
  c.toNat - 48

/-- The value of a row of digits, the highest first. -/
def value (cs : List Char) : Nat :=
  cs.foldl (fun acc c => acc * 10 + digitValue c) 0

/-- The lowest `width` digits of a number. -/
def fixed : Nat → Nat → List Char
  | 0, _ => []
  | width + 1, n => fixed width (n / 10) ++ [digit n]

/-- A number with no leading zero. -/
def decimal (n : Nat) : List Char :=
  if n < 10 then [digit n] else decimal (n / 10) ++ [digit n]
termination_by n
decreasing_by omega

/-- A number with a minus sign when it is negative. -/
def signed (n : Int) : List Char :=
  if n < 0 then '-' :: decimal n.natAbs else decimal n.natAbs

def natText (n : Nat) : String :=
  String.ofList (decimal n)

def intText (n : Int) : String :=
  String.ofList (signed n)

/-! ## Written forms read back -/

theorem toNat_ofNat_ascii {n : Nat} (h : n < 128) : (Char.ofNat n).toNat = n := by
  have hv : n.isValidChar := Or.inl (by omega)
  rw [Char.ofNat, dif_pos hv]
  rfl

theorem toNat_digit (n : Nat) : (digit n).toNat = 48 + n % 10 :=
  toNat_ofNat_ascii (by omega)

theorem digitValue_digit (n : Nat) : digitValue (digit n) = n % 10 := by
  simp [digitValue, toNat_digit]

theorem isDigit_digit (n : Nat) : isDigit (digit n) = true := by
  have : n % 10 < 10 := Nat.mod_lt _ (by decide)
  simp only [isDigit, toNat_digit, Bool.and_eq_true, decide_eq_true_eq]
  omega

theorem value_append_singleton (cs : List Char) (c : Char) :
    value (cs ++ [c]) = value cs * 10 + digitValue c := by
  simp [value]

theorem length_fixed (width n : Nat) : (fixed width n).length = width := by
  induction width generalizing n with
  | zero => rfl
  | succ width ih => simp [fixed, ih]

theorem fixed_isDigit {c : Char} {width n : Nat} (h : c ∈ fixed width n) : isDigit c = true := by
  induction width generalizing n with
  | zero => simp [fixed] at h
  | succ width ih =>
    rcases List.mem_append.mp h with h | h
    · exact ih h
    · rw [List.mem_singleton.mp h]
      exact isDigit_digit n

theorem value_decimal (n : Nat) : value (decimal n) = n := by
  induction n using Nat.strongRecOn with
  | ind n ih =>
    rw [decimal]
    split
    · rename_i h
      simp [value, digitValue_digit]
      omega
    · rename_i h
      rw [value_append_singleton, ih (n / 10) (by omega), digitValue_digit]
      omega

theorem decimal_isDigit {c : Char} {n : Nat} (h : c ∈ decimal n) : isDigit c = true := by
  induction n using Nat.strongRecOn with
  | ind n ih =>
    rw [decimal] at h
    split at h
    · rw [List.mem_singleton.mp h]
      exact isDigit_digit n
    · rcases List.mem_append.mp h with h | h
      · exact ih (n / 10) (by omega) h
      · rw [List.mem_singleton.mp h]
        exact isDigit_digit n

theorem length_decimal_pos (n : Nat) : 0 < (decimal n).length := by
  rw [decimal]
  split <;> simp

theorem value_fixed_zero (width : Nat) : value (fixed width 0) = 0 := by
  induction width with
  | zero => rfl
  | succ width ih =>
    rw [fixed, value_append_singleton, digitValue_digit, Nat.zero_div, ih]

/-- A number that has no more digits than there are places reads back. -/
theorem value_fixed {width n : Nat} (h : (decimal n).length ≤ width) : value (fixed width n) = n := by
  induction width generalizing n with
  | zero =>
    have := length_decimal_pos n
    omega
  | succ width ih =>
    rw [fixed, value_append_singleton, digitValue_digit]
    by_cases hn : n < 10
    · have h0 : n / 10 = 0 := by omega
      rw [h0, value_fixed_zero]
      omega
    · have h' : (decimal (n / 10)).length ≤ width := by
        rw [decimal, if_neg hn] at h
        simpa using h
      rw [ih h']
      omega

end OutageLedger.Text
