import OutageLedger.Text.Decimal

/-
  Hexadecimal digits: writing a number with a fixed count of lower-case digits, and reading digits of
  either case. Main statement: `hexValue_hexFixed`, the written form reads back.
-/

namespace OutageLedger.Text

/-- The lower-case digit for a value below sixteen. -/
def hexDigit (n : Nat) : Char :=
  if n % 16 < 10 then Char.ofNat (48 + n % 16) else Char.ofNat (87 + n % 16)

/-- The value of a hexadecimal digit of either case. -/
def hexDigitValue? (c : Char) : Option Nat :=
  let n := c.toNat
  if 48 ≤ n ∧ n ≤ 57 then some (n - 48)
  else if 97 ≤ n ∧ n ≤ 102 then some (n - 87)
  else if 65 ≤ n ∧ n ≤ 70 then some (n - 55)
  else none

def isHexDigit (c : Char) : Bool :=
  (hexDigitValue? c).isSome

/-- The value of a row of hexadecimal digits, the highest first; `none` if one of them is none. -/
def hexValue? (cs : List Char) : Option Nat :=
  cs.foldlM (fun acc c => (hexDigitValue? c).map (acc * 16 + ·)) 0

/-- The lowest `width` hexadecimal digits of a number. -/
def hexFixed : Nat → Nat → List Char
  | 0, _ => []
  | width + 1, n => hexFixed width (n / 16) ++ [hexDigit n]

/-! ## The written form reads back -/

theorem hexDigitValue_hexDigit (n : Nat) : hexDigitValue? (hexDigit n) = some (n % 16) := by
  have h16 : n % 16 < 16 := Nat.mod_lt _ (by decide)
  unfold hexDigit hexDigitValue?
  split
  · rename_i h
    rw [toNat_ofNat_ascii (by omega)]
    simp only []
    rw [if_pos (by omega)]
    simp
  · rename_i h
    rw [toNat_ofNat_ascii (by omega)]
    simp only []
    rw [if_neg (by omega), if_pos (by omega)]
    simp

theorem length_hexFixed (width n : Nat) : (hexFixed width n).length = width := by
  induction width generalizing n with
  | zero => rfl
  | succ width ih => simp [hexFixed, ih]

/-- A number without bits beyond the four of each place reads back. -/
theorem hexValue_hexFixed {width n : Nat} (h : n >>> (4 * width) = 0) :
    hexValue? (hexFixed width n) = some n := by
  induction width generalizing n with
  | zero => simp at h; simp [hexFixed, hexValue?, h]
  | succ width ih =>
    have h' : (n / 16) >>> (4 * width) = 0 := by
      rw [show 4 * (width + 1) = 4 + 4 * width by omega, Nat.shiftRight_add] at h
      simpa [Nat.shiftRight_eq_div_pow] using h
    have hn : n / 16 * 16 + n % 16 = n := by omega
    have := ih h'
    unfold hexValue? at this
    simp [hexFixed, hexValue?, List.foldlM_append, this, hexDigitValue_hexDigit, hn]

end OutageLedger.Text
