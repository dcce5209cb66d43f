/-
  Punycode, after RFC 3492: a label of a domain name with characters outside ASCII, written with
  letters, digits and hyphens. The characters outside ASCII are inserted one by one, in the order of
  their code points; each insertion is a number in digits of base 36 whose weights adapt to the
  numbers before.
-/

namespace OutageLedger.Text.Punycode

/-- The letters and then the digits stand for 0 to 35. -/
def digit (d : Nat) : Char :=
  if d < 26 then Char.ofNat (97 + d) else Char.ofNat (22 + d)

def digitValue? (c : Char) : Option Nat :=
  if 'a' ≤ c ∧ c ≤ 'z' then some (c.toNat - 97)
  else if 'A' ≤ c ∧ c ≤ 'Z' then some (c.toNat - 65)
  else if '0' ≤ c ∧ c ≤ '9' then some (c.toNat - 22)
  else none

/-- The digit at a place is the last of a number when it lies below the threshold. -/
def threshold (place bias : Nat) : Nat :=
  min 26 (max 1 (place - bias))

theorem threshold_bounds (place bias : Nat) :
    1 ≤ threshold place bias ∧ threshold place bias ≤ 26 := by
  unfold threshold
  omega

/-- How often `delta` is divided by 35 until it is at most 455, times 36, and what is left. -/
def settle (delta : Nat) : Nat × Nat :=
  if 455 < delta then ((settle (delta / 35)).1 + 36, (settle (delta / 35)).2) else (0, delta)
termination_by delta
decreasing_by all_goals omega

/-- The bias after an insertion of `delta`, the first or a later one, that leaves `count`
characters. -/
def adapt (delta count : Nat) (first : Bool) : Nat :=
  let delta := if first then delta / 700 else delta / 2
  let (bias, rest) := settle (delta + delta / count)
  bias + 36 * rest / (rest + 38)

/-! ## Writing -/

/-- A number, its lowest digit first. -/
def digits (bias place n : Nat) : List Char :=
  let t := threshold place bias
  if n < t then [digit n]
  else digit (t + (n - t) % (36 - t)) :: digits bias (place + 36) ((n - t) / (36 - t))
termination_by n
decreasing_by
  have h := threshold_bounds place bias
  have : (n - threshold place bias) / (36 - threshold place bias) ≤ n - threshold place bias :=
    Nat.div_le_self _ _
  omega

/-- A label half written: the digits so far, the distance to the next insertion, the bias, and how
many characters are in place. -/
structure Progress where
  written : List Char
  delta : Nat
  bias : Nat
  count : Nat

/-- Passes over one character of the label while the code point `n` is inserted. -/
def visit (n : Nat) (first : Nat) (p : Progress) (c : Char) : Progress :=
  if c.toNat < n then { p with delta := p.delta + 1 }
  else if c.toNat = n then
    { written := p.written ++ digits p.bias 36 p.delta
      delta := 0
      bias := adapt p.delta (p.count + 1) (p.count == first)
      count := p.count + 1 }
  else p

/-- Inserts the code points of a rising list; those below `n` are in place. -/
def insertAll (label : List Char) (first : Nat) : List Nat → Nat → Progress → Progress
  | [], _, p => p
  | m :: ms, n, p =>
    let p := { p with delta := p.delta + (m - n) * (p.count + 1) }
    let p := label.foldl (visit m first) p
    insertAll label first ms (m + 1) { p with delta := p.delta + 1 }

def encode (label : List Char) : List Char :=
  let basic := label.filter (·.toNat < 0x80)
  let others := ((label.filter (0x80 ≤ ·.toNat)).map Char.toNat).mergeSort.eraseDups
  let start : Progress := ⟨[], 0, 72, basic.length⟩
  basic ++ (if basic.isEmpty then [] else ['-']) ++
    (insertAll label basic.length others 0x80 start).written

/-! ## Reading -/

/-- The weight that no digit reaches. -/
def heaviest : Nat := 0x100000000

/-- The number at the front of a row of digits, and how many digits it has. -/
def number? (bias : Nat) : Nat → Nat → List Char → Option (Nat × Nat)
  | _, _, [] => none
  | place, weight, c :: cs => do
    let d ← digitValue? c
    let t := threshold place bias
    if d < t then pure (d * weight, 1)
    else if heaviest ≤ weight * (36 - t) then none
    else
      let (n, used) ← number? bias (place + 36) (weight * (36 - t)) cs
      pure (d * weight + n, used + 1)

/-- Inserts the characters that a row of digits names into a label. -/
def insertFrom? (bias n place : Nat) (label : List Char) : List Char → Option (List Char)
  | [] => some label
  | c :: cs =>
    match number? bias 36 1 (c :: cs) with
    | none => none
    | some (delta, used) =>
      let count := label.length + 1
      let place := place + delta
      let n := n + place / count
      if n.isValidChar then
        insertFrom? (adapt delta count (label.all (·.toNat < 0x80))) n (place % count + 1)
          (label.take (place % count) ++ Char.ofNat n :: label.drop (place % count))
          (cs.drop (used - 1))
      else none
termination_by cs => cs.length
decreasing_by simp only [List.length_cons, List.length_drop]; omega

/-- The label that a text stands for. A hyphen stands only after characters of ASCII. -/
def decode? (cs : List Char) : Option (List Char) :=
  let after := (cs.reverse.takeWhile (· != '-')).reverse
  let basic := cs.take (cs.length - after.length - 1)
  if basic.all (·.toNat < 0x80) && (cs.head? != some '-' || !basic.isEmpty) then
    insertFrom? 72 0x80 0 basic after
  else none

end OutageLedger.Text.Punycode
