import OutageLedger.Instant.Text
import OutageLedger.Text.Blank
import OutageLedger.Text.Utf8

/-
  Reading instants. The strict reader takes RFC 3339 texts with four year digits and two digits for
  every other number, and says what is wrong with any other text. The lenient reader also takes
  blanks between the parts, numbers without leading zeros, signed years, offsets without a colon, and
  `UTC`.
-/

namespace OutageLedger

open Text

/-- What is wrong with a text that is no instant. -/
inductive TimestampError
  | premature
  | invalid
  | outOfRange
  | trailing
  deriving DecidableEq, Repr

def TimestampError.message : TimestampError → String
  | .premature => "premature end of input"
  | .invalid => "input contains invalid characters"
  | .outOfRange => "input is out of range"
  | .trailing => "trailing input"

namespace TimestampReader

/-- A reader takes what it reads off the front of a text. -/
abbrev Scan := StateT (List Char) (Except TimestampError)

def fail {α : Type} (e : TimestampError) : Scan α :=
  fun _ => .error e

def skipBlanks : Scan Unit :=
  modify trimLeft

/-- One character of a kind. -/
def expect (p : Char → Bool) : Scan Unit := fun
  | [] => .error .premature
  | c :: cs => if p c then .ok ((), cs) else .error .invalid

/-- At least one and at most `max` digits. -/
def number (max : Nat) : Scan Nat := fun
  | [] => .error .premature
  | cs =>
    let ds := (cs.take max).takeWhile isDigit
    if ds.isEmpty then .error .invalid else .ok (value ds, cs.drop ds.length)

/-- The digits after a decimal point as nanoseconds; digits after the ninth are dropped. -/
def nanos : Scan Nat := fun
  | [] => .error .premature
  | cs =>
    let ds := (cs.take 9).takeWhile isDigit
    if ds.isEmpty then .error .invalid
    else .ok (value (ds ++ List.replicate (9 - ds.length) '0'), cs.dropWhile isDigit)

/-- A decimal point with its digits, if there is one. -/
def fraction : Scan Nat := fun
  | '.' :: cs => nanos cs
  | cs => .ok (0, cs)

/-- Two digits of an offset. -/
def offsetPair : Scan (Char × Char) := fun
  | [] => .error .premature
  | [c] => .error (if c.toNat < 0x80 then .premature else .invalid)
  | c :: d :: cs => if isDigit c && isDigit d then .ok ((c, d), cs) else .error .invalid

/-- Hours, a separator, and minutes of an offset, as minutes. -/
def offsetMinutes (separator : Scan Unit) : Scan Nat := do
  let (h1, h2) ← offsetPair
  separator
  let (m1, m2) ← offsetPair
  if m1.toNat ≤ '5'.toNat then pure (value [h1, h2] * 60 + value [m1, m2])
  else fail .outOfRange

/-- An offset from UTC in minutes: `Z`, or a sign with hours and minutes. U+2212 is a minus sign. -/
def offset (separator : Scan Unit) : Scan Int := fun
  | [] => .error .premature
  | c :: cs =>
    if c = 'Z' ∨ c = 'z' then .ok (0, cs)
    else if c = '+' then (Int.ofNat <$> offsetMinutes separator) cs
    else if c = '-' ∨ c = Char.ofNat 0x2212 then
      ((fun m => -(Int.ofNat m)) <$> offsetMinutes separator) cs
    else .error .invalid

/-- The instant of a reading; an offset lies within a day. -/
def instantOf (r : ClockReading) (minutes : Int) : Except TimestampError Instant :=
  if 24 * 60 ≤ minutes.natAbs then .error .outOfRange
  else
    match r.instant? (minutes * 60) with
    | some t => .ok t
    | none => .error .outOfRange

/-! ## The strict reader -/

/-- Exactly `n` digits. -/
def digits : Nat → Scan (List Char)
  | 0 => pure []
  | n + 1 => fun
    | [] => .error .premature
    | c :: cs => if isDigit c then ((c :: ·) <$> digits n) cs else .error .invalid

def fixedNumber (n : Nat) : Scan Nat :=
  value <$> digits n

/-- A date with two hyphens, on the calendar. -/
def strictDate : Scan CalendarDate := do
  let year ← fixedNumber 4
  expect (· == '-')
  let month ← fixedNumber 2
  expect (· == '-')
  let day ← fixedNumber 2
  let date : CalendarDate := ⟨year, month, day⟩
  if date.isValid then pure date else fail .outOfRange

def isDateTimeMark (c : Char) : Bool :=
  c == 'T' || c == 't' || c == ' '

/-- A date and a time of day with a fraction, that exist. -/
def strictReading : Scan ClockReading := do
  let date ← strictDate
  expect isDateTimeMark
  let hour ← fixedNumber 2
  expect (· == ':')
  let minute ← fixedNumber 2
  expect (· == ':')
  let second ← fixedNumber 2
  let nano ← fraction
  let reading : ClockReading := ⟨date, hour, minute, second, nano⟩
  if reading.isValid then pure reading else fail .outOfRange

def strict (cs : List Char) : Except TimestampError Instant :=
  if (Utf8.encode cs).length < 19 then .error .premature
  else do
    let (reading, cs) ← strictReading cs
    let (minutes, cs) ← offset (expect (· == ':')) cs
    if cs.isEmpty then instantOf reading minutes else .error .trailing

/-! ## The lenient reader -/

/-- A number after blanks. -/
def looseNumber (max : Nat) : Scan Nat := do
  skipBlanks
  number max

/-- Any number of digits. -/
def numeral : Scan Nat :=
  fun cs => number cs.length cs

/-- A year after blanks: up to four digits, or a sign and any number of digits. -/
def looseYear : Scan Int := do
  skipBlanks
  fun
  | '-' :: cs => ((fun n => -(Int.ofNat n)) <$> numeral) cs
  | '+' :: cs => (Int.ofNat <$> numeral) cs
  | cs => (Int.ofNat <$> number 4) cs

/-- A mark after blanks. -/
def looseMark (c : Char) : Scan Unit := do
  skipBlanks
  expect (· == c)

/-- Any run of colons and blanks. -/
def looseColon : Scan Unit :=
  modify (List.dropWhile fun c => c == ':' || isBlank c)

/-- `UTC` in any case, or an offset. -/
def looseOffset : Scan Int := fun
  | u :: t :: c :: cs =>
    if u.toUpper = 'U' ∧ t.toUpper = 'T' ∧ c.toUpper = 'C' then .ok (0, cs)
    else offset looseColon (u :: t :: c :: cs)
  | cs => offset looseColon cs

/-- A date and a time of day with a fraction, that exist. -/
def looseReading : Scan ClockReading := do
  let year ← looseYear
  looseMark '-'
  let month ← looseNumber 2
  looseMark '-'
  let day ← looseNumber 2
  expect isDateTimeMark
  let hour ← looseNumber 2
  looseMark ':'
  let minute ← looseNumber 2
  looseMark ':'
  let second ← looseNumber 2
  let nano ← fraction
  let reading : ClockReading := ⟨⟨year, month, day⟩, hour, minute, second, nano⟩
  if reading.isValid then pure reading else fail .outOfRange

def lenient (cs : List Char) : Except TimestampError Instant := do
  let (reading, cs) ← looseReading cs
  let (minutes, cs) ← looseOffset (trimLeft cs)
  if (trimLeft cs).isEmpty then instantOf reading minutes else .error .trailing

end TimestampReader

namespace Instant

/-- Reads an RFC 3339 text. -/
def ofText (s : String) : Except TimestampError Instant :=
  TimestampReader.strict s.toList

/-- Reads a text that resembles RFC 3339. -/
def ofLooseText? (s : String) : Option Instant :=
  (TimestampReader.lenient s.toList).toOption

end Instant

end OutageLedger
