import OutageLedger.Text.Hex
import OutageLedger.Text.Printable

/-
  Texts in quotes, as messages and journals show them: quotes, backslashes and the common controls
  with a backslash, and characters that do not show as their code point.
-/

namespace OutageLedger.Text

/-- The lower-case hexadecimal digits of a number with no leading zero. -/
def hexadecimal (n : Nat) : List Char :=
  if n < 16 then [hexDigit n] else hexadecimal (n / 16) ++ [hexDigit n]
termination_by n
decreasing_by omega

/-- One character between quotes. -/
def shownChar (c : Char) : List Char :=
  match c with
  | '"' => ['\\', '"']
  | '\\' => ['\\', '\\']
  | '\t' => ['\\', 't']
  | '\n' => ['\\', 'n']
  | '\r' => ['\\', 'r']
  | '\x00' => ['\\', '0']
  | _ =>
    if isPrintable c then [c] else ['\\', 'u', '\x7b'] ++ hexadecimal c.toNat ++ ['\x7d']

/-- A text in quotes. -/
def shown (s : String) : String :=
  String.ofList ('"' :: s.toList.flatMap shownChar ++ ['"'])

/-- Texts in quotes and brackets. -/
def shownList (ss : List String) : String :=
  "[" ++ String.intercalate ", " (ss.map shown) ++ "]"

/-- A text in quotes that may be missing. -/
def shownOption : Option String → String
  | some s => s!"Some({shown s})"
  | none => "None"

end OutageLedger.Text
