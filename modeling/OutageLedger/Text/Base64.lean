/-
  Base64: three bytes as four digits. Where the last ones are not three, equals signs stand for the digits
  that are not needed.
-/

namespace OutageLedger.Text.Base64

def digits : List Char :=
  "ABCDEFGHIJKLMNOPQRSTUVWXYZabcdefghijklmnopqrstuvwxyz0123456789+/".toList

/-- The digit for the lowest six bits of a number. -/
def digit (n : Nat) : Char :=
  digits[n % 64]?.getD '='

def encode : List UInt8 → List Char
  | [] => []
  | [a] => [digit (a.toNat / 4), digit (a.toNat * 16), '=', '=']
  | [a, b] =>
    let n := a.toNat * 256 + b.toNat
    [digit (n / 1024), digit (n / 16), digit (n * 4), '=']
  | a :: b :: c :: bytes =>
    let n := a.toNat * 65536 + b.toNat * 256 + c.toNat
    digit (n / 262144) :: digit (n / 4096) :: digit (n / 64) :: digit n :: encode bytes

end OutageLedger.Text.Base64
