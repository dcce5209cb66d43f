import OutageLedger.Text.Decimal
import OutageLedger.Text.Hex

/-
  Hosts that are addresses. An IPv4 address is written as up to four numbers, decimal, octal or
  hexadecimal, the last of which fills what is left; an IPv6 address as eight numbers in hexadecimal,
  where one row of zeros may be left out and an IPv4 address may stand for the last two.
-/

namespace OutageLedger

open Text

/-- Why a text is no URL. -/
inductive UrlError
  | noScheme
  | noHost
  | badDomain
  | badHostCharacter
  | badPort
  | badIpv4
  | badIpv6
  deriving DecidableEq, Repr

def UrlError.message : UrlError → String
  | .noScheme => "relative URL without a base"
  | .noHost => "empty host"
  | .badDomain => "invalid international domain name"
  | .badHostCharacter => "invalid domain character"
  | .badPort => "invalid port number"
  | .badIpv4 => "invalid IPv4 address"
  | .badIpv6 => "invalid IPv6 address"

/-- The parts of a text between marks. -/
def splitAt (mark : Char) (cs : List Char) : List (List Char) :=
  cs.splitOn mark

namespace Ipv4

/-- The value of a number with digits in a base. -/
def valueIn? (base : Nat) (cs : List Char) : Option Nat :=
  cs.foldlM (fun acc c =>
    match hexDigitValue? c with
    | some d => if d < base then some (acc * base + d) else none
    | none => none) 0

/-- A number: hexadecimal after `0x`, octal after another zero, else decimal. -/
def number? : List Char → Option Nat
  | [] => none
  | '0' :: 'x' :: cs | '0' :: 'X' :: cs => valueIn? 16 cs
  | '0' :: c :: cs => valueIn? 8 (c :: cs)
  | cs => valueIn? 10 cs

/-- Whether the last part of a name is a number, which makes the name an address. -/
def endsInNumber (cs : List Char) : Bool :=
  let parts := (splitAt '.' cs).reverse
  let last? := match parts with
    | [] :: rest => rest.head?
    | part :: _ => some part
    | [] => none
  match last? with
  | some part => (!part.isEmpty && part.all isDigit) || (number? part).isSome
  | none => false

/-- The numbers of an address, the last of which fills the bytes that the others leave. -/
def assemble? (numbers : List Nat) : Option Nat :=
  match numbers.reverse with
  | [] => none
  | last :: front =>
    let room := 1 <<< (8 * (4 - front.length))
    if numbers.length ≤ 4 ∧ front.all (· < 256) ∧ last < room then
      some ((front.reverse.foldl (fun acc n => acc * 256 + n) 0) * room + last)
    else none

/-- An address in any of its forms; a dot may end it. -/
def ofText? (cs : List Char) : Option Nat :=
  let parts := splitAt '.' cs
  let parts := if parts.getLast? = some [] then parts.dropLast else parts
  parts.mapM number? >>= assemble?

/-- Four decimal numbers. -/
def text (address : Nat) : List Char :=
  List.intercalate ['.'] ([16777216, 65536, 256, 1].map fun unit => decimal (address / unit % 256))

/-- Exactly four decimal numbers without leading zeros. -/
def ofPlainText? (cs : List Char) : Option (List Nat) :=
  let part? (p : List Char) : Option Nat :=
    if !p.isEmpty && p.all isDigit && decimal (value p) == p && value p < 256 then some (value p)
    else none
  match (splitAt '.' cs).mapM part? with
  | some [a, b, c, d] => some [a, b, c, d]
  | _ => none

end Ipv4

namespace Ipv6

/-- A number of one to four hexadecimal digits. -/
def piece? (cs : List Char) : Option Nat :=
  if 1 ≤ cs.length ∧ cs.length ≤ 4 then hexValue? cs else none

/-- The numbers between colons; at the end of an address an IPv4 address stands for two. -/
def pieces? (last : Bool) : List (List Char) → Option (List Nat)
  | [] => some []
  | [p] =>
    if last && p.contains '.' then
      match Ipv4.ofPlainText? p with
      | some [a, b, c, d] => some [a * 256 + b, c * 256 + d]
      | _ => none
    else (piece? p).map ([·])
  | p :: ps => do
    let n ← piece? p
    let ns ← pieces? last ps
    pure (n :: ns)

/-- The numbers of a part of an address, which may be empty. -/
def part? (last : Bool) (cs : List Char) : Option (List Nat) :=
  if cs.isEmpty then some [] else pieces? last (splitAt ':' cs)

/-- What stands before and after the first pair of colons. -/
def splitGap? : List Char → Option (List Char × List Char)
  | ':' :: ':' :: cs => some ([], cs)
  | c :: cs => (splitGap? cs).map fun (before, after) => (c :: before, after)
  | [] => none

/-- The eight numbers of an address. -/
def ofText? (cs : List Char) : Option (List Nat) :=
  match splitGap? cs with
  | none => (part? true cs).filter (·.length == 8)
  | some (before, after) => do
    let front ← part? false before
    let back ← part? true after
    if front.length + back.length ≤ 7 then
      pure (front ++ List.replicate (8 - front.length - back.length) 0 ++ back)
    else none

/-- The length of the row of zeros at the front. -/
def zeros (ns : List Nat) : Nat :=
  (ns.takeWhile (· == 0)).length

/-- The place and the length of the first longest row of zeros. -/
def longestZeros (ns : List Nat) : Nat × Nat :=
  (List.range ns.length).foldl
    (fun (at', n) i => if n < zeros (ns.drop i) then (i, zeros (ns.drop i)) else (at', n)) (0, 0)

/-- The digits of a number without leading zeros. -/
def pieceText (n : Nat) : List Char :=
  match (hexFixed 4 n).dropWhile (· == '0') with
  | [] => ['0']
  | ds => ds

def piecesText (ns : List Nat) : List Char :=
  List.intercalate [':'] (ns.map pieceText)

/-- An address; the first longest row of two or more zeros is left out. -/
def text (ns : List Nat) : List Char :=
  let (at', n) := longestZeros ns
  if n < 2 then piecesText ns
  else piecesText (ns.take at') ++ "::".toList ++ piecesText (ns.drop (at' + n))

end Ipv6

end OutageLedger
