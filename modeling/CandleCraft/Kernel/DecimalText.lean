import CandleCraft.Kernel.Text
import Mathlib.Algebra.Field.Rat
import Mathlib.Algebra.Order.Group.Int
import Mathlib.Data.Rat.Defs

/-!
# Decimal literals

The texts `Decimal(text)` accepts: an optional sign, digits with an optional point, an
optional exponent, and the names of the infinities and of the quiet and signalling NaNs.
Digits are the ASCII digits. The other way, the plain text of a number.
-/

namespace PyDecimal

open PyText

inductive Literal where
  | malformed
  | nonFinite
  | finite (value : ℚ)
  deriving DecidableEq

def splitSign : List Char → Bool × List Char
  | '-' :: cs => (true, cs)
  | '+' :: cs => (false, cs)
  | cs => (false, cs)

/-- The exponent that follows the digits: nothing, or `e` and a signed digit string. -/
def parseExponent : List Char → Option ℤ
  | [] => some 0
  | 'e' :: cs =>
    let (negative, digits) := splitSign cs
    if digits ≠ [] ∧ digits.all Char.isDigit then
      some (if negative then -(digitsValue 0 digits : ℤ) else digitsValue 0 digits)
    else none
  | _ => none

def splitFraction : List Char → List Char × List Char
  | '.' :: cs => (cs.takeWhile Char.isDigit, cs.dropWhile Char.isDigit)
  | cs => ([], cs)

def parseBody (cs : List Char) : Literal :=
  let integer := cs.takeWhile Char.isDigit
  let (fraction, rest) := splitFraction (cs.dropWhile Char.isDigit)
  if integer = [] ∧ fraction = [] then .malformed
  else
    match parseExponent rest with
    | none => .malformed
    | some e =>
      .finite ((digitsValue 0 (integer ++ fraction) : ℚ) * (10 : ℚ) ^ (e - fraction.length))

/-- Whether a lower-case body names an infinity or a NaN. -/
def isSpecial (cs : List Char) : Bool :=
  let digitsAfter (name : String) : Bool :=
    name.toList.isPrefixOf cs && (cs.drop name.length).all Char.isDigit
  decide (cs = "inf".toList) || decide (cs = "infinity".toList) || digitsAfter "nan" ||
    digitsAfter "snan"

/-- `Decimal(text)`. -/
def parse (text : String) : Literal :=
  let (negative, body) := splitSign ((lower (strip text)).toList.filter fun c => c != '_')
  if isSpecial body then .nonFinite
  else
    match parseBody body with
    | .finite value => .finite (if negative then -value else value)
    | literal => literal

def decimalPlaces : ℕ → ℚ → ℕ
  | 0, _ => 0
  | bound + 1, q => if q.den = 1 then 0 else decimalPlaces bound (q * 10) + 1

/-- `format(number.normalize(), "f")` of a number with a finite decimal expansion; zero
has no sign. -/
def formatPlain (q : ℚ) : String :=
  let places := decimalPlaces (Nat.log2 q.den + 1) q
  let digits := (toString (q.num.natAbs * 10 ^ places / q.den)).toList
  let padded := List.replicate (places + 1 - digits.length) '0' ++ digits
  let sign := if q < 0 then "-" else ""
  if places = 0 then sign ++ String.ofList padded
  else
    sign ++ String.ofList (padded.take (padded.length - places)) ++ "." ++
      String.ofList (padded.drop (padded.length - places))

end PyDecimal
