import ComputeMonitor.Number.Binary64
import ComputeMonitor.Text.Numeral

/-!
Decimal notation of floating-point numbers.

Reading accepts an optional sign, digits with an optional point (at least one digit in all), an
optional exponent, and the names of infinity and of the value that is not a number in any case.
The result is the number nearest to the decimal.
-/

set_option autoImplicit false

namespace ComputeMonitor.Number

open ComputeMonitor.Text (isDigit digitsValue digits? digitsOf)

/-- A decimal: digits read as a whole number, to be multiplied by a power of ten. -/
structure Decimal where
  digits : Nat
  exponent : Int
  deriving DecidableEq, Repr

namespace Decimal

/-- The number nearest to a decimal. Beyond these exponents every nonzero decimal is infinite or
zero in the format, so that no large power has to be formed. -/
def nearest (negative : Bool) (decimal : Decimal) : Binary64 :=
  let magnitude : Int := decimal.exponent + (digitsOf decimal.digits).length
  if decimal.digits = 0 then .finite negative 0
  else if magnitude > 400 then .infinite negative
  else if magnitude < -400 then .finite negative 0
  else if decimal.exponent < 0 then
    .ofRatio negative decimal.digits (Nat.pow 10 decimal.exponent.natAbs)
  else .ofRatio negative (decimal.digits * Nat.pow 10 decimal.exponent.natAbs) 1

end Decimal

def leadingDigits (chars : List Char) : List Char × List Char :=
  (chars.takeWhile isDigit, chars.dropWhile isDigit)

def exponent? (chars : List Char) : Option Int :=
  match chars with
  | '-' :: rest => (digits? rest).map fun n => -(n : Int)
  | '+' :: rest => (digits? rest).map fun n => (n : Int)
  | rest => (digits? rest).map fun n => (n : Int)

def decimal? (chars : List Char) : Option Decimal :=
  let (whole, afterWhole) := leadingDigits chars
  let (fraction, rest) := match afterWhole with
    | '.' :: afterPoint => leadingDigits afterPoint
    | other => ([], other)
  if whole.isEmpty && fraction.isEmpty then none
  else
    let digits := digitsValue (whole ++ fraction) 0
    match rest with
    | [] => some ⟨digits, -(fraction.length : Int)⟩
    | mark :: exponentChars =>
      if mark = 'e' || mark = 'E' then
        (exponent? exponentChars).map fun exponent => ⟨digits, exponent - (fraction.length : Int)⟩
      else none

def magnitude? (negative : Bool) (chars : List Char) : Option Binary64 :=
  match decimal? chars with
  | some decimal => some (decimal.nearest negative)
  | none =>
    let name := String.ofList (chars.map Char.toLower)
    if name = "inf" || name = "infinity" then some (.infinite negative)
    else if name = "nan" then some .nan
    else none

def readBinary64? (chars : List Char) : Option Binary64 :=
  match chars with
  | '-' :: rest => magnitude? true rest
  | '+' :: rest => magnitude? false rest
  | rest => magnitude? false rest

/-- A finite number with a fixed count of decimal places, the exact value rounded once and ties
going to the even last digit. A negative zero keeps its sign. -/
def fixedPlaces (places : Nat) (negative : Bool) (units : Nat) : List Char :=
  let scale := Nat.pow 10 places
  let rounded := roundDiv .toEven (units * scale) Binary64.one
  let sign := if negative then ['-'] else []
  let fraction := if places = 0 then [] else '.' :: Text.paddedDigits places (rounded % scale)
  sign ++ digitsOf (rounded / scale) ++ fraction

end ComputeMonitor.Number
