import ComputeMonitor.Number.Decimal

/-!
JSON values as they are written.

Numbers keep their notation and strings may hold escapes that denote no character, because such
texts do no harm in a part of a document that nobody reads. What a number or a string denotes is
decided when it is read.
-/

set_option autoImplicit false

namespace ComputeMonitor.Json

open ComputeMonitor.Number (Binary64 Decimal)
open ComputeMonitor.Text (digitValue digitsValue maxUInt64)

/-- A number as it is written: its sign, the digits before and after the point, and the sign and
the digits of its exponent. A whole number has neither point nor exponent. -/
structure Numeral where
  negative : Bool
  whole : List Char
  fraction : Option (List Char) := none
  exponent : Option (Bool × List Char) := none
  deriving DecidableEq, Repr, Inhabited

/-- A string is missing where an escape in it denotes half a character. -/
inductive Value where
  | null
  | bool (value : Bool)
  | number (numeral : Numeral)
  | string (text : Option String)
  | array (elements : List Value)
  | object (members : List (Option String × Value))
  deriving Inhabited

/-- The digits of a number that fit into 64 bits, read as a whole number, and the power of ten
that belongs to it. -/
structure Scaled where
  digits : Nat
  exponent : Int
  deriving DecidableEq, Repr

namespace Scaled

/-- Read on in the digits before the point. From the first digit that does not fit on, digits
only count as places. -/
def whole (scaled : Scaled) : List Char → Scaled
  | [] => scaled
  | c :: rest =>
    let next := scaled.digits * 10 + digitValue c
    if next ≤ maxUInt64 then whole { scaled with digits := next } rest
    else { scaled with exponent := scaled.exponent + (c :: rest).length }

def fraction (scaled : Scaled) : List Char → Scaled
  | [] => scaled
  | c :: rest =>
    let next := scaled.digits * 10 + digitValue c
    if next ≤ maxUInt64 then fraction ⟨next, scaled.exponent - 1⟩ rest else scaled

end Scaled

def powerOfTen (exponent : Nat) : Binary64 := Decimal.nearest false ⟨1, exponent⟩

def largestPower : Nat := 308

/-- Scale a number by a power of ten, in steps of powers that the format has. Four steps are
enough to leave the range of the format. No value is the answer when the result is too large. -/
def scale? : Nat → Binary64 → Int → Option Binary64
  | 0, number, _ => some number
  | steps + 1, number, exponent =>
    if exponent.natAbs ≤ largestPower then
      if 0 ≤ exponent then
        let result := number * powerOfTen exponent.natAbs
        if result.isFinite then some result else none
      else some (number / powerOfTen exponent.natAbs)
    else if number.same .zero then some number
    else if 0 ≤ exponent then none
    else scale? steps (number / powerOfTen largestPower) (exponent + largestPower)

namespace Numeral

def isWhole (numeral : Numeral) : Bool := numeral.fraction.isNone && numeral.exponent.isNone

def writtenExponent (numeral : Numeral) : Int :=
  match numeral.exponent with
  | some (true, digits) => -(digitsValue digits 0 : Int)
  | some (false, digits) => digitsValue digits 0
  | none => 0

/-- The floating-point number that a numeral denotes: its digits, rounded, scaled by its power of
ten. A whole number within 64 bits is rounded once. No value is the answer beyond the range. -/
def toBinary64? (numeral : Numeral) : Option Binary64 :=
  let whole := Scaled.whole ⟨0, 0⟩ numeral.whole
  let scaled := whole.fraction (numeral.fraction.getD [])
  let magnitude := scale? 5 (.ofNat scaled.digits) (scaled.exponent + numeral.writtenExponent)
  magnitude.map fun number => if numeral.negative then -number else number

def toNat? (limit : Nat) (numeral : Numeral) : Option Nat :=
  let value := digitsValue numeral.whole 0
  if numeral.isWhole && !numeral.negative && value ≤ limit then some value else none

end Numeral
end ComputeMonitor.Json
