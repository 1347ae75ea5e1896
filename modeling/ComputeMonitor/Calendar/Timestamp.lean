import ComputeMonitor.Calendar.Moment

/-!
Instants with an offset from the universal time, and their notation after RFC 3339.

A leap second is read only where the universal time stands at the last second of a month, and
becomes the last nanosecond before it. The mark between date and time may be any ASCII character.
-/

set_option autoImplicit false

namespace ComputeMonitor.Calendar

open Moment (takeDigits? dropMark? takeMonthDay?)
open ComputeMonitor.Text (isDigit digitValue paddedDigits dropEndWhile)

/-- An instant, given by a moment at some offset from the universal time. Offsets that can be written have whole
minutes. -/
structure Timestamp where
  moment : Moment
  offsetSeconds : Int
  deriving DecidableEq, Repr, Inhabited

namespace Timestamp

def unixSeconds (time : Timestamp) : Int := time.moment.secondNumber - time.offsetSeconds

def yearInRange (year : Int) : Bool := -9999 ≤ year && year ≤ 9999

/-- The moment in universal time, unless its year is out of range. -/
def universal? (time : Timestamp) : Option Moment :=
  let moment := Moment.ofSecondNumber time.unixSeconds time.moment.nanosecond
  if yearInRange moment.date.year then some moment else none

def ofUnixSeconds? (seconds : Int) : Option Timestamp :=
  let moment := Moment.ofSecondNumber seconds 0
  if yearInRange moment.date.year then some ⟨moment, 0⟩ else none

def addSeconds (time : Timestamp) (seconds : Nat) : Timestamp :=
  { time with moment := .ofSecondNumber (time.moment.secondNumber + seconds) time.moment.nanosecond }

/-- The value of a fraction's digits in nanoseconds; digits beyond the ninth have none. -/
def fractionValue (digits : List Char) : Nat :=
  Text.digitsValue ((digits ++ List.replicate 9 '0').take 9) 0

def takeFraction? (chars : List Char) : Option (Nat × List Char) :=
  match chars with
  | '.' :: rest =>
    let digits := rest.takeWhile isDigit
    if digits.isEmpty then none else some (fractionValue digits, rest.dropWhile isDigit)
  | rest => some (0, rest)

def closingOffset? (chars : List Char) : Option Int :=
  let signed (negative : Bool) (rest : List Char) : Option Int := do
    let (hours, rest) ← takeDigits? 2 rest
    let rest ← dropMark? ':' rest
    let (minutes, rest) ← takeDigits? 2 rest
    if hours ≤ 23 && minutes ≤ 59 && rest.isEmpty then
      let total : Int := ((hours * 60 + minutes : Nat) : Int)
      some (if negative then -total else total)
    else none
  match chars with
  | ['Z'] => some 0
  | ['z'] => some 0
  | '+' :: rest => signed false rest
  | '-' :: rest => signed true rest
  | _ => none

def endsMonth (time : Timestamp) : Bool :=
  match time.universal? with
  | some moment =>
    moment.hour == 23 && moment.minute == 59 && moment.second == 59 &&
      moment.date.day == daysInMonth moment.date.year moment.date.month
  | none => false

def read? (chars : List Char) : Option Timestamp := do
  let (year, chars) ← takeDigits? 4 chars
  let (date, chars) ← takeMonthDay? year chars
  let chars ← match chars with
    | mark :: rest => if mark.toNat < 128 then some rest else none
    | [] => none
  let (hour, chars) ← takeDigits? 2 chars
  let chars ← dropMark? ':' chars
  let (minute, chars) ← takeDigits? 2 chars
  let chars ← dropMark? ':' chars
  let (second, chars) ← takeDigits? 2 chars
  let (nanosecond, chars) ← takeFraction? chars
  let offsetMinutes ← closingOffset? chars
  let leap := second == 60
  let moment : Moment :=
    if leap then ⟨date, hour, minute, 59, 999999999⟩ else ⟨date, hour, minute, second, nanosecond⟩
  let time : Timestamp := ⟨moment, offsetMinutes * 60⟩
  if moment.isValid && (!leap || time.endsMonth) then some time else none

def offsetChars (minutes : Int) : List Char :=
  if minutes = 0 then ['Z']
  else
    (if minutes < 0 then ['-'] else ['+']) ++ paddedDigits 2 (minutes.natAbs / 60) ++ [':'] ++
      paddedDigits 2 (minutes.natAbs % 60)

/-- The fraction of a second with its point, without trailing zeros, empty for a whole second. -/
def fractionChars (nanosecond : Nat) : List Char :=
  if nanosecond = 0 then [] else '.' :: dropEndWhile (· = '0') (paddedDigits 9 nanosecond)

def chars (time : Timestamp) : List Char :=
  let moment := time.moment
  paddedDigits 4 moment.date.year.natAbs ++ ['-'] ++ paddedDigits 2 moment.date.month ++ ['-'] ++
    paddedDigits 2 moment.date.day ++ ['T'] ++ paddedDigits 2 moment.hour ++ [':'] ++
    paddedDigits 2 moment.minute ++ [':'] ++ paddedDigits 2 moment.second ++
    fractionChars moment.nanosecond ++ offsetChars (time.offsetSeconds / 60)

end Timestamp
end ComputeMonitor.Calendar
