import ComputeMonitor.Calendar.Date
import ComputeMonitor.Text.Numeral

/-!
Moments of a calendar without a time zone, and their form in a table cell,
`YYYY-MM-DD HH:MM:SS`. Reading a cell also accepts the form without seconds and a sign before
the year.
-/

set_option autoImplicit false

namespace ComputeMonitor.Calendar

open ComputeMonitor.Text (isDigit digitsValue dropLeading? paddedDigits)

structure Moment where
  date : Date
  hour : Nat
  minute : Nat
  second : Nat
  nanosecond : Nat
  deriving DecidableEq, Repr, Inhabited

namespace Moment

def isValid (moment : Moment) : Bool :=
  moment.date.isValid && moment.hour ≤ 23 && moment.minute ≤ 59 && moment.second ≤ 59 &&
    moment.nanosecond < 1000000000

/-- The whole seconds from the start of 1970, as if the moment were one of the universal time. -/
def secondNumber (moment : Moment) : Int :=
  moment.date.dayNumber * 86400 +
    ((moment.hour * 3600 + moment.minute * 60 + moment.second : Nat) : Int)

def ofSecondNumber (seconds : Int) (nanosecond : Nat) : Moment :=
  let rest := (seconds % 86400).toNat
  ⟨Date.ofDayNumber (seconds / 86400), rest / 3600, rest % 3600 / 60, rest % 60, nanosecond⟩

def order (left right : Moment) : Ordering :=
  (compare left.date.year right.date.year).then <|
  (compare left.date.month right.date.month).then <|
  (compare left.date.day right.date.day).then <|
  (compare left.hour right.hour).then <|
  (compare left.minute right.minute).then <|
  (compare left.second right.second).then <|
  compare left.nanosecond right.nanosecond

def yearDigits (year : Int) : List Char :=
  (if year < 0 then ['-'] else []) ++ paddedDigits 4 year.natAbs

/-- The text of a moment in a table cell. The fraction of a second is not shown. -/
def cellChars (moment : Moment) : List Char :=
  yearDigits moment.date.year ++ ['-'] ++ paddedDigits 2 moment.date.month ++ ['-'] ++
    paddedDigits 2 moment.date.day ++ [' '] ++ paddedDigits 2 moment.hour ++ [':'] ++
    paddedDigits 2 moment.minute ++ [':'] ++ paddedDigits 2 moment.second

def takeDigits? (count : Nat) (chars : List Char) : Option (Nat × List Char) :=
  let digits := chars.take count
  if digits.length = count && digits.all isDigit then
    some (digitsValue digits 0, chars.drop count)
  else none

def dropMark? (mark : Char) : List Char → Option (List Char)
  | c :: rest => if c = mark then some rest else none
  | [] => none

def takeYear? (chars : List Char) : Option (Int × List Char) :=
  match chars with
  | '-' :: rest => (takeDigits? 4 rest).map fun (year, rest) => (-(year : Int), rest)
  | '+' :: rest => (takeDigits? 4 rest).map fun (year, rest) => ((year : Int), rest)
  | rest => (takeDigits? 4 rest).map fun (year, rest) => ((year : Int), rest)

def takeMonthDay? (year : Int) (chars : List Char) : Option (Date × List Char) := do
  let chars ← dropMark? '-' chars
  let (month, chars) ← takeDigits? 2 chars
  let chars ← dropMark? '-' chars
  let (day, chars) ← takeDigits? 2 chars
  return (⟨year, month, day⟩, chars)

/-- The seconds at the end of a cell, which may be left out. -/
def closingSeconds? (chars : List Char) : Option Nat :=
  match chars with
  | [] => some 0
  | chars => do
    let chars ← dropMark? ':' chars
    let (second, chars) ← takeDigits? 2 chars
    if chars.isEmpty then some second else none

def ofCell? (chars : List Char) : Option Moment := do
  let (year, chars) ← takeYear? chars
  let (date, chars) ← takeMonthDay? year chars
  let chars ← dropMark? ' ' chars
  let (hour, chars) ← takeDigits? 2 chars
  let chars ← dropMark? ':' chars
  let (minute, chars) ← takeDigits? 2 chars
  let second ← closingSeconds? chars
  let moment : Moment := ⟨date, hour, minute, second, 0⟩
  if moment.isValid then some moment else none

end Moment
end ComputeMonitor.Calendar
