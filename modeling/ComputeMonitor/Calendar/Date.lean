/-!
Dates of the proleptic Gregorian calendar and their day numbers.

Day numbers count from the first of January 1970. The date of a day number is found by an
estimate of the year that is off by one at most, and by walking through the months.
-/

set_option autoImplicit false

namespace ComputeMonitor.Calendar

/-- A calendar date; year zero is the year before year one. -/
structure Date where
  year : Int
  month : Nat
  day : Nat
  deriving DecidableEq, Repr, Inhabited

def isLeapYear (year : Int) : Bool := year % 4 == 0 && (year % 100 != 0 || year % 400 == 0)

def monthLengths (year : Int) : List Nat :=
  [31, if isLeapYear year then 29 else 28, 31, 30, 31, 30, 31, 31, 30, 31, 30, 31]

def daysInMonth (year : Int) (month : Nat) : Nat :=
  if month = 0 then 0 else (monthLengths year).getD (month - 1) 0

def daysBeforeYear (year : Int) : Int :=
  365 * year + (year + 3) / 4 - (year + 99) / 100 + (year + 399) / 400

/-- The day number of the start of year zero, negated. -/
def epochOffset : Int := 719528

namespace Date

def isValid (date : Date) : Bool :=
  1 ≤ date.month && date.month ≤ 12 && 1 ≤ date.day && date.day ≤ daysInMonth date.year date.month

def daysBeforeMonth (year : Int) (month : Nat) : Nat :=
  ((monthLengths year).take (month - 1)).foldl (· + ·) 0

/-- The number of days from the first of January 1970. -/
def dayNumber (date : Date) : Int :=
  daysBeforeYear date.year + daysBeforeMonth date.year date.month + date.day - 1 - epochOffset

/-- The month and the day of the month of a day of the year that counts from zero. -/
def monthAndDay : List Nat → Nat → Nat → Nat × Nat
  | [], month, day => (month, day + 1)
  | length :: rest, month, day =>
    if day < length then (month, day + 1) else monthAndDay rest (month + 1) (day - length)

def yearOfDays (days : Int) : Int :=
  let estimate := days * 400 / 146097
  if days < daysBeforeYear estimate then estimate - 1
  else if daysBeforeYear (estimate + 1) ≤ days then estimate + 1
  else estimate

def ofDayNumber (number : Int) : Date :=
  let days := number + epochOffset
  let year := yearOfDays days
  let (month, day) := monthAndDay (monthLengths year) 1 (days - daysBeforeYear year).toNat
  ⟨year, month, day⟩

end Date
end ComputeMonitor.Calendar
