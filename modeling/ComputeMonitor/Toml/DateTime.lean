import ComputeMonitor.Calendar.Date
import ComputeMonitor.Text.Blank
import ComputeMonitor.Text.Numeral

/-!
Points in time of TOML: dates, times of day, and both together with or without the offset of a
time zone.

However a point in time is written, its text is the same: a capital `T` between date and time,
seconds always, a fraction of a second without zeros at its end.
-/

set_option autoImplicit false

namespace ComputeMonitor.Toml

open ComputeMonitor.Text

/-- What is read from the beginning of a text, and the rest of the text. -/
abbrev Reading (α : Type) := Option (α × List Char)

/-- A time of day. The last second of a day may be followed by a leap second. -/
structure TimeOfDay where
  hour : Nat
  minute : Nat
  second : Nat
  nanosecond : Nat
  deriving DecidableEq, Repr

/-- How far the time of a zone is ahead of universal time. -/
inductive Offset where
  | universal
  | minutes (ahead : Int)
  deriving DecidableEq, Repr

/-- A point in time, as far as it is given. -/
inductive DateTime where
  | date (date : Calendar.Date)
  | time (time : TimeOfDay)
  | both (date : Calendar.Date) (time : TimeOfDay) (offset : Option Offset)
  deriving DecidableEq, Repr

/-! ## Reading -/

def fixedNumber? (count : Nat) (chars : List Char) : Reading Nat :=
  let digits := chars.take count
  if digits.length = count && digits.all isDigit then
    some (digitsValue digits 0, chars.drop count)
  else none

def date? (chars : List Char) : Option (Calendar.Date × List Char) := do
  let (year, rest) ← fixedNumber? 4 chars
  let (month, rest) ← fixedNumber? 2 (← dropLeading? ['-'] rest)
  let (day, rest) ← fixedNumber? 2 (← dropLeading? ['-'] rest)
  let date : Calendar.Date := ⟨year, month, day⟩
  if date.isValid then some (date, rest) else none

/-- The nanoseconds that the digits behind the point of a second denote. Digits beyond the ninth
do not count. -/
def nanoseconds (digits : List Char) : Nat :=
  digitsValue ((digits ++ List.replicate 9 '0').take 9) 0

def fraction? : List Char → Reading Nat
  | '.' :: rest =>
    let digits := rest.takeWhile isDigit
    if digits.isEmpty then none else some (nanoseconds digits, rest.drop digits.length)
  | rest => some (0, rest)

def time? (chars : List Char) : Option (TimeOfDay × List Char) := do
  let (hour, rest) ← fixedNumber? 2 chars
  let (minute, rest) ← fixedNumber? 2 (← dropLeading? [':'] rest)
  if 23 < hour ∨ 59 < minute then none
  else match rest with
    | ':' :: rest => do
      let (second, rest) ← fixedNumber? 2 rest
      let (nanosecond, rest) ← fraction? rest
      if 60 < second then none else some (⟨hour, minute, second, nanosecond⟩, rest)
    | rest => some (⟨hour, minute, 0, 0⟩, rest)

def offset? : List Char → Option Offset
  | ['Z'] => some .universal
  | ['z'] => some .universal
  | sign :: rest => do
    let (hours, rest) ← fixedNumber? 2 rest
    let (minutes, rest) ← fixedNumber? 2 (← dropLeading? [':'] rest)
    let ahead : Int := hours * 60 + minutes
    if 23 < hours ∨ 59 < minutes ∨ rest ≠ [] then none
    else if sign = '+' then some (.minutes ahead)
    else if sign = '-' then some (.minutes (-ahead))
    else none
  | [] => none

def timeBehind? (date : Calendar.Date) (chars : List Char) : Option DateTime := do
  let (time, rest) ← time? chars
  if rest = [] then some (.both date time none)
  else (offset? rest).map fun offset => .both date time (some offset)

def DateTime.read? (chars : List Char) : Option DateTime :=
  match date? chars with
  | some (day, []) => some (.date day)
  | some (day, mark :: rest) =>
    if mark = 'T' || mark = 't' || mark = ' ' then timeBehind? day rest else none
  | none =>
    match time? chars with
    | some (hours, []) => some (.time hours)
    | _ => none

/-! ## Writing -/

def dateDigits (date : Calendar.Date) : List Char :=
  paddedDigits 4 date.year.toNat ++ '-' :: paddedDigits 2 date.month ++ '-' ::
    paddedDigits 2 date.day

def TimeOfDay.digits (time : TimeOfDay) : List Char :=
  let fraction := dropEndWhile (· = '0') (paddedDigits 9 time.nanosecond)
  paddedDigits 2 time.hour ++ ':' :: paddedDigits 2 time.minute ++ ':' ::
    paddedDigits 2 time.second ++ (if fraction.isEmpty then [] else '.' :: fraction)

def Offset.mark : Offset → List Char
  | universal => ['Z']
  | minutes ahead =>
    (if ahead < 0 then '-' else '+') ::
      (paddedDigits 2 (ahead.natAbs / 60) ++ ':' :: paddedDigits 2 (ahead.natAbs % 60))

def DateTime.text : DateTime → String
  | .date day => String.ofList (dateDigits day)
  | .time hours => String.ofList hours.digits
  | .both day hours offset =>
    String.ofList (dateDigits day ++ 'T' :: hours.digits ++
      match offset with
      | some offset => offset.mark
      | none => [])

end ComputeMonitor.Toml
