import ComputeMonitor.Calendar.Timestamp
import ComputeMonitor.Number.Decimal

/-!
Texts of table cells for times, durations, percentages and numbers, and their reading.

The written forms are shown to the user; the readers serve the ordering of rows and accept more
than what is written, such as days before a clock time or blanks around a number.
-/

set_option autoImplicit false

namespace ComputeMonitor.Cell

open ComputeMonitor.Calendar (Moment Timestamp)
open ComputeMonitor.Number (Binary64 fixedPlaces readBinary64?)
open ComputeMonitor.Text

def notAvailable : String := "---"

/-- An instant as a date and time of day in universal time; none beyond the years that a date
can have. -/
def instantText? (time : Timestamp) : Option String :=
  time.universal?.map fun moment => String.ofList moment.cellChars

def readMoment? (raw : String) : Option Moment := Moment.ofCell? (trimChars raw.toList)

def clockText (seconds : Nat) : String :=
  String.ofList (digitsOf (seconds / 3600) ++ [':'] ++ paddedDigits 2 (seconds % 3600 / 60) ++ [':'] ++
    paddedDigits 2 (seconds % 60))

/-- A duration in seconds, rounded to whole seconds. Hours are not folded into days. -/
def durationText (seconds : Binary64) : String :=
  if !seconds.isFinite || seconds.lt .zero then notAvailable
  else clockText (seconds.round.toNatSaturating maxUInt64)

def secondsPerDay : Binary64 := .ofNat 86400

def sixty : Binary64 := .ofNat 60

/-- The leading parts of a clock time, each worth sixty of the next. -/
def clockParts? : List (List Char) → Binary64 → Option Binary64
  | [], total => some total
  | part :: rest, total => do
    let value ← readUInt64? (trimChars part)
    clockParts? rest (total * sixty + .ofNat value)

def clockSeconds? (part : List Char) : Option Binary64 := do
  let seconds ← readBinary64? (trimChars part)
  if !seconds.isFinite || seconds.lt .zero then none else some seconds

def daysAndClock? (days : Nat) (clock : List Char) : Option Binary64 :=
  let daySeconds := Binary64.ofNat days * secondsPerDay
  if clock.isEmpty then some daySeconds
  else
    let parts := splitAll ':' clock
    if parts.length > 3 then none
    else do
      let total ← clockParts? parts.dropLast .zero
      let seconds ← clockSeconds? (parts.getLastD [])
      some (daySeconds + total * sixty + seconds)

/-- A duration that is not blank: a count of days before a letter d, then a clock time, either of
which may be missing. -/
def duration? (chars : List Char) : Option Binary64 :=
  match splitFirst? 'd' chars with
  | some (before, after) =>
    (readUInt64? (trimChars before)).bind fun days => daysAndClock? days (trimChars after)
  | none => daysAndClock? 0 chars

def readDuration? (raw : String) : Option Binary64 :=
  let chars := trimChars raw.toList
  if chars.isEmpty then none else duration? chars

def fixedText (places : Nat) (number : Binary64) : String :=
  match number with
  | .finite negative units => String.ofList (fixedPlaces places negative units)
  | _ => notAvailable

/-- A fraction of one as a percentage with three decimal places, held between none and all. -/
def percentText (fraction : Binary64) : String :=
  if !fraction.isFinite then notAvailable
  else fixedText 3 ((fraction * .ofNat 100).clamp .zero (.ofNat 100)) ++ "%"

def dropPercent (chars : List Char) : List Char := (dropTrailing? ['%'] chars).getD chars

def readNumber? (raw : String) : Option Binary64 :=
  (readBinary64? (trimEndChars (dropPercent (trimChars raw.toList)))).filter Binary64.isFinite

end ComputeMonitor.Cell
