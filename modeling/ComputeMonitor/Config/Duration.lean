import ComputeMonitor.DocumentSource
import ComputeMonitor.Text.Numeral
import ComputeMonitor.Text.Quoted

/-!
Durations in a configuration: a whole number directly followed by its unit.
-/

set_option autoImplicit false

namespace ComputeMonitor.Config

open ComputeMonitor.Text

/-- Why a text is no duration. Minutes that cannot be counted in seconds crash the reading. -/
inductive DurationFault where
  | unit (text : String)
  | number (text : String) (error : NumeralError)
  | crashed
  deriving DecidableEq, Repr

def numeralText : NumeralError → String
  | .empty => "cannot parse integer from empty string"
  | .invalidDigit => "invalid digit found in string"
  | .tooLarge => "number too large to fit in target type"

def DurationFault.stop : DurationFault → Stop
  | .unit text =>
    .ofText ("invalid duration " ++ quoted text ++
      "; use one of: <N>ms, <N>s, <N>m (for example 500ms or 5s)")
  | .number text error => .failed ⟨["invalid duration " ++ quoted text, numeralText error]⟩
  | .crashed => .crashed

inductive TimeUnit where
  | milliseconds
  | seconds
  | minutes
  deriving DecidableEq, Repr

def splitUnit? (chars : List Char) : Option (List Char × TimeUnit) :=
  match dropTrailing? "ms".toList chars with
  | some number => some (number, .milliseconds)
  | none =>
    match dropTrailing? ['s'] chars with
    | some number => some (number, .seconds)
    | none => (dropTrailing? ['m'] chars).map fun number => (number, .minutes)

/-- An amount of a unit in milliseconds. Minutes are turned into seconds of 64 bits first. -/
def TimeUnit.inMilliseconds : TimeUnit → Nat → Except DurationFault Nat
  | .milliseconds, amount => .ok amount
  | .seconds, amount => .ok (amount * 1000)
  | .minutes, amount => if amount * 60 ≤ maxUInt64 then .ok (amount * 60 * 1000) else .error .crashed

/-- Read a duration in milliseconds. -/
def readDuration (text : String) : Except DurationFault Nat :=
  match splitUnit? text.toList with
  | none => .error (.unit text)
  | some (number, unit) =>
    match readUnsigned maxUInt64 number with
    | .ok amount => unit.inMilliseconds amount
    | .error error => .error (.number text error)

end ComputeMonitor.Config
