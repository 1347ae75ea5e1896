import ComputeMonitor.Number.Binary64

/-!
A generator of numbers that look random and depend on nothing but a seed: a linear congruential
sequence of 64 bits, mixed by shifts before use.
-/

set_option autoImplicit false

namespace ComputeMonitor.Simulation

open ComputeMonitor.Number (Binary64)

structure Random where
  state : UInt64
  deriving DecidableEq, Repr, Inhabited

abbrev Draw := StateM Random

namespace Random

/-- The generator of a seed; its state is never zero at first. -/
def ofSeed (seed : UInt64) : Random :=
  let state := seed ^^^ 0x9E3779B97F4A7C15
  ⟨if state = 0 then 0xA4093822299F31D0 else state⟩

def step (random : Random) : Random :=
  ⟨random.state * 6364136223846793005 + 1442695040888963407⟩

def output (random : Random) : UInt64 :=
  let x := random.state
  let x := x ^^^ (x >>> 13)
  let x := x ^^^ (x <<< 7)
  x ^^^ (x >>> 17)

end Random

def nextUInt64 : Draw UInt64 := do
  let random := (← get).step
  set random
  return random.output

/-- A number below a bound. Where only zero is possible nothing is drawn. -/
def below (bound : Nat) : Draw Nat := do
  if bound ≤ 1 then return 0
  else return (← nextUInt64).toNat % bound

/-- A fraction from zero, included, to one, excluded. -/
def unitFraction : Draw Binary64 := do
  return .ofRatio false ((← nextUInt64).toNat / 2048) 9007199254740992

def between (low high : Binary64) : Draw Binary64 := do return low + (high - low) * (← unitFraction)

def pick {α : Type} [Inhabited α] (values : List α) : Draw α := do
  return values.getD (← below values.length) default

end ComputeMonitor.Simulation
