import ComputeMonitor.Number.Rounding

/-!
Binary floating-point numbers of double precision.

A finite number is a sign and a count of units, one unit being the smallest positive number,
two to the power minus 1074. A count that the format can hold has at most 53 significant bits.
Every operation computes the exact result and rounds it once, to the nearest number of the
format, a tie going to the one whose last bit is zero.

The two zeros are different values that compare equal; a number that is not a number is equal
to nothing and has no order.
-/

set_option autoImplicit false

namespace ComputeMonitor.Number

inductive Binary64 where
  | nan
  | infinite (negative : Bool)
  | finite (negative : Bool) (units : Nat)
  deriving DecidableEq, Repr, Inhabited

namespace Binary64

/-- How many units make one. -/
def one : Nat := 1 <<< 1074

/-- The first count of units that is too large for the format. -/
def overflow : Nat := 1 <<< 2098

def bitLength (n : Nat) : Nat := if n = 0 then 0 else n.log2 + 1

/-- The binary places that a count has beyond the 53 the format keeps. -/
def excess (units : Nat) : Nat := bitLength units - 53

def roundedUnits (numerator denominator : Nat) : Nat :=
  let places := excess (numerator / denominator)
  roundDiv .toEven numerator (denominator <<< places) <<< places

def ofUnits (negative : Bool) (numerator denominator : Nat) : Binary64 :=
  let units := roundedUnits numerator denominator
  if units < overflow then .finite negative units else .infinite negative

def zero : Binary64 := .finite false 0

def ofNat (n : Nat) : Binary64 := ofUnits false (n <<< 1074) 1

def ofRatio (negative : Bool) (numerator denominator : Nat) : Binary64 :=
  ofUnits negative (numerator <<< 1074) denominator

def isFinite : Binary64 → Bool
  | .finite _ _ => true
  | _ => false

def isNaN : Binary64 → Bool
  | .nan => true
  | _ => false

def neg : Binary64 → Binary64
  | .nan => .nan
  | .infinite negative => .infinite (!negative)
  | .finite negative units => .finite (!negative) units

def signedUnits (negative : Bool) (units : Nat) : Int :=
  if negative then -(units : Int) else (units : Int)

def compare? : Binary64 → Binary64 → Option Ordering
  | .nan, _ => none
  | _, .nan => none
  | .infinite left, .infinite right =>
    some (if left = right then .eq else if left then .lt else .gt)
  | .infinite left, .finite _ _ => some (if left then .lt else .gt)
  | .finite _ _, .infinite right => some (if right then .gt else .lt)
  | .finite left first, .finite right second =>
    some (compare (signedUnits left first) (signedUnits right second))

def lt (left right : Binary64) : Bool := left.compare? right == some .lt

def le (left right : Binary64) : Bool :=
  match left.compare? right with
  | some .lt | some .eq => true
  | _ => false

/-- Numerical equality: the zeros are equal, and a number that is not a number equals nothing. -/
def same (left right : Binary64) : Bool := left.compare? right == some .eq

/-- The number with a signed count of units; a zero result is positive unless both zeros that
made it were negative. -/
def ofSignedUnits (bothNegative : Bool) (units : Int) : Binary64 :=
  if units = 0 then .finite bothNegative 0 else ofUnits (units < 0) units.natAbs 1

def add : Binary64 → Binary64 → Binary64
  | .nan, _ => .nan
  | _, .nan => .nan
  | .infinite left, .infinite right => if left = right then .infinite left else .nan
  | .infinite left, .finite _ _ => .infinite left
  | .finite _ _, .infinite right => .infinite right
  | .finite left first, .finite right second =>
    ofSignedUnits (left && right) (signedUnits left first + signedUnits right second)

def sub (left right : Binary64) : Binary64 := left.add right.neg

def mul : Binary64 → Binary64 → Binary64
  | .nan, _ => .nan
  | _, .nan => .nan
  | .infinite left, .infinite right => .infinite (left != right)
  | .infinite left, .finite right units => if units = 0 then .nan else .infinite (left != right)
  | .finite left units, .infinite right => if units = 0 then .nan else .infinite (left != right)
  | .finite left first, .finite right second => ofUnits (left != right) (first * second) one

def div : Binary64 → Binary64 → Binary64
  | .nan, _ => .nan
  | _, .nan => .nan
  | .infinite _, .infinite _ => .nan
  | .infinite left, .finite right _ => .infinite (left != right)
  | .finite left _, .infinite right => .finite (left != right) 0
  | .finite left first, .finite right second =>
    if second = 0 then (if first = 0 then .nan else .infinite (left != right))
    else ofUnits (left != right) (first <<< 1074) second

/-- The number held between two bounds; what is not a number stays so. -/
def clamp (number low high : Binary64) : Binary64 :=
  if number.lt low then low else if high.lt number then high else number

/-- The smaller of two numbers; what is not a number gives way to the other. -/
def min (left right : Binary64) : Binary64 :=
  match left.compare? right with
  | some .gt => right
  | some _ => left
  | none => if left.isNaN then right else left

def max (left right : Binary64) : Binary64 :=
  match left.compare? right with
  | some .lt => right
  | some _ => left
  | none => if left.isNaN then right else left

/-- The nearest whole number, halves going away from zero. -/
def round : Binary64 → Binary64
  | .finite negative units => .finite negative (roundDiv .away units one <<< 1074)
  | number => number

/-- The whole part of a number as a natural number no larger than a limit. Negative numbers and
what is not a number give zero. -/
def toNatSaturating (limit : Nat) : Binary64 → Nat
  | .nan => 0
  | .infinite negative => if negative then 0 else limit
  | .finite negative units => if negative then 0 else Nat.min (units >>> 1074) limit

/-- The number of a pattern of 64 bits: sign, eleven bits of exponent, 52 bits of fraction. -/
def ofBits (bits : Nat) : Binary64 :=
  let negative := (bits >>> 63) % 2 = 1
  let exponent := (bits >>> 52) % 2048
  let fraction := bits % (1 <<< 52)
  if exponent = 2047 then (if fraction = 0 then .infinite negative else .nan)
  else if exponent = 0 then .finite negative fraction
  else .finite negative (((1 <<< 52) + fraction) <<< (exponent - 1))

def signBit (negative : Bool) : Nat := if negative then 1 <<< 63 else 0

def toBits : Binary64 → Nat
  | .nan => 2047 <<< 52 ||| 1 <<< 51
  | .infinite negative => signBit negative + (2047 <<< 52)
  | .finite negative units =>
    if units < 1 <<< 52 then signBit negative + units
    else
      let places := excess units
      signBit negative + ((places + 1) <<< 52) + ((units >>> places) % (1 <<< 52))

instance : Add Binary64 := ⟨add⟩
instance : Sub Binary64 := ⟨sub⟩
instance : Mul Binary64 := ⟨mul⟩
instance : Div Binary64 := ⟨div⟩
instance : Neg Binary64 := ⟨neg⟩

theorem compare?_swap (left right : Binary64) :
    right.compare? left = (left.compare? right).map Ordering.swap := by
  cases left with
  | nan => cases right <;> rfl
  | infinite first =>
    cases right with
    | nan => rfl
    | infinite second => cases first <;> cases second <;> rfl
    | finite second units => cases first <;> rfl
  | finite first units =>
    cases right with
    | nan => rfl
    | infinite second => cases second <;> rfl
    | finite second others =>
      simp only [compare?, Option.map_some, Option.some.injEq]
      exact (Int.instTransOrd).eq_swap

end Binary64
end ComputeMonitor.Number
