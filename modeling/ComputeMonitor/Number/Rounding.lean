/-!
Rounding a quotient of natural numbers to a whole number.
-/

set_option autoImplicit false

namespace ComputeMonitor.Number

inductive TieRule where
  | toEven
  | away
  deriving DecidableEq, Repr

def roundDiv (tie : TieRule) (numerator denominator : Nat) : Nat :=
  let quotient := numerator / denominator
  let twice := 2 * (numerator % denominator)
  if twice < denominator then quotient
  else if denominator < twice then quotient + 1
  else match tie with
    | .away => quotient + 1
    | .toEven => if quotient % 2 = 0 then quotient else quotient + 1

theorem roundDiv_mul (tie : TieRule) (whole denominator : Nat) (positive : 0 < denominator) :
    roundDiv tie (whole * denominator) denominator = whole := by
  simp [roundDiv, Nat.mul_div_cancel _ positive, positive]

end ComputeMonitor.Number
