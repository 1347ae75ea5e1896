import ComputeMonitor.Number.Binary64

/-!
The zeros of double precision: there are two of them, of the same value, and rounding keeps each.
-/

set_option autoImplicit false

namespace ComputeMonitor.Number.Binary64

theorem sign_of_not_lt_zero {negative : Bool} {units : Nat}
    (notLess : (finite negative units).lt zero = false) (minus : negative = true) : units = 0 := by
  subst minus
  have notBelow : ¬ compare (-(units : Int)) 0 = .lt := by
    simpa [lt, compare?, zero, signedUnits] using notLess
  rw [show compare (-(units : Int)) 0 = compareOfLessAndEq (-(units : Int)) 0 from rfl,
    compareOfLessAndEq_eq_lt] at notBelow
  omega

section Zeros

theorem one_pos : 0 < one := by decide +kernel

theorem roundDiv_zero (tie : TieRule) {denominator : Nat} (positive : 0 < denominator) :
    roundDiv tie 0 denominator = 0 := by
  simp [roundDiv, positive]

theorem ofUnits_zero (negative : Bool) {denominator : Nat} (positive : 0 < denominator) :
    ofUnits negative 0 denominator = finite negative 0 := by
  have noPlaces : excess (0 / denominator) = 0 := by rw [Nat.zero_div]; rfl
  have rounded : roundedUnits 0 denominator = 0 := by
    unfold roundedUnits
    dsimp only
    rw [noPlaces, Nat.shiftLeft_zero, Nat.shiftLeft_zero, roundDiv_zero _ positive]
  unfold ofUnits
  rw [rounded]
  exact if_pos (by decide +kernel)

theorem round_zero (negative : Bool) : (finite negative 0).round = finite negative 0 := by
  rw [round, roundDiv_zero _ one_pos, Nat.zero_shiftLeft]

/-- Numbers of the same value are equal, or both of them are zeros. -/
theorem eq_or_zeros_of_same {left right : Binary64} (same : left.same right = true) :
    left = right ∨ ∃ first second, left = finite first 0 ∧ right = finite second 0 := by
  cases left with
  | nan => cases same
  | infinite leftNegative =>
    cases right with
    | nan => cases same
    | infinite rightNegative => cases leftNegative <;> cases rightNegative <;> first | exact .inl rfl | cases same
    | finite rightNegative others => cases leftNegative <;> cases same
  | finite leftNegative units =>
    cases right with
    | nan => cases same
    | infinite rightNegative => cases rightNegative <;> cases same
    | finite rightNegative others =>
      have values : signedUnits leftNegative units = signedUnits rightNegative others := by
        simpa [Binary64.same, compare?] using same
      unfold signedUnits at values
      -- Signed counts of units tell the sign apart, unless the count is zero.
      by_cases sameSign : leftNegative = rightNegative
      · have sameUnits : units = others := by
          rw [sameSign] at values
          split at values <;> omega
        exact .inl (by rw [sameSign, sameUnits])
      · have zeros : units = 0 ∧ others = 0 := by
          split at values <;> split at values <;> first | omega | simp_all
        exact .inr ⟨leftNegative, rightNegative, by rw [zeros.1], by rw [zeros.2]⟩

end Zeros

end ComputeMonitor.Number.Binary64
