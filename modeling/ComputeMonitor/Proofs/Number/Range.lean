import ComputeMonitor.Proofs.Number.WholeNumber

/-!
Sums and products that stay in the range of double precision.

Rounding does not lead across a power of two, so that sums and products of small numbers are finite. Next to the
largest finite number the doubles lie so far apart that a small number added to one of them is lost in rounding:
a finite number and a small one always have a finite sum.
-/

set_option autoImplicit false

namespace ComputeMonitor.Number

open ComputeMonitor.Text

namespace Binary64

/-- A finite number without a minus sign of at most two to a power many units. -/
def Within (places : Nat) (number : Binary64) : Prop :=
  ∃ units, number = .finite false units ∧ units ≤ 2 ^ places

/-- The units between the largest finite numbers. -/
def spacing : Nat := 1 <<< 2045

def largest : Nat := (2 ^ 53 - 1) * spacing

theorem pow_lt_overflow {places : Nat} (inRange : places < 2098) : 2 ^ places < overflow := by
  have below := mul_two_pow_lt (Nat.one_lt_two_pow Nat.one_ne_zero) places 2098 (by omega)
  rwa [Nat.one_mul, ← overflow_eq] at below

theorem one_shiftLeft_dvd_pow {fewer places : Nat} (le : fewer ≤ places) : 1 <<< fewer ∣ 2 ^ places := by
  rw [one_shiftLeft]
  exact Nat.pow_dvd_pow 2 le

theorem le_largest_of_dvd {units : Nat} (multiple : spacing ∣ units) (inRange : units < overflow) :
    units ≤ largest := by
  have whole : overflow = spacing * 2 ^ 53 := by decide +kernel
  obtain ⟨count, rfl⟩ := multiple
  rw [whole] at inRange
  rw [largest, Nat.mul_comm]
  generalize spacing = step at inRange ⊢
  have fewer : count < 2 ^ 53 := Nat.lt_of_mul_lt_mul_left inRange
  exact Nat.mul_le_mul_right _ (by omega)

section Rounding

variable {numerator denominator : Nat}

theorem ofUnits_within {places : Nat} (below : numerator / denominator < 2 ^ places) (inRange : places < 2098) :
    (ofUnits false numerator denominator).Within places := by
  have rounded := roundedUnits_le_of_quotient below
  have finite : roundedUnits numerator denominator < overflow :=
    Nat.lt_of_le_of_lt rounded (pow_lt_overflow inRange)
  exact ⟨_, if_pos finite, rounded⟩

/-- The counts of units of large numbers are multiples of the distance between them. -/
theorem le_largest_of_ofUnits {negative sign : Bool} {units : Nat}
    (finite : ofUnits negative numerator denominator = .finite sign units) : units ≤ largest := by
  unfold ofUnits at finite
  dsimp only at finite
  split at finite
  case isFalse => cases finite
  case isTrue inRange =>
    cases finite
    by_cases below : numerator / denominator < 2 ^ 2097
    · exact Nat.le_trans (roundedUnits_le_of_quotient below) (by decide +kernel)
    · have cut : 2045 ≤ excess (numerator / denominator) := by
        have := lt_bitLength_iff.2 (Nat.not_lt.1 below)
        unfold excess
        omega
      refine le_largest_of_dvd ?_ inRange
      unfold roundedUnits
      dsimp only
      generalize excess (numerator / denominator) = places at cut ⊢
      rw [Nat.shiftLeft_eq _ places]
      exact Nat.dvd_mul_left_of_dvd (one_shiftLeft_dvd_pow cut) _

end Rounding

section Arithmetic

variable {left right : Binary64} {places : Nat}

theorem Within.mono (within : left.Within places) {more : Nat} (le : places ≤ more) : left.Within more := by
  obtain ⟨units, rfl, small⟩ := within
  exact ⟨units, rfl, Nat.le_trans small (Nat.pow_le_pow_right (by decide) le)⟩

theorem zero_within (places : Nat) : zero.Within places := ⟨0, rfl, Nat.zero_le _⟩

theorem ofNat_within {n : Nat} (below : n < 2 ^ places) (inRange : places + 1074 < 2098) :
    (ofNat n).Within (places + 1074) := by
  refine ofUnits_within ?_ inRange
  rw [Nat.div_one, shiftLeft_eq_mul_one, one_eq]
  exact mul_two_pow_lt below 1074 _ (Nat.le_refl _)

theorem Within.mul_whole (within : left.Within places) {factor more : Nat} (below : factor < 2 ^ more)
    (inRange : places + more < 2098) : (left * whole factor).Within (places + more) := by
  obtain ⟨units, rfl, small⟩ := within
  refine ofUnits_within ?_ inRange
  rw [← Nat.mul_assoc, Nat.mul_div_cancel _ one_pos, Nat.pow_add]
  calc units * factor ≤ 2 ^ places * factor := Nat.mul_le_mul_right _ small
    _ < 2 ^ places * 2 ^ more := Nat.mul_lt_mul_of_pos_left below (Nat.two_pow_pos places)

theorem finite_add_finite (first second : Nat) :
    finite false first + finite false second = ofUnits false (first + second) 1 := by
  change ofSignedUnits false ((first : Int) + second) = _
  rw [← Int.natCast_add, ofSignedUnits_natCast]

theorem Within.add (leftWithin : left.Within places) (rightWithin : right.Within places)
    (inRange : places + 2 < 2098) : (left + right).Within (places + 2) := by
  obtain ⟨first, rfl, firstSmall⟩ := leftWithin
  obtain ⟨second, rfl, secondSmall⟩ := rightWithin
  rw [finite_add_finite]
  refine ofUnits_within ?_ inRange
  have positive := Nat.two_pow_pos places
  rw [Nat.div_one, Nat.pow_add]
  omega

theorem Within.add_isFinite (small : left.Within 2000) {negative : Bool} {units : Nat}
    (bounded : units ≤ largest) (notNegative : negative = true → units = 0) :
    (left + finite negative units).isFinite = true := by
  obtain ⟨others, rfl, othersSmall⟩ := small
  have finiteSum : (ofUnits false (others + units) 1).isFinite = true := by
    have rounded : roundedUnits (others + units) 1 ≤ roundedUnits (2 ^ 2000 + largest) 1 :=
      roundedUnits_mono (Nat.add_le_add othersSmall bounded)
    -- The largest number takes up what is added to it.
    have inRange : roundedUnits (2 ^ 2000 + largest) 1 < overflow := by decide +kernel
    rw [ofUnits, if_pos (Nat.lt_of_le_of_lt rounded inRange)]
    rfl
  cases negative with
  | false => rwa [finite_add_finite]
  | true =>
    obtain rfl := notNegative rfl
    change (ofSignedUnits false ((others : Int) + -(0 : Nat))).isFinite = true
    rwa [Int.natCast_zero, Int.neg_zero, Int.add_zero, ofSignedUnits_natCast]

end Arithmetic
end Binary64

theorem Decimal.le_largest_of_nearest {decimal : Decimal} {negative sign : Bool} {units : Nat}
    (finite : decimal.nearest negative = .finite sign units) : units ≤ Binary64.largest := by
  have zero {sign units} (isZero : Binary64.finite negative 0 = .finite sign units) :
      units ≤ Binary64.largest := by
    cases isZero
    exact Nat.zero_le _
  unfold Decimal.nearest at finite
  dsimp only at finite
  split at finite
  · exact zero finite
  split at finite
  · cases finite
  split at finite
  · exact zero finite
  split at finite
  · exact Binary64.le_largest_of_ofUnits finite
  · exact Binary64.le_largest_of_ofUnits finite

theorem le_largest_of_readBinary64? {chars : List Char} {sign : Bool} {units : Nat}
    (read : readBinary64? chars = some (.finite sign units)) : units ≤ Binary64.largest := by
  have unsigned (negative : Bool) (rest : List Char)
      (read : magnitude? negative rest = some (.finite sign units)) : units ≤ Binary64.largest := by
    unfold magnitude? at read
    split at read
    next => exact Decimal.le_largest_of_nearest (Option.some.inj read)
    next =>
      dsimp only at read
      split at read
      · cases read
      split at read
      · cases read
      · cases read
  unfold readBinary64? at read
  split at read
  · exact unsigned _ _ read
  · exact unsigned _ _ read
  · exact unsigned _ _ read

end ComputeMonitor.Number
