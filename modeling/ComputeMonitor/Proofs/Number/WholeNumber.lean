import ComputeMonitor.Number.Decimal
import ComputeMonitor.Proofs.Number.Rounding
import ComputeMonitor.Proofs.Text.Numeral
import Mathlib.Data.List.TakeWhile

/-!
Whole numbers in double precision.

Up to two to the power 53 every whole number has a double of its own, and sums and products that stay below are
exact. Beyond, several whole numbers share a double, but none is above that of a larger one. A double that is
not negative has one whole number as its rounding, and digits are read as the double nearest to the number that
they denote.
-/

set_option autoImplicit false

namespace ComputeMonitor.Number

open ComputeMonitor.Text

namespace Binary64

/-- The double that a whole number is, for those that have one of their own. -/
def whole (n : Nat) : Binary64 := .finite false (n * one)

theorem one_shiftLeft (places : Nat) : 1 <<< places = 2 ^ places := Nat.one_shiftLeft places

theorem one_eq : one = 2 ^ 1074 := one_shiftLeft 1074

theorem overflow_eq : overflow = 2 ^ 2098 := one_shiftLeft 2098

theorem shiftLeft_eq_mul (n places : Nat) : n <<< places = n * 1 <<< places := by
  rw [Nat.shiftLeft_eq, Nat.shiftLeft_eq, Nat.one_mul]

theorem shiftLeft_eq_mul_one (n : Nat) : n <<< 1074 = n * one := shiftLeft_eq_mul n 1074

section Exact

variable {n : Nat} (small : n ≤ 2 ^ 53)

include small

theorem pow_excess_dvd_whole : 2 ^ excess (n * one) ∣ n * one := by
  rw [one_eq]
  rcases Nat.lt_or_eq_of_le small with less | rfl
  · have length : bitLength (n * 2 ^ 1074) ≤ 1127 :=
      bitLength_le_iff.2 (mul_two_pow_lt less 1074 1127 (Nat.le_refl _))
    have cut : excess (n * 2 ^ 1074) ≤ 1074 := by unfold excess; omega
    exact pow_excess_dvd_mul_pow cut
  · exact pow_excess_dvd_pow_mul_pow 53 1074

theorem whole_lt_overflow : n * one < overflow := by
  rw [one_eq, overflow_eq]
  have below : n < 2 ^ 54 := Nat.lt_of_le_of_lt small (by decide)
  exact mul_two_pow_lt below 1074 2098 (by decide)

theorem ofUnits_whole {denominator : Nat} (positive : 0 < denominator) :
    ofUnits false (n * one * denominator) denominator = whole n := by
  unfold ofUnits
  dsimp only
  rw [roundedUnits_of_dvd positive (pow_excess_dvd_whole small), if_pos (whole_lt_overflow small), whole]

theorem ofNat_eq_whole : ofNat n = whole n := by
  rw [ofNat, shiftLeft_eq_mul_one, ← ofUnits_whole small Nat.one_pos, Nat.mul_one]

end Exact

theorem zero_eq_whole : zero = whole 0 := by rw [whole, Nat.zero_mul]; rfl

theorem ofSignedUnits_natCast (units : Nat) :
    ofSignedUnits false (units : Int) = ofUnits false units 1 := by
  unfold ofSignedUnits
  split
  next isZero => rw [Int.ofNat_eq_zero.1 isZero, ofUnits_zero false Nat.one_pos]
  next => rw [decide_eq_false (Int.not_lt.2 (Int.natCast_nonneg units)), Int.natAbs_natCast]

theorem whole_add_whole {first second : Nat} (small : first + second ≤ 2 ^ 53) :
    whole first + whole second = whole (first + second) := by
  change ofSignedUnits false ((first * one : Nat) + (second * one : Nat) : Int) = _
  rw [← Int.natCast_add, ofSignedUnits_natCast, ← Nat.add_mul, ← ofUnits_whole small Nat.one_pos, Nat.mul_one]

theorem whole_mul_whole {first second : Nat} (small : first * second ≤ 2 ^ 53) :
    whole first * whole second = whole (first * second) := by
  change ofUnits false (first * one * (second * one)) one = _
  rw [← ofUnits_whole small one_pos, show first * one * (second * one) = first * second * one * one by ac_rfl]

theorem compare?_finite (first second : Nat) :
    (finite false first).compare? (finite false second) = some (compare first second) := by
  change some (compareOfLessAndEq (first : Int) second) = some (compareOfLessAndEq first second)
  simp only [compareOfLessAndEq, Int.ofNat_lt, Int.natCast_inj]

theorem compare?_whole (first second : Nat) :
    (whole first).compare? (whole second) = some (compare first second) := by
  rw [whole, whole, compare?_finite]
  change some (compareOfLessAndEq (first * one) (second * one)) = some (compareOfLessAndEq first second)
  simp only [compareOfLessAndEq, Nat.mul_lt_mul_right one_pos, Nat.mul_right_cancel_iff one_pos]

theorem ofNat_eq_finite {n : Nat} (bounded : n < 2 ^ 1023) :
    ofNat n = .finite false (roundedUnits (n * one) 1) := by
  have product : n * one < 2 ^ 2097 := by
    rw [one_eq]
    exact mul_two_pow_lt bounded 1074 2097 (by decide)
  have inside : roundedUnits (n * one) 1 < overflow :=
    Nat.lt_of_le_of_lt (roundedUnits_le_pow product) (by decide +kernel)
  rw [ofNat, shiftLeft_eq_mul_one, ofUnits]
  exact if_pos inside

theorem compare?_ofNat_of_lt {smaller larger : Nat} (less : smaller < larger) (bounded : larger < 2 ^ 1023) :
    (ofNat smaller).compare? (ofNat larger) = some (if ofNat smaller = ofNat larger then .eq else .lt) := by
  have ordered := roundedUnits_mono (Nat.mul_le_mul_right one (Nat.le_of_lt less))
  rw [ofNat_eq_finite (Nat.lt_trans less bounded), ofNat_eq_finite bounded, compare?_finite]
  simp only [finite.injEq, true_and]
  split
  next same => rw [same, Nat.compare_eq_eq.2 rfl]
  next different => rw [Nat.compare_eq_lt.2 (Nat.lt_of_le_of_ne ordered different)]

theorem compare?_ofNat {left right : Nat} (leftBound : left < 2 ^ 1023)
    (rightBound : right < 2 ^ 1023) : (ofNat left).compare? (ofNat right) =
      some (if ofNat left = ofNat right then .eq else compare left right) := by
  rcases Nat.lt_trichotomy left right with less | rfl | greater
  · rw [compare?_ofNat_of_lt less rightBound, Nat.compare_eq_lt.2 less]
  · rw [if_pos rfl, ofNat_eq_finite leftBound, compare?_finite, Nat.compare_eq_eq.2 rfl]
  · rw [compare?_swap (ofNat right), compare?_ofNat_of_lt greater leftBound, Nat.compare_eq_gt.2 greater]
    simp only [eq_comm (a := ofNat left)]
    split <;> rfl

theorem whole_injective {first second : Nat} (same : whole first = whole second) : first = second := by
  simpa only [whole, finite.injEq, true_and, Nat.mul_right_cancel_iff one_pos] using same

theorem ofNat_injective_of_small {first second : Nat} (firstSmall : first ≤ 2 ^ 53) (secondSmall : second ≤ 2 ^ 53)
    (same : ofNat first = ofNat second) : first = second := by
  rw [ofNat_eq_whole firstSmall, ofNat_eq_whole secondSmall] at same
  exact whole_injective same

/-- A number that is not negative has a whole number as its rounding when it is at least that number less one
half, and less than that number and one half. -/
def RoundsTo (number : Binary64) (n : Nat) : Prop :=
  ∃ negative units, number = .finite negative units ∧ (negative = true → units = 0) ∧
    2 * n * one ≤ 2 * units + one ∧ 2 * units + one < 2 * (n + 1) * one

theorem roundsTo_iff {negative : Bool} {units : Nat} (notNegative : negative = true → units = 0) (n : Nat) :
    (finite negative units).RoundsTo n ↔ n = roundDiv .away units one := by
  have quotient : roundDiv .away units one = n ↔
      2 * n * one ≤ 2 * units + one ∧ 2 * units + one < 2 * (n + 1) * one := by
    have positive : 0 < 2 * one := Nat.mul_pos (by decide) one_pos
    rw [roundDiv_away units one_pos, Nat.div_eq_iff positive]
    generalize one = unit at positive
    have whole : n * (2 * unit) = 2 * n * unit := by ac_rfl
    have next : 2 * (n + 1) * unit = 2 * n * unit + 2 * unit := by rw [Nat.mul_add, Nat.add_mul]
    omega
  constructor
  · rintro ⟨_, _, same, -, bounds⟩
    cases same
    exact (quotient.2 bounds).symm
  · intro same
    exact ⟨negative, units, rfl, notNegative, quotient.1 same.symm⟩

theorem exists_roundsTo {number : Binary64} (isFinite : number.isFinite = true)
    (notNegative : number.lt .zero = false) : ∃ whole, ∀ n, number.RoundsTo n ↔ n = whole := by
  cases number with
  | nan | infinite => cases isFinite
  | finite negative units =>
    exact ⟨roundDiv .away units one, roundsTo_iff (sign_of_not_lt_zero notNegative)⟩

theorem RoundsTo.toNatSaturating_round {number : Binary64} {n limit : Nat} (rounds : number.RoundsTo n)
    (inside : n ≤ limit) : number.round.toNatSaturating limit = n := by
  obtain ⟨negative, units, rfl, notNegative, bounds⟩ := rounds
  have rounded := (roundsTo_iff notNegative n).1 ⟨negative, units, rfl, notNegative, bounds⟩
  cases negative with
  | true =>
    obtain rfl := notNegative rfl
    rw [roundDiv_zero _ one_pos] at rounded
    exact rounded.symm
  | false =>
    rw [round, ← rounded, toNatSaturating, if_neg (by decide), Nat.shiftLeft_shiftRight]
    exact Nat.min_eq_left inside

theorem not_lt_zero {negative : Bool} {units : Nat} (notNegative : negative = true → units = 0) :
    (finite negative units).lt zero = false := by
  cases negative with
  | true =>
    obtain rfl := notNegative rfl
    rfl
  | false =>
    rw [lt, zero, compare?_finite]
    cases units <;> rfl

theorem isFinite_whole (n : Nat) : (whole n).isFinite = true := rfl

theorem not_lt_zero_whole (n : Nat) : (whole n).lt .zero = false := not_lt_zero nofun

theorem RoundsTo.isFinite {number : Binary64} {n : Nat} (rounds : number.RoundsTo n) :
    number.isFinite = true := by
  obtain ⟨negative, units, rfl, -⟩ := rounds
  rfl

theorem RoundsTo.not_lt_zero {number : Binary64} {n : Nat} (rounds : number.RoundsTo n) :
    number.lt .zero = false := by
  obtain ⟨negative, units, rfl, notNegative, -⟩ := rounds
  exact Binary64.not_lt_zero notNegative

end Binary64

section Reading

variable {digits : List Char} (nonempty : digits ≠ []) (areDigits : ∀ c ∈ digits, isDigit c = true)

include nonempty areDigits

theorem decimal?_of_digits : decimal? digits = some ⟨digitsValue digits 0, 0⟩ := by
  have leading : leadingDigits digits = (digits, []) := by
    rw [leadingDigits, List.takeWhile_eq_self_iff.2 areDigits, List.dropWhile_eq_nil_iff.2 areDigits]
  have notEmpty : digits.isEmpty = false := by rwa [List.isEmpty_eq_false_iff]
  simp only [decimal?, leading, notEmpty, List.append_nil, Bool.false_and, Bool.false_eq_true, if_false]
  rfl

/-- Digits are read as the double nearest to their number. The bound lies beyond every finite double. -/
theorem readBinary64?_of_digits (bounded : digitsValue digits 0 < 10 ^ 400) :
    readBinary64? digits = some (.ofNat (digitsValue digits 0)) := by
  have decimal := decimal?_of_digits nonempty areDigits
  have unsigned : readBinary64? digits = magnitude? false digits := by
    unfold readBinary64?
    split
    next minus => exact absurd (areDigits '-' List.mem_cons_self) (by decide)
    next plus => exact absurd (areDigits '+' List.mem_cons_self) (by decide)
    next => rfl
  rw [unsigned, magnitude?, decimal]
  dsimp only
  congr 1
  generalize digitsValue digits 0 = n at bounded ⊢
  -- So few digits are not beyond the exponents that are settled without forming a power.
  have short : (digitsOf n).length ≤ 400 := length_digitsOf_le (by decide) bounded
  unfold Decimal.nearest
  dsimp only
  split
  next isZero =>
    rw [isZero, Binary64.ofNat, Nat.zero_shiftLeft, Binary64.ofUnits_zero false Nat.one_pos]
  next =>
    rw [if_neg (by omega), if_neg (by omega), if_neg (by decide), Binary64.ofRatio, Binary64.ofNat]
    congr 2
    exact Nat.mul_one n

end Reading
end ComputeMonitor.Number
