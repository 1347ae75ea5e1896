import ComputeMonitor.Proofs.Number.Binary64
import Mathlib.Algebra.Ring.Nat
import Mathlib.Tactic.SplitIfs

/-!
Laws of rounding.

A quotient is rounded to one of its two neighbours, so that rounding keeps the order of numerators. A count of
units is rounded to 53 binary digits: it stays if it has no more of them, stays on its side of every power
of two, and therefore never comes before a smaller one.
-/

set_option autoImplicit false

namespace ComputeMonitor.Number

theorem roundDiv_bounds (tie : TieRule) (numerator denominator : Nat) :
    numerator / denominator ≤ roundDiv tie numerator denominator ∧
      roundDiv tie numerator denominator ≤ numerator / denominator + 1 := by
  cases tie <;> simp only [roundDiv] <;> split_ifs <;> omega

theorem roundDiv_mono (tie : TieRule) {smaller larger : Nat} (le : smaller ≤ larger) (denominator : Nat) :
    roundDiv tie smaller denominator ≤ roundDiv tie larger denominator := by
  rcases Nat.lt_or_eq_of_le (Nat.div_le_div_right (c := denominator) le) with less | same
  · have := (roundDiv_bounds tie smaller denominator).2
    have := (roundDiv_bounds tie larger denominator).1
    omega
  · -- Between the same neighbours the larger numerator has the larger remainder.
    have remainders : smaller % denominator ≤ larger % denominator := by
      have := Nat.div_add_mod smaller denominator
      have := Nat.div_add_mod larger denominator
      rw [same] at *
      omega
    cases tie <;> simp only [roundDiv, same] <;> split_ifs <;> omega

/-- Halves going away from zero, the nearest whole number is the whole part after adding one half. -/
theorem roundDiv_away (numerator : Nat) {denominator : Nat} (positive : 0 < denominator) :
    roundDiv .away numerator denominator = (2 * numerator + denominator) / (2 * denominator) := by
  have rest := Nat.mod_lt numerator positive
  have shifted : (2 * numerator + denominator) / (2 * denominator) =
      (2 * (numerator % denominator) + denominator) / (2 * denominator) + numerator / denominator := by
    rw [← Nat.add_mul_div_left _ _ (by omega : 0 < 2 * denominator)]
    congr 1
    have := Nat.div_add_mod numerator denominator
    rw [Nat.mul_assoc]
    omega
  simp only [shifted, roundDiv, ite_self]
  split
  next below =>
    have none : (2 * (numerator % denominator) + denominator) / (2 * denominator) = 0 :=
      Nat.div_eq_of_lt (by omega)
    rw [none, Nat.zero_add]
  next half =>
    have one : (2 * (numerator % denominator) + denominator) / (2 * denominator) = 1 :=
      Nat.div_eq_of_lt_le (by omega) (by omega)
    rw [one, Nat.add_comm]

namespace Binary64

theorem bitLength_le_iff {n places : Nat} : bitLength n ≤ places ↔ n < 2 ^ places := by
  unfold bitLength
  split
  next isZero =>
    rw [isZero]
    exact ⟨fun _ => Nat.two_pow_pos places, fun _ => Nat.zero_le places⟩
  next notZero => exact Nat.succ_le_iff.trans (Nat.log2_lt notZero)

theorem lt_bitLength_iff {n places : Nat} : places < bitLength n ↔ 2 ^ places ≤ n := by
  rw [← Nat.not_le, bitLength_le_iff, Nat.not_lt]

theorem mul_two_pow_lt {n places : Nat} (below : n < 2 ^ places) (more total : Nat)
    (fits : places + more ≤ total) : n * 2 ^ more < 2 ^ total := by
  have shifted : n * 2 ^ more < 2 ^ (places + more) := by
    rw [Nat.pow_add]
    exact Nat.mul_lt_mul_of_pos_right below (Nat.two_pow_pos more)
  exact Nat.lt_of_lt_of_le shifted (Nat.pow_le_pow_right (by decide) fits)

theorem pow_excess_dvd_mul_pow {n more : Nat} (cut : excess (n * 2 ^ more) ≤ more) :
    2 ^ excess (n * 2 ^ more) ∣ n * 2 ^ more :=
  Nat.dvd_trans (Nat.pow_dvd_pow 2 cut) (Nat.dvd_mul_left _ _)

theorem pow_excess_dvd_pow_mul_pow (places more : Nat) :
    2 ^ excess (2 ^ places * 2 ^ more) ∣ 2 ^ places * 2 ^ more := by
  rw [← Nat.pow_add]
  have length : bitLength (2 ^ (places + more)) ≤ places + more + 1 :=
    bitLength_le_iff.2 (Nat.pow_lt_pow_right (by decide) (Nat.lt_succ_self _))
  exact Nat.pow_dvd_pow 2 (by unfold excess; omega)

theorem roundedUnits_of_dvd {units denominator : Nat} (positive : 0 < denominator)
    (fits : 2 ^ excess units ∣ units) : roundedUnits (units * denominator) denominator = units := by
  unfold roundedUnits
  dsimp only
  rw [Nat.mul_div_cancel _ positive]
  generalize excess units = places at fits ⊢
  obtain ⟨part, rfl⟩ := fits
  rw [Nat.shiftLeft_eq, Nat.shiftLeft_eq,
    show 2 ^ places * part * denominator = part * (denominator * 2 ^ places) by ac_rfl,
    roundDiv_mul _ _ _ (Nat.mul_pos positive (Nat.two_pow_pos places)), Nat.mul_comm]

theorem roundedUnits_one (units : Nat) : roundedUnits units 1 =
    roundDiv .toEven units (2 ^ excess units) * 2 ^ excess units := by
  unfold roundedUnits
  dsimp only
  rw [Nat.div_one, Nat.shiftLeft_eq, Nat.shiftLeft_eq, Nat.one_mul]

theorem pow_le_roundedUnits {units places : Nat} (above : 2 ^ places ≤ units) :
    2 ^ places ≤ roundedUnits units 1 := by
  rw [roundedUnits_one]
  have inside : places < bitLength units := lt_bitLength_iff.2 above
  -- The places that are cut off are fewer than the digits of the count.
  have kept : 2 ^ excess units ≤ units := lt_bitLength_iff.1 (by unfold excess; omega)
  have nearest := (roundDiv_bounds .toEven units (2 ^ excess units)).1
  generalize excess units = cut at kept nearest ⊢
  have whole : units / 2 ^ cut * 2 ^ cut ≤ roundDiv .toEven units (2 ^ cut) * 2 ^ cut :=
    Nat.mul_le_mul_right _ nearest
  by_cases further : cut ≤ places
  · have split : 2 ^ places = 2 ^ (places - cut) * 2 ^ cut := by
      rw [← Nat.pow_add, Nat.sub_add_cancel further]
    have quotient : 2 ^ (places - cut) ≤ units / 2 ^ cut :=
      (Nat.le_div_iff_mul_le (Nat.two_pow_pos cut)).2 (split ▸ above)
    rw [split]
    exact Nat.le_trans (Nat.mul_le_mul_right _ quotient) whole
  · have quotient : 1 ≤ units / 2 ^ cut :=
      (Nat.le_div_iff_mul_le (Nat.two_pow_pos cut)).2 (by rwa [Nat.one_mul])
    calc 2 ^ places ≤ 2 ^ cut := Nat.pow_le_pow_right (by decide) (by omega)
      _ = 1 * 2 ^ cut := (Nat.one_mul _).symm
      _ ≤ units / 2 ^ cut * 2 ^ cut := Nat.mul_le_mul_right _ quotient
      _ ≤ _ := whole

/-- A quotient below a power of two is not rounded across it. -/
theorem roundedUnits_le_of_quotient {numerator denominator places : Nat}
    (below : numerator / denominator < 2 ^ places) :
    roundedUnits numerator denominator ≤ 2 ^ places := by
  have inside : excess (numerator / denominator) ≤ places := by
    have := bitLength_le_iff.2 below
    unfold excess
    omega
  unfold roundedUnits
  dsimp only
  generalize excess (numerator / denominator) = cut at inside ⊢
  rw [Nat.shiftLeft_eq, Nat.shiftLeft_eq]
  have split : 2 ^ places = 2 ^ (places - cut) * 2 ^ cut := by
    rw [← Nat.pow_add, Nat.sub_add_cancel inside]
  have quotient : numerator / (denominator * 2 ^ cut) < 2 ^ (places - cut) := by
    rw [← Nat.div_div_eq_div_mul]
    exact (Nat.div_lt_iff_lt_mul (Nat.two_pow_pos cut)).2 (split ▸ below)
  have nearest := (roundDiv_bounds .toEven numerator (denominator * 2 ^ cut)).2
  rw [split]
  exact Nat.mul_le_mul_right _ (by omega)

theorem roundedUnits_le_pow {units places : Nat} (below : units < 2 ^ places) :
    roundedUnits units 1 ≤ 2 ^ places :=
  roundedUnits_le_of_quotient ((Nat.div_one units).symm ▸ below)

/-- Rounding keeps order: counts of one length are cut at the same place, and others are parted by a power
of two. -/
theorem roundedUnits_mono {smaller larger : Nat} (le : smaller ≤ larger) :
    roundedUnits smaller 1 ≤ roundedUnits larger 1 := by
  have shorter : bitLength smaller ≤ bitLength larger :=
    bitLength_le_iff.2 (Nat.lt_of_le_of_lt le (bitLength_le_iff.1 (Nat.le_refl _)))
  rcases Nat.lt_or_eq_of_le shorter with less | same
  · exact Nat.le_trans (roundedUnits_le_pow (bitLength_le_iff.1 (Nat.le_refl _)))
      (pow_le_roundedUnits (lt_bitLength_iff.1 less))
  · have sameCut : excess smaller = excess larger := congrArg (· - 53) same
    rw [roundedUnits_one, roundedUnits_one, sameCut]
    exact Nat.mul_le_mul_right _ (roundDiv_mono .toEven le _)

end Binary64
end ComputeMonitor.Number
