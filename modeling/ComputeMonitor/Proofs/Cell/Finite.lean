import ComputeMonitor.Cell.Text
import ComputeMonitor.Proofs.Number.Range

/-!
The numbers that cells are read as are finite.

A number that is not finite is no cell, and the seconds of a clock are finite. A duration adds days and the parts
of a clock to them, each of which is a number of 64 bits: their sum is small beside the largest finite number, and
to a finite number it adds up to a finite one.
-/

set_option autoImplicit false

namespace ComputeMonitor.Cell

open Number (Binary64 le_largest_of_readBinary64?)
open Number.Binary64 (Within largest ofNat_within ofNat_eq_whole sign_of_not_lt_zero zero_within)
open Text

theorem isFinite_readNumber? {raw : String} {number : Binary64} (read : readNumber? raw = some number) :
    number.isFinite = true := by
  simp only [readNumber?, Option.filter_eq_some_iff] at read
  exact read.2

theorem readUInt64?_lt {chars : List Char} {n : Nat} (read : readUInt64? chars = some n) : n < 2 ^ 64 := by
  unfold readUInt64? at read
  cases isRead : readUnsigned maxUInt64 chars with
  | error fault => rw [isRead] at read; cases read
  | ok value =>
    rw [isRead] at read
    cases read
    have inside := (readUnsigned_eq_ok_iff.1 isRead).2
    unfold maxUInt64 at inside
    omega

theorem within_mul_sixty {total : Binary64} {places : Nat} (within : total.Within places)
    (inRange : places + 6 < 2098) : (total * sixty).Within (places + 6) := by
  rw [sixty, ofNat_eq_whole (by decide)]
  exact within.mul_whole (by decide) inRange

theorem within_daySeconds {days : Nat} (bounded : days < 2 ^ 64) :
    (Binary64.ofNat days * secondsPerDay).Within 1155 := by
  have day : secondsPerDay = Binary64.whole 86400 := ofNat_eq_whole (by decide)
  have small : 86400 < 2 ^ 17 := by decide
  have daysWithin : (Binary64.ofNat days).Within 1138 := ofNat_within bounded (by decide)
  have product := daysWithin.mul_whole small (by decide)
  rwa [day]

theorem within_clockParts? {parts : List (List Char)} {total result : Binary64} {places : Nat}
    (within : total.Within places) (wide : 1138 ≤ places) (inRange : places + 8 * parts.length < 2098)
    (read : clockParts? parts total = some result) : result.Within (places + 8 * parts.length) := by
  -- Each part moves the bound by six places for the factor sixty, and by two for the sum.
  induction parts generalizing total places with
  | nil => exact Option.some.inj read ▸ within
  | cons part rest ih =>
    simp only [clockParts?, Option.bind_eq_bind, Option.bind_eq_some_iff] at read
    obtain ⟨value, valueRead, read⟩ := read
    rw [List.length_cons] at inRange ⊢
    have le : 64 + 1074 ≤ places + 6 := by omega
    have valueWithin := (ofNat_within (readUInt64?_lt valueRead) (by decide)).mono le
    have next := (within_mul_sixty within (by omega)).add valueWithin (by omega)
    have whole : places + 6 + 2 + 8 * rest.length = places + 8 * (rest.length + 1) := by omega
    exact whole ▸ ih next (by omega) (by omega) read

/-- The seconds of a clock are finite, and not negative but for the sign of a zero. -/
theorem clockSeconds?_spec {part : List Char} {seconds : Binary64} (read : clockSeconds? part = some seconds) :
    ∃ negative units, seconds = .finite negative units ∧ (negative = true → units = 0) ∧ units ≤ largest := by
  simp only [clockSeconds?, Option.bind_eq_bind, Option.bind_eq_some_iff] at read
  obtain ⟨number, numberRead, read⟩ := read
  split at read
  next => cases read
  next suitable =>
    simp only [Bool.or_eq_true, Bool.not_eq_true', not_or, Bool.not_eq_false, Bool.not_eq_true] at suitable
    cases read
    cases seconds with
    | nan | infinite => cases suitable.1
    | finite negative units =>
      exact ⟨negative, units, rfl, sign_of_not_lt_zero suitable.2, le_largest_of_readBinary64? numberRead⟩

theorem isFinite_daysAndClock? {days : Nat} (bounded : days < 2 ^ 64) {clock : List Char} {seconds : Binary64}
    (read : daysAndClock? days clock = some seconds) : seconds.isFinite = true := by
  have daysWithin := within_daySeconds bounded
  unfold daysAndClock? at read
  dsimp only at read
  split at read
  next =>
    cases read
    obtain ⟨units, isDays, -⟩ := daysWithin
    rw [isDays]
    rfl
  next =>
    split at read
    next => cases read
    next short =>
      simp only [Option.bind_eq_bind, Option.bind_eq_some_iff, Option.some.injEq] at read
      obtain ⟨total, totalRead, last, lastRead, rfl⟩ := read
      obtain ⟨negative, units, rfl, notNegative, bounded⟩ := clockSeconds?_spec lastRead
      -- Two parts before the seconds, so that what is added to these is small beside the largest number.
      have few : (splitAll ':' clock).dropLast.length ≤ 2 := by rw [List.length_dropLast]; omega
      have totalPlaces : 1138 + 8 * (splitAll ':' clock).dropLast.length ≤ 1154 := by omega
      have daysPlaces : 1155 ≤ 1154 + 6 := by decide
      have wholePlaces : 1154 + 6 + 2 ≤ 2000 := by decide
      have totalWithin :=
        (within_clockParts? (zero_within 1138) (Nat.le_refl _) (by omega) totalRead).mono totalPlaces
      have wholeWithin :=
        (daysWithin.mono daysPlaces).add (within_mul_sixty totalWithin (by decide)) (by decide)
      exact (wholeWithin.mono wholePlaces).add_isFinite bounded notNegative

theorem isFinite_readDuration? {raw : String} {seconds : Binary64} (read : readDuration? raw = some seconds) :
    seconds.isFinite = true := by
  unfold readDuration? duration? at read
  dsimp only at read
  split at read
  next => cases read
  next =>
    split at read
    next =>
      obtain ⟨days, daysRead, read⟩ := Option.bind_eq_some_iff.1 read
      exact isFinite_daysAndClock? (readUInt64?_lt daysRead) read
    next => exact isFinite_daysAndClock? (by decide) read

end ComputeMonitor.Cell
