import ComputeMonitor.Cell.Order
import ComputeMonitor.Proofs.Number.WholeNumber

/-!
Durations in table cells are written as clocks and read back as the whole seconds that they show.

The form of a clock is stated by itself: hours without leading zeros, minutes and seconds in two digits each and
below sixty. Rounded seconds are written so, and every clock is read by sums and products that stay below two to
the power 53 when its seconds do, and are exact for that reason. Durations are therefore ordered by their
rounded seconds, as far as these stay below that bound.
-/

set_option autoImplicit false

namespace ComputeMonitor

open Number (Binary64 readBinary64? readBinary64?_of_digits)
open Number.Binary64 (whole ofNat_eq_whole zero_eq_whole whole_add_whole whole_mul_whole compare?_whole
  isFinite_whole not_lt_zero_whole)
open Text

namespace Cell

structure IsSexagesimal (digits : List Char) : Prop where
  length : digits.length = 2
  areDigits : ∀ c ∈ digits, isDigit c = true
  small : digitsValue digits 0 < 60

/-- A clock that shows a count of seconds: hours, minutes and seconds, parted by colons. -/
def IsClock (chars : List Char) (total : Nat) : Prop :=
  ∃ hours minutes seconds, chars = digitsOf hours ++ ':' :: (minutes ++ ':' :: seconds) ∧
    IsSexagesimal minutes ∧ IsSexagesimal seconds ∧
    hours * 3600 + digitsValue minutes 0 * 60 + digitsValue seconds 0 = total

theorem isSexagesimal_paddedDigits {n : Nat} (small : n < 60) : IsSexagesimal (paddedDigits 2 n) where
  length := length_paddedDigits (by decide) (Nat.lt_trans small (by decide))
  areDigits _ := isDigit_of_mem_paddedDigits
  small := by rwa [digitsValue_paddedDigits]

theorem isClock_clockText (total : Nat) : IsClock (clockText total).toList total := by
  refine ⟨total / 3600, paddedDigits 2 (total % 3600 / 60), paddedDigits 2 (total % 60), ?_,
    isSexagesimal_paddedDigits (by omega), isSexagesimal_paddedDigits (by omega), ?_⟩
  · simp only [clockText, String.toList_ofList, List.append_assoc, List.cons_append, List.nil_append]
  · rw [digitsValue_paddedDigits, digitsValue_paddedDigits]
    omega

theorem IsSexagesimal.ne_nil {digits : List Char} (part : IsSexagesimal digits) : digits ≠ [] := by
  rintro rfl
  exact absurd part.length (by decide)

theorem clockSeconds?_eq_some {part trimmed : List Char} {seconds : Binary64}
    (isTrimmed : trimChars part = trimmed) (read : readBinary64? trimmed = some seconds)
    (isFinite : seconds.isFinite = true) (notNegative : seconds.lt .zero = false) :
    clockSeconds? part = some seconds := by
  rw [clockSeconds?, isTrimmed, read]
  simp only [Option.bind_eq_bind, Option.bind_some, isFinite, notNegative]
  exact if_neg (by decide)

section Reading

variable {digits : List Char} (nonempty : digits ≠ []) (areDigits : ∀ c ∈ digits, isDigit c = true)

include nonempty areDigits

theorem clockParts?_cons {total : Nat} (small : total * 60 + digitsValue digits 0 ≤ 2 ^ 53)
    (rest : List (List Char)) :
    clockParts? (digits :: rest) (whole total) = clockParts? rest (whole (total * 60 + digitsValue digits 0)) := by
  have inside : digitsValue digits 0 ≤ maxUInt64 := by unfold maxUInt64; omega
  rw [clockParts?, trimChars_of_digits areDigits, readUInt64?_of_digits nonempty areDigits inside, sixty,
    ofNat_eq_whole (by decide), whole_mul_whole (by omega)]
  change clockParts? rest (_ + Binary64.ofNat (digitsValue digits 0)) = _
  rw [ofNat_eq_whole (by omega), whole_add_whole small]

theorem clockSeconds?_of_digits (small : digitsValue digits 0 ≤ 2 ^ 53) :
    clockSeconds? digits = some (whole (digitsValue digits 0)) := by
  have bounded : digitsValue digits 0 < 10 ^ 400 := Nat.lt_of_le_of_lt small (by decide +kernel)
  have read := readBinary64?_of_digits nonempty areDigits bounded
  rw [ofNat_eq_whole small] at read
  generalize digitsValue digits 0 = n at read ⊢
  exact clockSeconds?_eq_some (trimChars_of_digits areDigits) read (isFinite_whole n) (not_lt_zero_whole n)

end Reading

section Clock

variable (hours : Nat) {minutes seconds : List Char} (minutesPart : IsSexagesimal minutes)

include minutesPart

theorem splitAll_clock (secondsPart : IsSexagesimal seconds) :
    splitAll ':' (digitsOf hours ++ ':' :: (minutes ++ ':' :: seconds)) = [digitsOf hours, minutes, seconds] := by
  have absent {part : List Char} (areDigits : ∀ c ∈ part, isDigit c = true) : ':' ∉ part :=
    not_mem_of_digits areDigits (by decide)
  rw [splitAll_append_mark (absent fun c => isDigit_of_mem_digitsOf),
    splitAll_append_mark (absent minutesPart.areDigits), splitAll_of_absent (absent secondsPart.areDigits)]

theorem clockParts?_clock (small : hours * 60 + digitsValue minutes 0 ≤ 2 ^ 53) :
    clockParts? [digitsOf hours, minutes] .zero = some (whole (hours * 60 + digitsValue minutes 0)) := by
  have isHours : 0 * 60 + digitsValue (digitsOf hours) 0 = hours := by
    rw [digitsValue_digitsOf, Nat.zero_mul, Nat.zero_add]
  rw [zero_eq_whole, clockParts?_cons (digitsOf_ne_nil hours) (fun c => isDigit_of_mem_digitsOf) (by omega),
    isHours, clockParts?_cons minutesPart.ne_nil minutesPart.areDigits small]
  rfl

end Clock

/-- A clock is read as its seconds, for the sums and products on the way are exact below the bound. -/
theorem IsClock.daysAndClock? {chars : List Char} {total : Nat} (clock : IsClock chars total)
    (small : total ≤ 2 ^ 53) : daysAndClock? 0 chars = some (whole total) := by
  obtain ⟨hours, minutes, seconds, rfl, minutesPart, secondsPart, rfl⟩ := clock
  have days : Binary64.ofNat 0 * secondsPerDay = whole 0 := by
    rw [secondsPerDay, ofNat_eq_whole (by decide), ofNat_eq_whole (by decide), whole_mul_whole (by decide)]
  have leading := clockParts?_clock hours minutesPart (by omega)
  have last := clockSeconds?_of_digits secondsPart.ne_nil secondsPart.areDigits (by omega)
  unfold Cell.daysAndClock?
  dsimp only
  rw [days, splitAll_clock hours minutesPart secondsPart, if_neg (by simp)]
  change (clockParts? [digitsOf hours, minutes] .zero).bind (fun total =>
    (clockSeconds? seconds).bind fun seconds => some (whole 0 + total * sixty + seconds)) = _
  have sum : 0 + (hours * 60 + digitsValue minutes 0) * 60 + digitsValue seconds 0 =
      hours * 3600 + digitsValue minutes 0 * 60 + digitsValue seconds 0 := by omega
  rw [leading, Option.bind_some, last, Option.bind_some, sixty, ofNat_eq_whole (by decide),
    whole_mul_whole (by omega), whole_add_whole (by omega), whole_add_whole (by omega), sum]

theorem IsClock.colon_or_isDigit {chars : List Char} {total : Nat} (clock : IsClock chars total) :
    ∀ c ∈ chars, c = ':' ∨ isDigit c = true := by
  obtain ⟨hours, minutes, seconds, rfl, minutesPart, secondsPart, -⟩ := clock
  intro c member
  simp only [List.mem_append, List.mem_cons] at member
  rcases member with inHours | isMark | inMinutes | isMark | inSeconds
  · exact .inr (isDigit_of_mem_digitsOf inHours)
  · exact .inl isMark
  · exact .inr (minutesPart.areDigits c inMinutes)
  · exact .inl isMark
  · exact .inr (secondsPart.areDigits c inSeconds)

theorem readDuration?_of_isClock {text : String} {total : Nat} (clock : IsClock text.toList total)
    (small : total ≤ 2 ^ 53) : readDuration? text = some (whole total) := by
  have marks := clock.colon_or_isDigit
  have trimmed : trimChars text.toList = text.toList := trimChars_of_no_blank fun c member => by
    rcases marks c member with rfl | digit
    · decide
    · exact isBlank_of_isDigit digit
  have noDays : 'd' ∉ text.toList := fun member => by
    rcases marks 'd' member with isMark | digit
    · exact absurd isMark (by decide)
    · exact absurd digit (by decide)
  have nonempty : text.toList.isEmpty = false := by
    obtain ⟨hours, _, _, same, -⟩ := clock
    rw [same, List.isEmpty_eq_false_iff]
    exact List.append_ne_nil_of_left_ne_nil (digitsOf_ne_nil hours) _
  rw [readDuration?, trimmed, nonempty, if_neg (by decide), duration?, splitFirst?_eq_none noDays]
  exact clock.daysAndClock? small

theorem durationText_of_roundsTo {seconds : Binary64} {n : Nat} (rounds : seconds.RoundsTo n)
    (small : n ≤ maxUInt64) : durationText seconds = clockText n := by
  rw [durationText, rounds.isFinite, rounds.not_lt_zero, rounds.toNatSaturating_round small]
  exact if_neg (by decide)

theorem readDuration?_durationText {seconds : Binary64} {n : Nat} (rounds : seconds.RoundsTo n)
    (small : n ≤ 2 ^ 53) : IsClock (durationText seconds).toList n ∧
      readDuration? (durationText seconds) = some (whole n) := by
  rw [durationText_of_roundsTo rounds (Nat.le_trans small (by decide))]
  exact ⟨isClock_clockText n, readDuration?_of_isClock (isClock_clockText n) small⟩

theorem readDuration?_durationText_eq_none {seconds : Binary64}
    (unsuitable : seconds.isFinite = false ∨ seconds.lt .zero = true) :
    readDuration? (durationText seconds) = none := by
  have notShown : durationText seconds = notAvailable := if_pos (by
    rcases unsuitable with notFinite | negative
    · rw [notFinite]
      rfl
    · rw [negative, Bool.or_true])
  rw [notShown]
  decide +kernel

/-- Durations that are not negative and round to at most two to the power 53 seconds are written as clocks of
these seconds, read back as just these, and ordered by them; other numbers are written as a text that is
not read. -/
theorem order_durationText {first second : Binary64} (firstFinite : first.isFinite = true)
    (firstNotNegative : first.lt .zero = false) (secondFinite : second.isFinite = true)
    (secondNotNegative : second.lt .zero = false) :
    ∃ firstWhole secondWhole, (∀ n, first.RoundsTo n ↔ n = firstWhole) ∧
      (∀ n, second.RoundsTo n ↔ n = secondWhole) ∧
      (firstWhole ≤ 2 ^ 53 → IsClock (durationText first).toList firstWhole ∧
        readDuration? (durationText first) = some (whole firstWhole)) ∧
      (firstWhole ≤ 2 ^ 53 → secondWhole ≤ 2 ^ 53 →
        order .duration (durationText first) (durationText second) .ascending = compare firstWhole secondWhole) ∧
      ∀ other : Binary64, other.isFinite = false ∨ other.lt .zero = true →
        readDuration? (durationText other) = none := by
  obtain ⟨firstWhole, firstRounds⟩ := Binary64.exists_roundsTo firstFinite firstNotNegative
  obtain ⟨secondWhole, secondRounds⟩ := Binary64.exists_roundsTo secondFinite secondNotNegative
  have firstCell := readDuration?_durationText ((firstRounds firstWhole).2 rfl)
  have secondCell := readDuration?_durationText ((secondRounds secondWhole).2 rfl)
  refine ⟨firstWhole, secondWhole, firstRounds, secondRounds, firstCell, fun firstSmall secondSmall => ?_,
    fun other => readDuration?_durationText_eq_none⟩
  rw [order, Key.read, Key.read, (firstCell firstSmall).2, (secondCell secondSmall).2, Key.order,
    compare?_whole firstWhole secondWhole]
  rfl

/-- An hour, two minutes and five and two fifths of a second come after half a second, which is rounded up; less
than nothing is no duration. -/
theorem order_half_second : (Binary64.ofRatio false 37254 10).isFinite = true ∧
    (Binary64.ofRatio false 37254 10).lt .zero = false ∧ (Binary64.ofRatio false 1 2).isFinite = true ∧
    (Binary64.ofRatio false 1 2).lt .zero = false ∧
    IsClock (durationText (.ofRatio false 37254 10)).toList 3725 ∧
    readDuration? (durationText (.ofRatio false 37254 10)) = some (whole 3725) ∧
    order .duration (durationText (.ofRatio false 37254 10)) (durationText (.ofRatio false 1 2)) .ascending = .gt ∧
    readDuration? (durationText (.ofRatio true 1 2)) = none := by
  have firstFinite : (Binary64.ofRatio false 37254 10).isFinite = true := by decide +kernel
  have firstNotNegative : (Binary64.ofRatio false 37254 10).lt .zero = false := by decide +kernel
  have secondFinite : (Binary64.ofRatio false 1 2).isFinite = true := by decide +kernel
  have secondNotNegative : (Binary64.ofRatio false 1 2).lt .zero = false := by decide +kernel
  have firstRounded : (Binary64.ofRatio false 37254 10).RoundsTo 3725 :=
    ⟨false, Binary64.roundedUnits (37254 <<< 1074) 10, by decide +kernel, nofun, by decide +kernel,
      by decide +kernel⟩
  have secondRounded : (Binary64.ofRatio false 1 2).RoundsTo 1 :=
    ⟨false, Binary64.roundedUnits (1 <<< 1074) 2, by decide +kernel, nofun, by decide +kernel, by decide +kernel⟩
  obtain ⟨firstWhole, secondWhole, firstRounds, secondRounds, firstCell, ordered, others⟩ :=
    order_durationText firstFinite firstNotNegative secondFinite secondNotNegative
  obtain rfl := (firstRounds 3725).1 firstRounded
  obtain rfl := (secondRounds 1).1 secondRounded
  have ⟨written, read⟩ := firstCell (by decide)
  exact ⟨firstFinite, firstNotNegative, secondFinite, secondNotNegative, written, read,
    ordered (by decide) (by decide), others _ (.inr (by decide +kernel))⟩

end Cell
end ComputeMonitor
