import ComputeMonitor.Proofs.Calendar.DayNumber
import ComputeMonitor.Proofs.Text.Numeral

/-!
Moments, the seconds that they are counted by, and their form in a cell.

Moments that exist and whole numbers of seconds, each with a fraction, correspond one to one, and the order of
moments without fractions is that of their seconds. The form in a cell is read back as the moment without its
fraction, for every year that a date can have.
-/

set_option autoImplicit false

namespace ComputeMonitor.Calendar

open Text

namespace Moment

instance : Std.TransCmp order := inferInstanceAs <| Std.TransCmp <|
  compareLex (compareOn (·.date.year)) <| compareLex (compareOn (·.date.month)) <|
  compareLex (compareOn (·.date.day)) <| compareLex (compareOn hour) <|
  compareLex (compareOn minute) <| compareLex (compareOn second) (compareOn nanosecond)

section Seconds

variable {moment other : Moment}

theorem isValid_iff : moment.isValid = true ↔ moment.date.isValid = true ∧ moment.hour ≤ 23 ∧
    moment.minute ≤ 59 ∧ moment.second ≤ 59 ∧ moment.nanosecond < 1000000000 := by
  simp only [isValid, Bool.and_eq_true, decide_eq_true_eq, and_assoc]

theorem ofSecondNumber_spec (seconds : Int) {nanosecond : Nat} (small : nanosecond < 1000000000) :
    (ofSecondNumber seconds nanosecond).isValid = true ∧
      (ofSecondNumber seconds nanosecond).secondNumber = seconds := by
  have ⟨dateValid, number⟩ := Date.ofDayNumber_spec (seconds / 86400)
  constructor
  · rw [isValid_iff]
    exact ⟨dateValid, by simp only [ofSecondNumber]; omega, by simp only [ofSecondNumber]; omega,
      by simp only [ofSecondNumber]; omega, small⟩
  · simp only [ofSecondNumber, secondNumber, number]
    omega

theorem secondNumber_lt_of_order (valid : moment.isValid = true) (otherValid : other.isValid = true)
    (sameFraction : moment.nanosecond = other.nanosecond) (before : moment.order other = .lt) :
    moment.secondNumber < other.secondNumber := by
  obtain ⟨dateValid, _, _, _, -⟩ := isValid_iff.1 valid
  obtain ⟨otherDateValid, _, _, _, -⟩ := isValid_iff.1 otherValid
  simp only [order, Ordering.then_eq_lt, compare_lt_iff_lt, compare_eq_iff_eq] at before
  unfold secondNumber
  by_cases dateBefore : moment.date.Before other.date
  · have := Date.dayNumber_lt dateValid otherDateValid dateBefore
    omega
  · have sameDate : moment.date = other.date :=
      Date.eq_of_not_before dateBefore (by unfold Date.Before at dateBefore ⊢; omega)
    rw [sameDate] at before ⊢
    omega

theorem eq_of_order (same : moment.order other = .eq) : moment = other := by
  rcases moment with ⟨⟨year, month, day⟩, hour, minute, second, nanosecond⟩
  rcases other with ⟨⟨otherYear, otherMonth, otherDay⟩, otherHour, otherMinute, otherSecond, otherNanosecond⟩
  simpa only [order, Ordering.then_eq_eq, compare_eq_iff_eq, mk.injEq, Date.mk.injEq, and_assoc] using same

/-- Moments with the same fraction are ordered by their seconds. -/
theorem order_eq_compare (valid : moment.isValid = true) (otherValid : other.isValid = true)
    (sameFraction : moment.nanosecond = other.nanosecond) :
    moment.order other = compare moment.secondNumber other.secondNumber := by
  cases answer : moment.order other with
  | lt => exact (compare_lt_iff_lt.2 (secondNumber_lt_of_order valid otherValid sameFraction answer)).symm
  | eq => rw [eq_of_order answer, compare_eq_iff_eq.2 rfl]
  | gt =>
    have turned : other.order moment = .lt := Std.OrientedCmp.gt_iff_lt.1 answer
    exact (compare_gt_iff_gt.2 (secondNumber_lt_of_order otherValid valid sameFraction.symm turned)).symm

theorem eq_of_secondNumber (valid : moment.isValid = true) (otherValid : other.isValid = true)
    (sameFraction : moment.nanosecond = other.nanosecond) (same : moment.secondNumber = other.secondNumber) :
    moment = other :=
  eq_of_order ((order_eq_compare valid otherValid sameFraction).trans (compare_eq_iff_eq.2 same))

end Seconds

section Reading

theorem takeDigits?_append {count : Nat} {digits : List Char} (length : digits.length = count)
    (areDigits : ∀ c ∈ digits, isDigit c = true) (rest : List Char) :
    takeDigits? count (digits ++ rest) = some (digitsValue digits 0, rest) := by
  unfold takeDigits?
  dsimp only
  rw [List.take_append_of_le_length (Nat.le_of_eq length.symm), List.take_of_length_le (Nat.le_of_eq length),
    List.drop_left' length, length, List.all_eq_true.2 areDigits]
  simp

theorem takeDigits?_paddedDigits {count n : Nat} (positive : 0 < count) (below : n < 10 ^ count)
    (rest : List Char) : takeDigits? count (paddedDigits count n ++ rest) = some (n, rest) := by
  rw [takeDigits?_append (length_paddedDigits positive below) (fun _ => isDigit_of_mem_paddedDigits),
    digitsValue_paddedDigits]

theorem takeTwoDigits {n : Nat} (below : n < 100) (rest : List Char) :
    takeDigits? 2 (paddedDigits 2 n ++ rest) = some (n, rest) :=
  takeDigits?_paddedDigits (by decide) below rest

theorem dropMark?_cons (mark : Char) (rest : List Char) : dropMark? mark (mark :: rest) = some rest := if_pos rfl

theorem takeYear?_paddedDigits (n : Nat) (rest : List Char) : takeYear? (paddedDigits 4 n ++ rest) =
    (takeDigits? 4 (paddedDigits 4 n ++ rest)).map fun (year, rest) => ((year : Int), rest) := by
  obtain ⟨first, others, isDigits⟩ := List.exists_cons_of_ne_nil (paddedDigits_ne_nil 4 n)
  have firstDigit : isDigit first = true :=
    isDigit_of_mem_paddedDigits (isDigits ▸ List.mem_cons_self : first ∈ paddedDigits 4 n)
  rw [isDigits, List.cons_append]
  unfold takeYear?
  split
  next minus =>
    cases minus
    exact absurd firstDigit (by decide)
  next plus =>
    cases plus
    exact absurd firstDigit (by decide)
  next => rfl

theorem takeYear?_yearDigits {year : Int} (inRange : Timestamp.yearInRange year = true) (rest : List Char) :
    takeYear? (yearDigits year ++ rest) = some (year, rest) := by
  simp only [Timestamp.yearInRange, Bool.and_eq_true, decide_eq_true_eq] at inRange
  have below : year.natAbs < 10 ^ 4 := by omega
  have taken := takeDigits?_paddedDigits (by decide) below rest
  unfold yearDigits
  split
  next negative =>
    change (takeDigits? 4 (paddedDigits 4 year.natAbs ++ rest)).map _ = _
    rw [taken, Option.map_some]
    dsimp only
    rw [show -((year.natAbs : Nat) : Int) = year by omega]
  next notNegative =>
    rw [List.nil_append, takeYear?_paddedDigits, taken, Option.map_some]
    dsimp only
    rw [show ((year.natAbs : Nat) : Int) = year by omega]

theorem takeMonthDay?_digits (year : Int) {month day : Nat} (monthBelow : month < 100) (dayBelow : day < 100)
    (rest : List Char) :
    takeMonthDay? year ('-' :: (paddedDigits 2 month ++ '-' :: (paddedDigits 2 day ++ rest))) =
      some (⟨year, month, day⟩, rest) := by
  simp only [takeMonthDay?, Option.bind_eq_bind, dropMark?_cons, Option.bind_some, takeTwoDigits monthBelow,
    takeTwoDigits dayBelow]
  rfl

theorem closingSeconds?_digits {second : Nat} (below : second < 100) :
    closingSeconds? (':' :: paddedDigits 2 second) = some second := by
  have taken := takeTwoDigits below []
  rw [List.append_nil] at taken
  change ((dropMark? ':' (':' :: paddedDigits 2 second)).bind fun chars => (takeDigits? 2 chars).bind
    fun (second, chars) => if chars.isEmpty then some second else none) = _
  rw [dropMark?_cons, Option.bind_some, taken, Option.bind_some]
  rfl

variable {moment : Moment}

/-- A cell is read as the moment that it shows. -/
theorem ofCell?_cellChars (valid : moment.isValid = true)
    (inRange : Timestamp.yearInRange moment.date.year = true) :
    ofCell? moment.cellChars = some { moment with nanosecond := 0 } := by
  obtain ⟨dateValid, hourBound, minuteBound, secondBound, -⟩ := isValid_iff.1 valid
  obtain ⟨⟨-, monthBound⟩, -, dayBound⟩ := Date.isValid_iff.1 dateValid
  have monthBelow : moment.date.month < 100 := by omega
  have dayBelow : moment.date.day < 100 := by
    have := Date.daysInMonth_le moment.date.year moment.date.month
    omega
  have hourBelow : moment.hour < 100 := by omega
  have minuteBelow : moment.minute < 100 := by omega
  have secondBelow : moment.second < 100 := by omega
  have wholeValid : ({ moment with nanosecond := 0 } : Moment).isValid = true :=
    isValid_iff.2 ⟨dateValid, hourBound, minuteBound, secondBound, Nat.zero_lt_succ _⟩
  simp only [cellChars, List.append_assoc, List.cons_append, List.nil_append, ofCell?, Option.bind_eq_bind,
    takeYear?_yearDigits inRange, Option.bind_some, takeMonthDay?_digits _ monthBelow dayBelow, dropMark?_cons,
    takeTwoDigits hourBelow, takeTwoDigits minuteBelow, closingSeconds?_digits secondBelow]
  exact if_pos wholeValid

theorem trimChars_cellChars (moment : Moment) : trimChars moment.cellChars = moment.cellChars := by
  have noBlank (width n : Nat) : ∀ c ∈ paddedDigits width n, isBlank c = false :=
    fun c member => isBlank_of_isDigit (isDigit_of_mem_paddedDigits member)
  have yearNoBlank : ∀ c ∈ yearDigits moment.date.year, isBlank c = false := by
    intro c member
    rcases List.mem_append.1 member with sign | digit
    · split at sign
      · rw [List.mem_singleton.1 sign]
        decide
      · cases sign
    · exact noBlank _ _ c digit
  have yearNonempty : yearDigits moment.date.year ≠ [] :=
    List.append_ne_nil_of_right_ne_nil _ (paddedDigits_ne_nil 4 _)
  obtain ⟨middle, parts⟩ : ∃ middle, moment.cellChars =
      yearDigits moment.date.year ++ middle ++ paddedDigits 2 moment.second := by
    refine ⟨['-'] ++ paddedDigits 2 moment.date.month ++ ['-'] ++ paddedDigits 2 moment.date.day ++ [' '] ++
      paddedDigits 2 moment.hour ++ [':'] ++ paddedDigits 2 moment.minute ++ [':'], ?_⟩
    simp only [cellChars, List.append_assoc]
  rw [parts]
  exact trimChars_append_append yearNoBlank yearNonempty (noBlank 2 _) (paddedDigits_ne_nil 2 _) middle

end Reading
end Moment
end ComputeMonitor.Calendar
