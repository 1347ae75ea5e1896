import ComputeMonitor.Cell.Order
import ComputeMonitor.Proofs.Calendar.Moment

/-!
Instants in table cells are shown as the date and time of day in universal time, and read back as these without
the fraction of a second.

What an instant is in universal time is stated by itself: the moment that exists and lies as many nanoseconds from
the start of 1970, at no offset, as the instant does at its own. Cells are ordered as the instants are when these
are taken down to whole seconds, also in years below zero and before 1970.
-/

set_option autoImplicit false

namespace ComputeMonitor

open Calendar (Moment Timestamp)

namespace Calendar.Timestamp

/-- Nanoseconds from the start of 1970 in universal time. -/
def unixNanoseconds (time : Timestamp) : Int := time.unixSeconds * 1000000000 + time.moment.nanosecond

/-- A moment that exists is an instant in universal time. -/
def IsUniversal (time : Timestamp) (moment : Moment) : Prop :=
  moment.isValid = true ∧ unixNanoseconds ⟨moment, 0⟩ = time.unixNanoseconds

theorem unixNanoseconds_universal (moment : Moment) :
    unixNanoseconds ⟨moment, 0⟩ = moment.secondNumber * 1000000000 + moment.nanosecond := by
  rw [unixNanoseconds, unixSeconds, Int.sub_zero]

variable {time : Timestamp} (valid : time.moment.isValid = true)

include valid

theorem unixNanoseconds_ediv : time.unixNanoseconds / 1000000000 = time.unixSeconds := by
  obtain ⟨-, -, -, -, fraction⟩ := Moment.isValid_iff.1 valid
  unfold unixNanoseconds
  omega

theorem IsUniversal.secondNumber_eq {moment : Moment} (isUniversal : time.IsUniversal moment) :
    moment.secondNumber = time.unixSeconds ∧ moment.nanosecond = time.moment.nanosecond := by
  obtain ⟨momentValid, same⟩ := isUniversal
  obtain ⟨-, -, -, -, fraction⟩ := Moment.isValid_iff.1 valid
  obtain ⟨-, -, -, -, momentFraction⟩ := Moment.isValid_iff.1 momentValid
  rw [unixNanoseconds_universal, unixNanoseconds] at same
  omega

theorem isUniversal_iff (moment : Moment) : time.IsUniversal moment ↔
    moment = .ofSecondNumber time.unixSeconds time.moment.nanosecond := by
  obtain ⟨-, -, -, -, fraction⟩ := Moment.isValid_iff.1 valid
  have ⟨isValid, number⟩ := Moment.ofSecondNumber_spec time.unixSeconds fraction
  constructor
  · intro isUniversal
    have ⟨sameSeconds, sameFraction⟩ := isUniversal.secondNumber_eq valid
    exact Moment.eq_of_secondNumber isUniversal.1 isValid sameFraction (sameSeconds.trans number.symm)
  · rintro rfl
    refine ⟨isValid, ?_⟩
    rw [unixNanoseconds_universal, number]
    rfl

end Calendar.Timestamp

namespace Cell

open Calendar.Timestamp (yearInRange)

theorem readMoment?_cellChars {moment : Moment} (valid : moment.isValid = true)
    (inRange : yearInRange moment.date.year = true) :
    readMoment? (String.ofList moment.cellChars) = some { moment with nanosecond := 0 } := by
  rw [readMoment?, String.toList_ofList, moment.trimChars_cellChars]
  exact moment.ofCell?_cellChars valid inRange

theorem instantText?_of_isUniversal {time : Timestamp} (valid : time.moment.isValid = true) {moment : Moment}
    (isUniversal : time.IsUniversal moment) (inRange : yearInRange moment.date.year = true) :
    instantText? time = some (String.ofList moment.cellChars) := by
  obtain rfl := (Calendar.Timestamp.isUniversal_iff valid moment).1 isUniversal
  have universal : time.universal? = some _ := if_pos inRange
  rw [instantText?, universal, Option.map_some]

/-- Cells of moments are ordered by the whole seconds of the moments. -/
theorem order_cellChars {first second : Moment} (firstValid : first.isValid = true)
    (secondValid : second.isValid = true) (firstInRange : yearInRange first.date.year = true)
    (secondInRange : yearInRange second.date.year = true) :
    order .dateTime (String.ofList first.cellChars) (String.ofList second.cellChars) .ascending =
      compare first.secondNumber second.secondNumber := by
  have whole {moment : Moment} (valid : moment.isValid = true) :
      ({ moment with nanosecond := 0 } : Moment).isValid = true := by
    obtain ⟨date, hour, minute, second, -⟩ := Moment.isValid_iff.1 valid
    exact Moment.isValid_iff.2 ⟨date, hour, minute, second, Nat.zero_lt_succ _⟩
  rw [order, Key.read, Key.read, readMoment?_cellChars firstValid firstInRange,
    readMoment?_cellChars secondValid secondInRange]
  exact Moment.order_eq_compare (whole firstValid) (whole secondValid) rfl

/-- Instants within the years of the calendar are shown as dates and times of day in universal time, read back as
these without the fraction of a second, and ordered by their whole seconds. -/
theorem order_instantText {first second : Timestamp} (firstValid : first.moment.isValid = true)
    (secondValid : second.moment.isValid = true) :
    ∃ firstUniversal secondUniversal, (∀ moment, first.IsUniversal moment ↔ moment = firstUniversal) ∧
      (∀ moment, second.IsUniversal moment ↔ moment = secondUniversal) ∧
      (yearInRange firstUniversal.date.year = true → ∃ text, instantText? first = some text ∧
        readMoment? text = some { firstUniversal with nanosecond := 0 }) ∧
      (yearInRange firstUniversal.date.year = true → yearInRange secondUniversal.date.year = true →
        ∃ firstText secondText, instantText? first = some firstText ∧ instantText? second = some secondText ∧
          order .dateTime firstText secondText .ascending =
            compare (first.unixNanoseconds / 1000000000) (second.unixNanoseconds / 1000000000)) := by
  have firstIff := Calendar.Timestamp.isUniversal_iff firstValid
  have secondIff := Calendar.Timestamp.isUniversal_iff secondValid
  have firstIs := (firstIff _).2 rfl
  have secondIs := (secondIff _).2 rfl
  have firstShown := instantText?_of_isUniversal firstValid firstIs
  have secondShown := instantText?_of_isUniversal secondValid secondIs
  refine ⟨_, _, firstIff, secondIff, fun inRange => ?_, fun firstInRange secondInRange => ?_⟩
  · exact ⟨_, firstShown inRange, readMoment?_cellChars firstIs.1 inRange⟩
  · refine ⟨_, _, firstShown firstInRange, secondShown secondInRange, ?_⟩
    rw [order_cellChars firstIs.1 secondIs.1 firstInRange secondInRange, (firstIs.secondNumber_eq firstValid).1,
      (secondIs.secondNumber_eq secondValid).1, Calendar.Timestamp.unixNanoseconds_ediv firstValid,
      Calendar.Timestamp.unixNanoseconds_ediv secondValid]

/-- An instant in a year below zero, on the first of March at its own offset and on the leap day before it in
universal time, and an instant half a second before 1970. -/
theorem order_before_epoch :
    let first : Timestamp := ⟨⟨⟨-44, 3, 1⟩, 0, 30, 0, 999999999⟩, 3601⟩
    let second : Timestamp := ⟨⟨⟨1970, 1, 1⟩, 0, 0, 0, 500000000⟩, 1⟩
    let firstUniversal : Moment := ⟨⟨-44, 2, 29⟩, 23, 29, 59, 999999999⟩
    first.moment.isValid = true ∧ second.moment.isValid = true ∧ first.IsUniversal firstUniversal ∧
      yearInRange firstUniversal.date.year = true ∧
      (∃ text, instantText? first = some text ∧ readMoment? text = some { firstUniversal with nanosecond := 0 }) ∧
      second.unixNanoseconds / 1000000000 = -1 ∧
      ∃ firstText secondText, instantText? first = some firstText ∧ instantText? second = some secondText ∧
        order .dateTime firstText secondText .ascending = .lt := by
  intro first second firstUniversal
  have firstValid : first.moment.isValid = true := by decide
  have secondValid : second.moment.isValid = true := by decide
  have firstIs : first.IsUniversal firstUniversal := ⟨by decide, by decide⟩
  have secondIs : second.IsUniversal ⟨⟨1969, 12, 31⟩, 23, 59, 59, 500000000⟩ := ⟨by decide, by decide⟩
  obtain ⟨_, _, firstIff, secondIff, shown, ordered⟩ := order_instantText firstValid secondValid
  obtain rfl := (firstIff _).1 firstIs
  obtain rfl := (secondIff _).1 secondIs
  obtain ⟨firstText, secondText, firstShown, secondShown, isOrder⟩ := ordered (by decide) (by decide)
  exact ⟨firstValid, secondValid, firstIs, by decide, shown (by decide), by decide, firstText, secondText,
    firstShown, secondShown, isOrder.trans (by decide)⟩

end Cell
end ComputeMonitor
