import ComputeMonitor.Calendar.Timestamp

/-!
The year that a day or an instant lies in.

The estimate of the year is corrected by one at most, which is enough: the first days of the years rise,
and a year begins less than two days off the mean of four hundred years. Whether the year of an instant is
in range is therefore a matter of two bounds on its seconds.
-/

set_option autoImplicit false

namespace ComputeMonitor.Calendar

/-- Years begin close to where the mean length of a year puts them. -/
theorem daysBeforeYear_bounds (year : Int) : 146097 * year - 396 ≤ 400 * daysBeforeYear year ∧
    400 * daysBeforeYear year ≤ 146097 * year + 699 := by
  unfold daysBeforeYear
  omega

theorem daysBeforeYear_mono {earlier later : Int} (le : earlier ≤ later) :
    daysBeforeYear earlier ≤ daysBeforeYear later := by
  unfold daysBeforeYear
  omega

namespace Date

theorem yearOfDays_bounds (days : Int) : daysBeforeYear (yearOfDays days) ≤ days ∧
    days < daysBeforeYear (yearOfDays days + 1) := by
  unfold yearOfDays
  dsimp only
  have estimated : 146097 * (days * 400 / 146097) ≤ 400 * days ∧
      400 * days < 146097 * (days * 400 / 146097 + 1) := by omega
  generalize days * 400 / 146097 = estimate at estimated ⊢
  split
  next early =>
    have before := daysBeforeYear_bounds (estimate - 1)
    rw [show estimate - 1 + 1 = estimate by omega]
    omega
  next notEarly =>
    split
    next late =>
      have after := daysBeforeYear_bounds (estimate + 1 + 1)
      omega
    next notLate => omega

theorem le_yearOfDays_iff {year days : Int} : year ≤ yearOfDays days ↔ daysBeforeYear year ≤ days := by
  have ⟨begun, notEnded⟩ := yearOfDays_bounds days
  constructor
  · intro le
    exact Int.le_trans (daysBeforeYear_mono le) begun
  · intro begins
    by_cases le : year ≤ yearOfDays days
    · exact le
    · have next : yearOfDays days + 1 ≤ year := by omega
      have := daysBeforeYear_mono next
      omega

end Date

/-- The first second of a year, counted from the start of 1970. -/
def startOfYear (year : Int) : Int := (daysBeforeYear year - epochOffset) * 86400

def startOfRange : Int := startOfYear (-9999)

def endOfRange : Int := startOfYear 10000

example : endOfRange = 253402300800 := by decide

theorem Moment.le_year_ofSecondNumber_iff (year seconds : Int) (nanosecond : Nat) :
    year ≤ (ofSecondNumber seconds nanosecond).date.year ↔ startOfYear year ≤ seconds := by
  have isYear : (ofSecondNumber seconds nanosecond).date.year =
      Date.yearOfDays (seconds / 86400 + epochOffset) := rfl
  rw [isYear, Date.le_yearOfDays_iff, startOfYear]
  omega

namespace Timestamp

theorem yearInRange_iff (seconds : Int) (nanosecond : Nat) :
    yearInRange (Moment.ofSecondNumber seconds nanosecond).date.year = true ↔
      startOfRange ≤ seconds ∧ seconds < endOfRange := by
  have notBefore := Moment.le_year_ofSecondNumber_iff (-9999) seconds nanosecond
  have after := Moment.le_year_ofSecondNumber_iff 10000 seconds nanosecond
  simp only [yearInRange, Bool.and_eq_true, decide_eq_true_eq, startOfRange, endOfRange]
  omega

theorem universal?_eq_none_iff {time : Timestamp} :
    time.universal? = none ↔ time.unixSeconds < startOfRange ∨ endOfRange ≤ time.unixSeconds := by
  have inRange := yearInRange_iff time.unixSeconds time.moment.nanosecond
  unfold universal?
  dsimp only
  split
  next within =>
    have bounds := inRange.1 within
    simp only [reduceCtorEq, false_iff]
    omega
  next beyond =>
    have notWithin : ¬ (startOfRange ≤ time.unixSeconds ∧ time.unixSeconds < endOfRange) :=
      fun bounds => beyond (inRange.2 bounds)
    simp only [true_iff]
    omega

theorem takeMonthDay?_year {year : Int} {chars rest : List Char} {date : Date}
    (taken : Moment.takeMonthDay? year chars = some (date, rest)) : date.year = year := by
  simp only [Moment.takeMonthDay?, Option.bind_eq_bind, Option.bind_eq_some_iff] at taken
  obtain ⟨_, -, ⟨_, _⟩, -, _, -, ⟨_, _⟩, -, same⟩ := taken
  cases same
  rfl

theorem closingOffset?_bound {chars : List Char} {minutes : Int}
    (closes : closingOffset? chars = some minutes) : minutes.natAbs < 1440 := by
  simp only [closingOffset?, Option.bind_eq_bind] at closes
  split at closes
  case h_5 => cases closes
  case h_1 | h_2 =>
    cases closes
    decide
  all_goals
    simp only [Option.bind_eq_some_iff] at closes
    obtain ⟨⟨hours, _⟩, -, _, -, ⟨minutes, _⟩, -, inRange⟩ := closes
    simp only [Bool.and_eq_true, decide_eq_true_eq] at inRange
    split at inRange
    next small =>
      cases inRange
      omega
    next => cases inRange

/-- What is read has a year that is not negative and an offset of less than a day. -/
theorem read?_bounds {chars : List Char} {time : Timestamp} (isRead : read? chars = some time) :
    0 ≤ time.moment.date.year ∧ time.offsetSeconds.natAbs < 86400 := by
  simp only [read?, Option.bind_eq_bind, Option.bind_eq_some_iff] at isRead
  obtain ⟨⟨year, _⟩, -, ⟨date, _⟩, hasDate, isRest⟩ := isRead
  have isYear : date.year = year := takeMonthDay?_year hasDate
  split at isRest
  case h_2 => cases isRest
  case h_1 mark _ _ =>
    by_cases isAscii : mark.toNat < 128
    · rw [if_pos isAscii] at isRest
      simp only [Option.bind_eq_some_iff] at isRest
      obtain ⟨_, -, ⟨hour, _⟩, -, _, -, ⟨minute, _⟩, -, _, -, ⟨second, _⟩, -, ⟨nanosecond, _⟩, -,
        offset, hasOffset, isTime⟩ := isRest
      obtain ⟨-, same⟩ := Option.ite_none_right_eq_some.1 isTime
      rw [← Option.some.inj same]
      have bound := closingOffset?_bound hasOffset
      refine ⟨?_, by dsimp only; omega⟩
      -- A leap second changes the time of day only.
      dsimp only
      split <;> exact isYear ▸ Int.natCast_nonneg year
    · rw [if_neg isAscii] at isRest
      cases isRest

def IsRead (time : Timestamp) : Prop := ∃ chars, read? chars = some time

/-- The instants that are read and lie out of the range of years all lie after it. -/
theorem IsRead.universal?_eq_none_iff {time : Timestamp} (isRead : time.IsRead) :
    time.universal? = none ↔ endOfRange ≤ time.unixSeconds := by
  obtain ⟨chars, isRead⟩ := isRead
  obtain ⟨yearBound, offsetBound⟩ := read?_bounds isRead
  have notBefore : startOfRange ≤ time.unixSeconds := by
    have started := daysBeforeYear_mono yearBound
    have isStart : startOfRange = -377705116800 := by decide
    have isZero : daysBeforeYear 0 = 0 := by decide
    simp only [unixSeconds, Moment.secondNumber, Date.dayNumber, epochOffset]
    omega
  rw [Timestamp.universal?_eq_none_iff]
  omega

end Timestamp
end ComputeMonitor.Calendar
