import ComputeMonitor.Proofs.Calendar.Year
import Mathlib.Algebra.Order.BigOperators.Group.List
import Mathlib.Algebra.Order.Ring.Nat

/-!
Dates and their day numbers.

The days of a year are counted through its months, and a year is as long as its months are together. Dates that
exist and whole numbers therefore correspond one to one, and later dates have larger numbers.
-/

set_option autoImplicit false

namespace ComputeMonitor.Calendar

def yearLength (year : Int) : Nat := if isLeapYear year then 366 else 365

theorem sum_monthLengths (year : Int) : (monthLengths year).sum = yearLength year := by
  unfold monthLengths yearLength
  split <;> rfl

theorem daysBeforeYear_succ (year : Int) : daysBeforeYear (year + 1) = daysBeforeYear year + yearLength year := by
  have isLeap : isLeapYear year = true ↔ year % 4 = 0 ∧ (year % 100 ≠ 0 ∨ year % 400 = 0) := by
    simp only [isLeapYear, Bool.and_eq_true, Bool.or_eq_true, beq_iff_eq, bne_iff_ne]
  unfold daysBeforeYear yearLength
  split
  next leap =>
    have := isLeap.1 leap
    omega
  next common =>
    have := mt isLeap.2 common
    omega

namespace Date

section Months

variable {year : Int} {month : Nat}

theorem daysBeforeMonth_eq_sum (year : Int) (month : Nat) :
    daysBeforeMonth year month = ((monthLengths year).take (month - 1)).sum :=
  List.sum_eq_foldl.symm

theorem daysBeforeMonth_succ (begun : 1 ≤ month) (notAfter : month ≤ 12) :
    daysBeforeMonth year (month + 1) = daysBeforeMonth year month + daysInMonth year month := by
  have inside : month - 1 < (monthLengths year).length := by
    change month - 1 < 12
    omega
  have next : month + 1 - 1 = month - 1 + 1 := by omega
  rw [daysBeforeMonth_eq_sum, daysBeforeMonth_eq_sum, next, List.sum_take_succ _ _ inside, daysInMonth,
    if_neg (by omega), List.getD_eq_getElem?_getD, List.getElem?_eq_getElem inside, Option.getD_some]

theorem daysBeforeMonth_mono (year : Int) {earlier later : Nat} (le : earlier ≤ later) :
    daysBeforeMonth year earlier ≤ daysBeforeMonth year later := by
  rw [daysBeforeMonth_eq_sum, daysBeforeMonth_eq_sum]
  exact List.monotone_sum_take _ (Nat.sub_le_sub_right le 1)

theorem daysBeforeMonth_thirteen (year : Int) : daysBeforeMonth year 13 = yearLength year := by
  rw [daysBeforeMonth_eq_sum, ← sum_monthLengths]
  rfl

theorem daysInMonth_le (year : Int) (month : Nat) : daysInMonth year month ≤ 31 := by
  have lengths : ∀ length ∈ monthLengths year, length ≤ 31 := by
    unfold monthLengths
    split <;> decide
  unfold daysInMonth
  split
  next => exact Nat.zero_le 31
  next =>
    rw [List.getD_eq_getElem?_getD]
    cases isAt : (monthLengths year)[month - 1]? with
    | none => exact Nat.zero_le 31
    | some length => exact lengths length (List.mem_of_getElem? isAt)

end Months

theorem isValid_iff {date : Date} : date.isValid = true ↔ (1 ≤ date.month ∧ date.month ≤ 12) ∧
    1 ≤ date.day ∧ date.day ≤ daysInMonth date.year date.month := by
  simp only [isValid, Bool.and_eq_true, decide_eq_true_eq, and_assoc]

section Order

variable {date other : Date}

def Before (date other : Date) : Prop :=
  date.year < other.year ∨ date.year = other.year ∧
    (date.month < other.month ∨ date.month = other.month ∧ date.day < other.day)

theorem eq_of_not_before (notBefore : ¬ date.Before other) (notAfter : ¬ other.Before date) : date = other := by
  unfold Before at notBefore notAfter
  cases date
  cases other
  simp only [Date.mk.injEq]
  dsimp only at notBefore notAfter
  omega

theorem day_le_daysBeforeMonth (valid : date.isValid = true) : daysBeforeMonth date.year date.month + date.day ≤
    daysBeforeMonth date.year (date.month + 1) := by
  obtain ⟨⟨begun, notAfter⟩, -, inside⟩ := isValid_iff.1 valid
  rw [daysBeforeMonth_succ begun notAfter]
  omega

/-- Days are numbered as they follow one another. -/
theorem dayNumber_lt (valid : date.isValid = true) (otherValid : other.isValid = true)
    (before : date.Before other) : date.dayNumber < other.dayNumber := by
  have inMonth := day_le_daysBeforeMonth valid
  obtain ⟨⟨-, notAfter⟩, -, -⟩ := isValid_iff.1 valid
  obtain ⟨-, otherBegun, -⟩ := isValid_iff.1 otherValid
  unfold dayNumber
  rcases before with earlierYear | ⟨sameYear, earlierMonth | ⟨sameMonth, earlierDay⟩⟩
  · have inYear : daysBeforeMonth date.year (date.month + 1) ≤ yearLength date.year :=
      daysBeforeMonth_thirteen date.year ▸ daysBeforeMonth_mono _ (by omega)
    have := daysBeforeYear_succ date.year
    have := daysBeforeYear_mono (show date.year + 1 ≤ other.year by omega)
    omega
  · have := daysBeforeMonth_mono other.year (show date.month + 1 ≤ other.month by omega)
    rw [sameYear] at inMonth ⊢
    omega
  · rw [sameYear, sameMonth]
    omega

end Order

theorem monthAndDay_spec {lengths : List Nat} {day : Nat} (inside : day < lengths.sum) (month : Nat) :
    ∃ passed, passed < lengths.length ∧ (lengths.take passed).sum ≤ day ∧
      day < (lengths.take (passed + 1)).sum ∧
      monthAndDay lengths month day = (month + passed, day - (lengths.take passed).sum + 1) := by
  induction lengths generalizing day month with
  | nil => cases inside
  | cons length rest ih =>
    by_cases first : day < length
    · exact ⟨0, Nat.succ_pos _, Nat.zero_le _, by simpa using first, by simp [monthAndDay, first]⟩
    · have insideRest : day - length < rest.sum := by
        rw [List.sum_cons] at inside
        omega
      obtain ⟨passed, bound, begun, notEnded, found⟩ := ih insideRest (month + 1)
      refine ⟨passed + 1, Nat.succ_lt_succ bound, ?_, ?_, ?_⟩
      · rw [List.take_succ_cons, List.sum_cons]
        omega
      · rw [List.take_succ_cons, List.sum_cons]
        omega
      · rw [monthAndDay, if_neg first, found, List.take_succ_cons, List.sum_cons, Nat.sub_sub, Nat.add_assoc,
          Nat.add_comm 1 passed]

/-- Each whole number is the number of a date that exists. -/
theorem ofDayNumber_spec (number : Int) :
    (ofDayNumber number).isValid = true ∧ (ofDayNumber number).dayNumber = number := by
  have ⟨begun, notEnded⟩ := yearOfDays_bounds (number + epochOffset)
  unfold ofDayNumber
  dsimp only
  generalize yearOfDays (number + epochOffset) = year at begun notEnded ⊢
  rw [daysBeforeYear_succ, ← sum_monthLengths] at notEnded
  -- The days left of the year are fewer than it has, so that one of its months holds them.
  obtain ⟨passed, bound, monthBegun, monthNotEnded, found⟩ := monthAndDay_spec
    (show (number + epochOffset - daysBeforeYear year).toNat < (monthLengths year).sum by omega) 1
  rw [found]
  have isBefore : ((monthLengths year).take passed).sum = daysBeforeMonth year (1 + passed) := by
    rw [daysBeforeMonth_eq_sum, Nat.add_sub_cancel_left]
  have isAfter : ((monthLengths year).take (passed + 1)).sum = daysBeforeMonth year (1 + passed + 1) := by
    rw [daysBeforeMonth_eq_sum, Nat.add_sub_cancel, Nat.add_comm]
  have notAfter : 1 + passed ≤ 12 := by
    have : passed < 12 := bound
    omega
  rw [isBefore] at monthBegun ⊢
  rw [isAfter, daysBeforeMonth_succ (Nat.le_add_right 1 passed) notAfter] at monthNotEnded
  constructor
  · rw [isValid_iff]
    dsimp only
    omega
  · unfold dayNumber
    dsimp only
    omega

end Date
end ComputeMonitor.Calendar
