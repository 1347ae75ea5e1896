import ComputeMonitor.Cell.Order
import ComputeMonitor.Proofs.Calendar.Moment
import ComputeMonitor.Proofs.Cell.Finite
import Mathlib.Algebra.Order.Field.Basic
import Mathlib.Algebra.Order.Field.Rat
import Mathlib.Algebra.Order.Ring.Cast
import Mathlib.Data.Char
import Mathlib.Data.List.Lex

/-!
What the cells of a column are ordered by.

Every kind of column has a scale: texts with and without their case, rational numbers, and whole seconds. The
cells that can be read are exactly those that have a place on the scale, and they are ordered as their places
are.
-/

set_option autoImplicit false

namespace ComputeMonitor

open Calendar (Moment)
open Number (Binary64)
open Text

namespace Number.Binary64

def value? : Binary64 → Option ℚ
  | .finite negative units => some (signedUnits negative units / (one : ℚ))
  | _ => none

theorem isSome_value? (number : Binary64) : number.value?.isSome = number.isFinite := by
  cases number <;> rfl

theorem compare?_of_values {left right : Binary64} {first second : ℚ} (leftValue : left.value? = some first)
    (rightValue : right.value? = some second) : left.compare? right = some (compare first second) := by
  have scaled : StrictMono fun units : ℤ => (units : ℚ) / (one : ℚ) := fun smaller larger less =>
    div_lt_div_of_pos_right (Int.cast_lt.2 less) (Nat.cast_pos.2 one_pos)
  cases left with
  | nan | infinite => cases leftValue
  | finite leftNegative units =>
    cases right with
    | nan | infinite => cases rightValue
    | finite rightNegative others =>
      cases leftValue
      cases rightValue
      have same := scaled.cmp_map_eq (signedUnits leftNegative units) (signedUnits rightNegative others)
      rw [cmp_eq_compare, cmp_eq_compare] at same
      rw [same]
      rfl

end Number.Binary64

namespace Text

theorem compareChars_eq_lt_iff {left right : List Char} : compareChars left right = .lt ↔ left < right := by
  induction left generalizing right with
  | nil => cases right <;> simp [compareChars]
  | cons first lefts ih =>
    cases right with
    | nil => simp [compareChars]
    | cons other rights =>
      rw [compareChars, Ordering.then_eq_lt, Nat.compare_eq_lt, Nat.compare_eq_eq, ih,
        List.cons_lt_cons_iff, Char.toNat_inj]
      rfl

theorem compareChars_eq_eq_iff {left right : List Char} : compareChars left right = .eq ↔ left = right := by
  induction left generalizing right with
  | nil => cases right <;> simp [compareChars]
  | cons first lefts ih =>
    cases right with
    | nil => simp [compareChars]
    | cons other rights =>
      rw [compareChars, Ordering.then_eq_eq, Nat.compare_eq_eq, ih, List.cons.injEq, Char.toNat_inj]

theorem compareChars_eq_compare (left right : List Char) :
    compareChars left right = @compare _ LinearOrder.toOrd left right := by
  -- Lists have a comparison of their own beside that of their linear order, which is the one of the scale.
  rcases lt_trichotomy left right with before | rfl | after
  · rw [compareChars_eq_lt_iff.2 before, compare_lt_iff_lt.2 before]
  · rw [compareChars_eq_eq_iff.2 rfl, compare_eq_iff_eq.2 rfl]
  · rw [compare_gt_iff_gt.2 after]
    cases answer : compareChars left right with
    | lt => exact absurd (compareChars_eq_lt_iff.1 answer) after.asymm
    | eq => exact absurd (compareChars_eq_eq_iff.1 answer) after.ne'
    | gt => rfl

end Text

namespace Calendar.Moment

theorem ofCell?_spec {chars : List Char} {moment : Moment} (read : ofCell? chars = some moment) :
    moment.isValid = true ∧ moment.nanosecond = 0 := by
  simp only [ofCell?, Option.bind_eq_bind, Option.bind_eq_some_iff] at read
  obtain ⟨_, -, _, -, _, -, _, -, _, -, _, -, _, -, found⟩ := read
  obtain ⟨valid, same⟩ := Option.ite_none_right_eq_some.1 found
  cases same
  exact ⟨valid, rfl⟩

end Calendar.Moment

namespace Cell

def Readable (kind : Kind) (cell : String) : Prop := (Key.read kind cell).isRead = true

instance (kind : Kind) (cell : String) : Decidable (Readable kind cell) :=
  inferInstanceAs (Decidable (_ = true))

def Scale : Kind → Type
  | .text | .textNoCase => List Char
  | .number | .duration => ℚ
  | .dateTime => ℤ

instance (kind : Kind) : LinearOrder (Scale kind) :=
  match kind with
  | .text | .textNoCase => inferInstanceAs (LinearOrder (List Char))
  | .number | .duration => inferInstanceAs (LinearOrder ℚ)
  | .dateTime => inferInstanceAs (LinearOrder ℤ)

/-- The place of a cell on the scale of its kind: its characters, each of them in lower case where case does not
count, the number or the seconds that it is read as, or the seconds from the start of 1970 to its moment. -/
def place? : (kind : Kind) → String → Option (Scale kind)
  | .text, cell => some cell.toList
  | .textNoCase, cell => some (cell.toList.flatMap lowerCase)
  | .number, cell => (readNumber? cell).bind Binary64.value?
  | .duration, cell => (readDuration? cell).bind Binary64.value?
  | .dateTime, cell => (readMoment? cell).map Moment.secondNumber

section Places

variable {kind : Kind}

theorem isSome_bind_value? {read : Option Binary64}
    (finite : ∀ number, read = some number → number.isFinite = true) :
    (read.bind Binary64.value?).isSome = read.isSome := by
  cases read with
  | none => rfl
  | some number => exact (Binary64.isSome_value? number).trans (finite number rfl)

theorem readable_iff_isSome_place? {cell : String} : Readable kind cell ↔ (place? kind cell).isSome = true := by
  cases kind with
  | text => exact ⟨fun _ => rfl, fun _ => rfl⟩
  | textNoCase => exact ⟨fun _ => rfl, fun _ => rfl⟩
  | number =>
    show (readNumber? cell).isSome = true ↔ ((readNumber? cell).bind Binary64.value?).isSome = true
    rw [isSome_bind_value? fun _ => isFinite_readNumber?]
  | duration =>
    show (readDuration? cell).isSome = true ↔ ((readDuration? cell).bind Binary64.value?).isSome = true
    rw [isSome_bind_value? fun _ => isFinite_readDuration?]
  | dateTime =>
    show (readMoment? cell).isSome = true ↔ ((readMoment? cell).map Moment.secondNumber).isSome = true
    rw [Option.isSome_map]

theorem order_values {left right : Option Binary64} {first second : ℚ}
    (leftPlace : left.bind Binary64.value? = some first) (rightPlace : right.bind Binary64.value? = some second) :
    (Key.number left).order (.number right) = compare first second := by
  obtain ⟨number, rfl, leftValue⟩ := Option.bind_eq_some_iff.1 leftPlace
  obtain ⟨other, rfl, rightValue⟩ := Option.bind_eq_some_iff.1 rightPlace
  rw [Key.order, Binary64.compare?_of_values leftValue rightValue, Option.getD_some]

/-- Readable cells are ordered by their places. -/
theorem order_places {left right : String} {first second : Scale kind} (leftPlace : place? kind left = some first)
    (rightPlace : place? kind right = some second) :
    (Key.read kind left).order (Key.read kind right) = compare first second := by
  cases kind with
  | text | textNoCase =>
    cases leftPlace
    cases rightPlace
    exact compareChars_eq_compare _ _
  | number | duration => exact order_values leftPlace rightPlace
  | dateTime =>
    obtain ⟨moment, leftRead, rfl⟩ := Option.map_eq_some_iff.1 leftPlace
    obtain ⟨other, rightRead, rfl⟩ := Option.map_eq_some_iff.1 rightPlace
    have ⟨valid, whole⟩ := Moment.ofCell?_spec leftRead
    have ⟨otherValid, otherWhole⟩ := Moment.ofCell?_spec rightRead
    rw [Key.read, Key.read, leftRead, rightRead]
    exact Moment.order_eq_compare valid otherValid (whole.trans otherWhole.symm)

end Places

end Cell
end ComputeMonitor
