import ComputeMonitor.Proofs.Cell.Scale

/-!
The order of cells turns round when the cells change places, readable or not. Among readable cells of one kind it
is the order of their places on the scale, and transitive for this reason.
-/

set_option autoImplicit false

namespace ComputeMonitor.Cell

open Calendar (Moment)
open Number (Binary64)
open Text

theorem Direction.apply_swap (direction : Direction) (order : Ordering) :
    direction.apply order.swap = (direction.apply order).swap := by
  cases direction <;> rfl

theorem Direction.apply_eq (direction : Direction) : direction.apply .eq = .eq := by
  cases direction <;> rfl

theorem Direction.apply_eq_eq_iff {direction : Direction} {order : Ordering} :
    direction.apply order = .eq ↔ order = .eq := by
  cases direction <;> cases order <;> decide

/-- Changing places turns the order of two keys round, also of keys that could not be read. -/
theorem Key.order_swap (left right : Key) : right.order left = (left.order right).swap := by
  -- Keys of two kinds are equal both ways round, and so is a key that could not be read to any other.
  cases left with
  | chars left =>
    cases right with
    | chars right =>
      simp only [Key.order, compareChars_eq_compare]
      exact Std.OrientedCmp.eq_swap
    | number right => cases right <;> rfl
    | moment right => cases right <;> rfl
  | number left =>
    cases right with
    | chars right => cases left <;> rfl
    | number right =>
      cases left with
      | none => cases right <;> rfl
      | some left =>
        cases right with
        | none => rfl
        | some right =>
          simp only [Key.order, Binary64.compare?_swap left right]
          cases left.compare? right <;> rfl
    | moment right => cases left <;> cases right <;> rfl
  | moment left =>
    cases right with
    | chars right => cases left <;> rfl
    | number right => cases left <;> cases right <;> rfl
    | moment right =>
      cases left with
      | none => cases right <;> rfl
      | some left =>
        cases right with
        | none => rfl
        | some right => exact @Std.OrientedCmp.eq_swap _ Moment.order _ right left

def ReadableCell (kind : Kind) : Type := { cell : String // Readable kind cell }

def ReadableCell.order {kind : Kind} (left right : ReadableCell kind) : Ordering :=
  (Key.read kind left.1).order (Key.read kind right.1)

def ReadableCell.place {kind : Kind} (cell : ReadableCell kind) : Scale kind :=
  (place? kind cell.1).get (readable_iff_isSome_place?.1 cell.2)

theorem ReadableCell.order_eq_compareOn {kind : Kind} : @ReadableCell.order kind = compareOn ReadableCell.place := by
  funext left right
  exact order_places (Option.some_get _).symm (Option.some_get _).symm

instance (kind : Kind) : Std.TransCmp (@ReadableCell.order kind) := by
  rw [ReadableCell.order_eq_compareOn]
  infer_instance

theorem order_swap (kind : Kind) (left right : String) (direction : Direction) :
    order kind right left direction = (order kind left right direction).swap := by
  unfold order
  rw [Key.order_swap (Key.read kind left), Direction.apply_swap]

def ReadableCell.orderIn {kind : Kind} (direction : Direction) (left right : ReadableCell kind) :
    Ordering := Cell.order kind left.1 right.1 direction

instance (kind : Kind) (direction : Direction) :
    Std.TransCmp (@ReadableCell.orderIn kind direction) := by
  cases direction with
  | ascending => exact inferInstanceAs (Std.TransCmp ReadableCell.order)
  | descending =>
    have turned : @ReadableCell.orderIn kind .descending =
        fun left right => ReadableCell.order right left := by
      funext left right
      exact (Key.order_swap _ _).symm
    rw [turned]
    infer_instance

theorem Key.order_of_not_isRead {left right : Key} (unread : left.isRead = false ∨ right.isRead = false) :
    left.order right = .eq := by
  rcases left with _ | (_ | _) | (_ | _) <;> rcases right with _ | (_ | _) | (_ | _) <;>
    first | rfl | simp [Key.isRead] at unread

section Laws

variable {kind : Kind} {direction : Direction}

theorem order_descending (left right : String) :
    order kind left right .descending = (order kind left right .ascending).swap := rfl

theorem order_of_not_readable {left right : String} (unread : ¬ Readable kind left ∨ ¬ Readable kind right) :
    order kind left right direction = .eq := by
  have equal : (Key.read kind left).order (Key.read kind right) = .eq :=
    Key.order_of_not_isRead (unread.imp eq_false_of_ne_true eq_false_of_ne_true)
  rw [order, equal, Direction.apply_eq]

/-- Among readable cells, what is not greater than a cell is not greater than those after it. -/
theorem order_ne_gt_trans {first second third : String} (firstReadable : Readable kind first)
    (secondReadable : Readable kind second) (thirdReadable : Readable kind third)
    (before : order kind first second direction ≠ .gt) (after : order kind second third direction ≠ .gt) :
    order kind first third direction ≠ .gt := by
  have trans := @Std.TransCmp.isLE_trans _ (@ReadableCell.orderIn kind direction) _
    ⟨first, firstReadable⟩ ⟨second, secondReadable⟩ ⟨third, thirdReadable⟩
  rw [Ordering.isLE_iff_ne_gt, Ordering.isLE_iff_ne_gt, Ordering.isLE_iff_ne_gt] at trans
  exact trans before after

theorem equivalence_order_eq :
    Equivalence fun left right : ReadableCell kind => left.orderIn direction right = .eq where
  refl _ := Std.ReflCmp.compare_self
  symm := Std.OrientedCmp.eq_symm
  trans := Std.TransCmp.eq_trans

end Laws

/-- The order of cells is lawful. The descending order is the ascending one turned round, and changing places turns
either of them round, also for cells that cannot be read; these are equal to every cell. The cells that can be read
are those with a place on the scale of the kind. Among them, not being greater is transitive in either direction,
being equal is an equivalence, and the ascending order is that of the places. -/
theorem order_lawful (kind : Kind) :
    (∀ left right, order kind left right .descending = (order kind left right .ascending).swap) ∧
      (∀ left right direction, order kind right left direction = (order kind left right direction).swap) ∧
      (∀ left right direction, ¬ Readable kind left ∨ ¬ Readable kind right →
        order kind left right direction = .eq) ∧
      (∀ cell, Readable kind cell ↔ (place? kind cell).isSome = true) ∧
      (∀ first second third direction, Readable kind first → Readable kind second → Readable kind third →
        order kind first second direction ≠ .gt → order kind second third direction ≠ .gt →
          order kind first third direction ≠ .gt) ∧
      (∀ direction, Equivalence fun left right : ReadableCell kind => order kind left.1 right.1 direction = .eq) ∧
      ∀ left right first second, place? kind left = some first → place? kind right = some second →
        order kind left right .ascending = compare first second :=
  ⟨order_descending, fun left right direction => order_swap kind left right direction,
    fun _ _ _ => order_of_not_readable, fun _ => readable_iff_isSome_place?,
    fun _ _ _ _ => order_ne_gt_trans, fun _ => equivalence_order_eq, fun _ _ _ _ => order_places⟩

/-- Two ways to write a day and a second, a longer time, and a cell that is no duration. -/
theorem order_day_and_second :
    Readable .duration "1d 0:00:01" ∧ Readable .duration "24:00:01" ∧ Readable .duration "86402.5" ∧
      ¬ Readable .duration "soon" ∧
      order .duration "1d 0:00:01" "24:00:01" .ascending = .eq ∧
      order .duration "24:00:01" "86402.5" .ascending = .lt ∧
      order .duration "1d 0:00:01" "86402.5" .ascending ≠ .gt ∧
      order .duration "86402.5" "24:00:01" .descending = .lt ∧
      order .duration "soon" "86402.5" .descending = .eq ∧
      ∃ first second, place? .duration "24:00:01" = some first ∧ place? .duration "86402.5" = some second ∧
        compare first second = .lt := by
  obtain ⟨descending, swapped, unread, readable, ascends, -, places⟩ := order_lawful .duration
  have shortReadable : Readable .duration "1d 0:00:01" := by decide +kernel
  have clockReadable : Readable .duration "24:00:01" := by decide +kernel
  have longReadable : Readable .duration "86402.5" := by decide +kernel
  have soonUnreadable : ¬ Readable .duration "soon" := by decide +kernel
  have same : order .duration "1d 0:00:01" "24:00:01" .ascending = .eq := by decide +kernel
  have less : order .duration "24:00:01" "86402.5" .ascending = .lt := by decide +kernel
  obtain ⟨first, firstPlace⟩ := Option.isSome_iff_exists.1 ((readable _).1 clockReadable)
  obtain ⟨second, secondPlace⟩ := Option.isSome_iff_exists.1 ((readable _).1 longReadable)
  refine ⟨shortReadable, clockReadable, longReadable, soonUnreadable, same, less, ?_, ?_, ?_,
    first, second, firstPlace, secondPlace, ?_⟩
  · exact ascends _ _ _ _ shortReadable clockReadable longReadable (by rw [same]; decide) (by rw [less]; decide)
  · rw [descending, swapped, Ordering.swap_swap, less]
  · exact unread _ _ _ (.inl soonUnreadable)
  · rw [← places _ _ _ _ firstPlace secondPlace, less]

end ComputeMonitor.Cell
