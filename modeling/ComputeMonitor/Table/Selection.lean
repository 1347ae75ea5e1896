import ComputeMonitor.Table.Sorting

/-!
Selected rows, the cursor and the first visible row of a table.

They are row numbers while the order of rows stands. When it changes they are taken down as keys
before and found again by key after, so that they stay with the items they are on.
-/

set_option autoImplicit false

namespace ComputeMonitor.Table

/-- A set of row numbers, listed in ascending order. -/
structure RowSet where
  rows : List Nat
  sorted : rows.Pairwise (· < ·)

namespace RowSet

instance : DecidableEq RowSet := fun left right =>
  decidable_of_iff (left.rows = right.rows) (by cases left; cases right; simp)

def empty : RowSet := ⟨[], .nil⟩

instance : Inhabited RowSet := ⟨empty⟩

def insertRow (row : Nat) : List Nat → List Nat
  | [] => [row]
  | other :: rest =>
    if row < other then row :: other :: rest
    else if row = other then other :: rest
    else other :: insertRow row rest

theorem mem_insertRow {row other : Nat} {rows : List Nat} :
    other ∈ insertRow row rows ↔ other = row ∨ other ∈ rows := by
  induction rows with
  | nil => simp [insertRow]
  | cons head rest ih =>
    unfold insertRow
    split
    · simp
    · split
      next equal => simp [equal]
      next => simp only [List.mem_cons, ih]; constructor <;> rintro (h | h | h) <;> simp [h]

theorem insertRow_sorted (row : Nat) (rows : List Nat) (sorted : rows.Pairwise (· < ·)) :
    (insertRow row rows).Pairwise (· < ·) := by
  induction rows with
  | nil => simp [insertRow]
  | cons head rest ih =>
    have ⟨before, sortedRest⟩ := List.pairwise_cons.1 sorted
    unfold insertRow
    split
    next less =>
      refine List.pairwise_cons.2 ⟨fun other member => ?_, sorted⟩
      rcases List.mem_cons.1 member with rfl | member
      · exact less
      · exact Nat.lt_trans less (before other member)
    next notLess =>
      split
      next => exact sorted
      next different =>
        refine List.pairwise_cons.2 ⟨fun other member => ?_, ih sortedRest⟩
        rcases mem_insertRow.1 member with rfl | member
        · omega
        · exact before other member

def insert (set : RowSet) (row : Nat) : RowSet :=
  ⟨insertRow row set.rows, insertRow_sorted row set.rows set.sorted⟩

@[simp] theorem mem_rows_insert {set : RowSet} {row other : Nat} :
    other ∈ (set.insert row).rows ↔ other = row ∨ other ∈ set.rows := mem_insertRow

def filter (set : RowSet) (test : Nat → Bool) : RowSet :=
  ⟨set.rows.filter test, set.sorted.filter test⟩

@[simp] theorem mem_rows_filter {set : RowSet} {test : Nat → Bool} {row : Nat} :
    row ∈ (set.filter test).rows ↔ row ∈ set.rows ∧ test row = true := List.mem_filter

def erase (set : RowSet) (row : Nat) : RowSet := set.filter (· != row)

def contains (set : RowSet) (row : Nat) : Bool := set.rows.contains row

def ofList (rows : List Nat) : RowSet := rows.foldl insert empty

end RowSet

structure Selection where
  selected : RowSet := .empty
  cursor : Option Nat := none
  scrollTop : Nat := 0
  deriving DecidableEq, Inhabited

namespace Selection

def select (selection : Selection) (row : Nat) : Selection :=
  { selection with selected := selection.selected.insert row }

def deselect (selection : Selection) (row : Nat) : Selection :=
  { selection with selected := selection.selected.erase row }

def toggle (selection : Selection) (row : Nat) : Selection :=
  if selection.selected.contains row then selection.deselect row else selection.select row

def selectOnly (selection : Selection) (row : Nat) : Selection :=
  { selection with selected := .insert .empty row, cursor := some row }

def clear (selection : Selection) : Selection := { selection with selected := .empty, cursor := none }

/-- Where a cursor comes to lie that is moved among rows; without a cursor that is the first row. -/
def movedCursor (cursor : Option Nat) (delta : Int) (rowCount : Nat) : Option Nat :=
  if rowCount = 0 then none
  else match cursor with
    | none => some 0
    | some current => some (min (current + delta).toNat (rowCount - 1))

def moveCursor (selection : Selection) (delta : Int) (rowCount : Nat) : Selection :=
  { selection with cursor := movedCursor selection.cursor delta rowCount }

def clamp (selection : Selection) (rowCount : Nat) : Selection where
  selected := selection.selected.filter (· < rowCount)
  cursor := selection.cursor.bind fun row =>
    if row < rowCount then some row else if rowCount = 0 then none else some (rowCount - 1)
  scrollTop := min selection.scrollTop (rowCount - 1)

/-- Scroll as little as possible to show the cursor on a screen of some height. -/
def scrollToCursor (selection : Selection) (height : Nat) : Selection :=
  match selection.cursor with
  | none => selection
  | some cursor =>
    let height := max height 1
    if cursor < selection.scrollTop then { selection with scrollTop := cursor }
    else if selection.scrollTop + height ≤ cursor then
      { selection with scrollTop := cursor + 1 - height }
    else selection

end Selection

structure SelectionKeys where
  selected : List RowKey := []
  cursor : Option RowKey := none
  scrollAnchor : Option RowKey := none
  scrollTop : Nat := 0
  deriving DecidableEq, Inhabited

def keyAt? (permutation : Permutation) (cache : Cache) (row : Nat) : Option RowKey :=
  (permutation.cacheIndex? row).bind fun index => cache[index]?.map Entry.key

def findRow? (permutation : Permutation) (cache : Cache) (keyMatch : KeyMatch) (key : RowKey) :
    Option Nat :=
  (cache.findIdx? fun entry => entry.key.agrees keyMatch key).bind permutation.row?

/-- Take a selection down by keys. Rows beyond the table have none and are lost. -/
def Selection.capture (selection : Selection) (permutation : Permutation) (cache : Cache) :
    SelectionKeys where
  selected := selection.selected.rows.filterMap (keyAt? permutation cache)
  cursor := selection.cursor.bind (keyAt? permutation cache)
  scrollAnchor := keyAt? permutation cache selection.scrollTop
  scrollTop := selection.scrollTop

/-- Find a selection again by its keys. Without its anchor the view stays at its row, or at the
last one. -/
def SelectionKeys.restore (keys : SelectionKeys) (permutation : Permutation) (cache : Cache)
    (keyMatch : KeyMatch) : Selection where
  selected := .ofList (keys.selected.filterMap (findRow? permutation cache keyMatch))
  cursor := keys.cursor.bind (findRow? permutation cache keyMatch)
  scrollTop := (keys.scrollAnchor.bind (findRow? permutation cache keyMatch)).getD
    (min keys.scrollTop (permutation.length - 1))

end ComputeMonitor.Table
