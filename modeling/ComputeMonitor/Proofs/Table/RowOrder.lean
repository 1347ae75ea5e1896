import ComputeMonitor.Proofs.Table.Cache
import ComputeMonitor.Proofs.Table.Operation
import ComputeMonitor.Proofs.Table.Sorting

/-!
The order of rows is never stale.

The permutation of a table is made anew only when a refresh reports that something may have moved, yet
after any run of operations it fits the cache and the sort state as they are.
-/

set_option autoImplicit false

namespace ComputeMonitor.Table

variable {Item : Type}

theorem SortState.sortedColumn?_eq_some_iff {sort : SortState} {columns : List Column} {index : Nat}
    {column : Column} : sort.sortedColumn? columns = some (index, column) ↔
      sort.column = some index ∧ columns[index]? = some column := by
  simp only [sortedColumn?, Option.bind_eq_some_iff, Option.map_eq_some_iff, Prod.mk.injEq]
  constructor
  · rintro ⟨index, isColumn, column, found, rfl, rfl⟩
    exact ⟨isColumn, found⟩
  · rintro ⟨isColumn, found⟩
    exact ⟨index, isColumn, column, found, rfl, rfl⟩

theorem SortState.sortedColumn?_eq_none {sort : SortState} {columns : List Column}
    (unsorted : ∀ index, sort.column = some index → columns.length ≤ index) :
    sort.sortedColumn? columns = none := by
  cases sorted : sort.sortedColumn? columns with
  | none => rfl
  | some found =>
    obtain ⟨isColumn, isAt⟩ := sortedColumn?_eq_some_iff.1 sorted
    have bound := (List.getElem?_eq_some_iff.1 isAt).1
    have beyond := unsorted found.1 isColumn
    omega

theorem Cache.cellAt_eq_of_fields {cache after : Cache}
    (same : after.map Entry.fields = cache.map Entry.fields) (column index : Nat) :
    after.cellAt column index = cache.cellAt column index := by
  have cellOfFields (cache : Cache) : cache.cellAt column index =
      ((cache.map Entry.fields)[index]?.map (·.getD column "")).getD "" := by
    rw [cellAt, List.getElem?_map, Option.map_map]
    rfl
  rw [cellOfFields, cellOfFields, same]

theorem Cache.fields_invalidate (cache : Cache) :
    cache.invalidate.map Entry.fields = cache.map Entry.fields := by
  rw [invalidate, List.map_map]
  rfl

/-- A permutation fits a cache and a sort state: it shows every entry once, no row descends to the next
one, and without a sorted column entries stand as in the cache. -/
structure InOrder (columns : List Column) (cache : Cache) (sort : SortState)
    (permutation : Permutation) : Prop where
  shows : permutation.Shows cache.length
  chain : ∀ index column, sort.sortedColumn? columns = some (index, column) →
    permutation.order.IsChain fun left right =>
      Cell.order column.kind (cache.cellAt index left) (cache.cellAt index right) sort.direction ≠ .gt
  unsorted : sort.sortedColumn? columns = none → permutation = .identity cache.length

section

variable {columns : List Column} {cache after : Cache} {sort : SortState} {permutation : Permutation}

theorem inOrder_sortPermutation {length : Nat} (shows : permutation.Shows length) :
    InOrder columns cache sort (sortPermutation cache columns sort permutation) where
  shows := sortPermutation_shows shows
  chain _ _ sorted := sortPermutation_isChain sorted
  unsorted := sortPermutation_of_no_column

/-- The order of rows depends on the number of entries and on the texts of the sorted column alone. -/
theorem InOrder.of_cells (ordered : InOrder columns cache sort permutation)
    (sameLength : after.length = cache.length)
    (sameCells : ∀ index column, sort.sortedColumn? columns = some (index, column) →
      ∀ place, after.cellAt index place = cache.cellAt index place) :
    InOrder columns after sort permutation := by
  refine ⟨sameLength ▸ ordered.shows, fun index column sorted => ?_, fun unsorted => ?_⟩
  · simp only [sameCells index column sorted]
    exact ordered.chain index column sorted
  · rw [sameLength]
    exact ordered.unsorted unsorted

theorem InOrder.of_fields (ordered : InOrder columns cache sort permutation)
    (same : after.map Entry.fields = cache.map Entry.fields) :
    InOrder columns after sort permutation := by
  have sameLength : after.length = cache.length := by simpa using congrArg List.length same
  exact ordered.of_cells sameLength fun index _ _ place => Cache.cellAt_eq_of_fields same index place

theorem InOrder.of_unsorted (ordered : InOrder columns cache sort permutation)
    (unsorted : sort.column = none) (sameLength : after.length = cache.length) :
    InOrder columns after sort permutation := by
  refine ordered.of_cells sameLength fun index column sorted => ?_
  rw [SortState.sortedColumn?_eq_some_iff, unsorted] at sorted
  cases sorted.1

end

namespace ListView

variable {schema : Schema Item} {view after : ListView}

def Ordered (schema : Schema Item) (view : ListView) : Prop :=
  InOrder schema.columns view.cache view.sort view.permutation

theorem ordered_new (schema : Schema Item) (cadence : Cadence) : (new schema cadence).Ordered schema where
  shows := Permutation.shows_identity 0
  chain _ _ _ := .nil
  unsorted _ := rfl

theorem RowsKept.ordered (kept : RowsKept schema view after) (ordered : view.Ordered schema) :
    after.Ordered schema := by
  unfold Ordered at ordered ⊢
  cases kept with
  | still cache sort permutation =>
    rw [cache, sort, permutation]
    exact ordered
  | marked cache sort permutation =>
    rw [cache, sort, permutation]
    exact ordered.of_fields (Cache.fields_invalidate view.cache)
  | sorted cache permutation =>
    rw [cache, permutation]
    exact inOrder_sortPermutation ordered.shows

-- Where a refresh leaves the permutation, the report vouches for the texts of all entries, or no column
-- is sorted and only the number of entries matters.
theorem RowsRefreshed.ordered {collection : Collection Item}
    (refreshed : RowsRefreshed schema collection view after) (ordered : view.Ordered schema) :
    after.Ordered schema := by
  unfold Ordered at ordered ⊢
  rw [refreshed.sort]
  rcases refreshed.permutation with resorted | ⟨settled, sameSize, unmoved⟩
  · rw [resorted]
    exact inOrder_sortPermutation ordered.shows
  · rw [settled, refreshed.cache]
    rcases unmoved with unchanged | noColumn
    · exact ordered.of_fields (Cache.fields_synchronize schema view.cache collection sameSize unchanged)
    · refine ordered.of_unsorted noColumn ?_
      rw [Cache.length_synchronize, Cache.length_eq_of_not_sizeChanged schema view.cache collection sameSize]

theorem Ordered.perform (ordered : view.Ordered schema) (operation : Operation Item) :
    (view.perform schema operation).Ordered schema := by
  rcases view.perform_rows schema operation with kept | ⟨collection, refreshed⟩
  · exact kept.ordered ordered
  · exact refreshed.ordered ordered

theorem Ordered.run (ordered : view.Ordered schema) (operations : List (Operation Item)) :
    (view.run schema operations).Ordered schema := by
  induction operations generalizing view with
  | nil => exact ordered
  | cons operation rest ih => exact ih (ordered.perform operation)

theorem cellText_eq_cellAt {row index : Nat} (shown : view.permutation.cacheIndex? row = some index)
    (column : Nat) : view.cellText row column = view.cache.cellAt column index := by
  rw [cellText, entryAt?, shown, Option.bind_some, Cache.cellAt]
  cases view.cache[index]? <;> rfl

/-- After any run of operations each entry is shown in one row, which row is known both ways, rows of a
sorted column do not descend whether or not their cells can be read, and rows that are not sorted stand
as in the cache. -/
theorem run_new_rows_in_order (schema : Schema Item) (cadence : Cadence)
    (operations : List (Operation Item)) :
    let view := (new schema cadence).run schema operations
    view.permutation.isBijection view.cache.length = true ∧
    (∀ index row, view.permutation.row? index = some row ↔
      view.permutation.cacheIndex? row = some index) ∧
    (∀ index column, view.sort.column = some index → schema.columns[index]? = some column →
      ∀ row, row + 1 < view.rowCount →
        Cell.order column.kind (view.cellText row index) (view.cellText (row + 1) index)
          view.sort.direction ≠ .gt) ∧
    ((∀ index, view.sort.column = some index → schema.columns.length ≤ index) →
      view.permutation = .identity view.cache.length) := by
  intro view
  have ordered : view.Ordered schema := (ordered_new schema cadence).run operations
  refine ⟨Permutation.isBijection_iff.2 ordered.shows, fun index row => ordered.shows.row?_eq_some_iff,
    fun index column isColumn isAt row inside => ?_,
    fun unsorted => ordered.unsorted (SortState.sortedColumn?_eq_none unsorted)⟩
  have sorted := SortState.sortedColumn?_eq_some_iff.2 ⟨isColumn, isAt⟩
  have neighbours := List.isChain_iff_getElem.1 (ordered.chain index column sorted) row inside
  rw [cellText_eq_cellAt (List.getElem?_eq_getElem (Nat.lt_of_succ_lt inside)),
    cellText_eq_cellAt (List.getElem?_eq_getElem inside)]
  exact neighbours

end ListView
end ComputeMonitor.Table
