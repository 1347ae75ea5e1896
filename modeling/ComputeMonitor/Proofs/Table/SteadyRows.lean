import ComputeMonitor.Proofs.Table.RowOrder

/-!
Rows that a refresh leaves in their places.

Cells that cannot be read tie with all others, so that the cells alone do not tell an order, and another
order without a descent may be as good. A refresh that leaves the texts of the sorted column keeps every
row nevertheless: the order shown has no descent, and a list without a descent is one run to the sort.
-/

set_option autoImplicit false

namespace ComputeMonitor.Table

variable {Item : Type} {columns : List Column} {cache : Cache} {sort : SortState}
  {permutation : Permutation}

theorem Cache.cellAt_eq_of_below {before after : Cache} {column : Nat}
    (sameLength : after.length = before.length)
    (same : ∀ place, place < before.length → after.cellAt column place = before.cellAt column place)
    (place : Nat) : after.cellAt column place = before.cellAt column place := by
  by_cases inside : place < before.length
  · exact same place inside
  · rw [cellAt, cellAt, List.getElem?_eq_none (by omega), List.getElem?_eq_none (by omega)]

/-- Rows that are in order stay in their places when they are sorted again. -/
theorem InOrder.sortPermutation_eq (ordered : InOrder columns cache sort permutation) :
    sortPermutation cache columns sort permutation = permutation := by
  cases sorted : sort.sortedColumn? columns with
  | none =>
    rw [sortPermutation_of_no_column sorted, ordered.unsorted sorted]
  | some found =>
    obtain ⟨index, column⟩ := found
    rw [sortPermutation_of_column sorted, ordered.shows.carriedOver_self]
    have chain := ordered.chain index column sorted
    have noDescent : permutation.order.IsChain fun left right =>
        keyOrder (columnKeys cache column.kind index) sort.direction left right ≠ .gt := by
      refine chain.imp_of_mem_imp fun left right leftMember rightMember notGreater => ?_
      rw [keyOrder_columnKeys _ _ (ordered.shows.mem_iff.1 leftMember)
        (ordered.shows.mem_iff.1 rightMember)]
      exact notGreater
    rw [sortBy_of_isChain noDescent]

namespace ListView

variable {schema : Schema Item} {view after : ListView} {collection : Collection Item}

/-- A refresh that leaves the number of entries and the texts of the sorted column leaves the rows,
whether or not they are sorted again. -/
theorem RowsRefreshed.permutation_eq (refreshed : RowsRefreshed schema collection view after)
    (ordered : view.Ordered schema) (sameLength : after.cache.length = view.cache.length)
    (sameCells : ∀ index column, view.sort.sortedColumn? schema.columns = some (index, column) →
      ∀ place, place < view.cache.length →
        after.cache.cellAt index place = view.cache.cellAt index place) :
    after.permutation = view.permutation := by
  rcases refreshed.permutation with resorted | ⟨settled, -, -⟩
  · have inOrder : InOrder schema.columns after.cache view.sort view.permutation := by
      refine InOrder.of_cells ordered sameLength fun index column sorted => ?_
      exact Cache.cellAt_eq_of_below sameLength (sameCells index column sorted)
    rw [resorted, inOrder.sortPermutation_eq]
  · exact settled

/-- After any run of operations, a completed fetch that leaves the number of entries and, entry by entry,
the text of the sorted column leaves every row in its place; without a sorted column that the table has the
number of entries is enough. -/
theorem run_new_refresh_keeps_rows (schema : Schema Item) (cadence : Cadence)
    (operations : List (Operation Item)) (collection : Collection Item) :
    let view := (new schema cadence).run schema operations
    let after := (view.fetchComplete schema collection).1
    after.cache.length = view.cache.length →
      (∀ index column, view.sort.column = some index → schema.columns[index]? = some column →
        ∀ place, place < view.cache.length →
          after.cache.cellAt index place = view.cache.cellAt index place) →
      after.permutation = view.permutation := by
  intro view after sameLength sameCells
  by_cases polling : view.schedule.phase = .polling
  · have ordered : view.Ordered schema := (ordered_new schema cadence).run operations
    have refreshed := view.fetchComplete_rows schema polling collection
    apply refreshed.permutation_eq ordered sameLength
    intro index column sorted
    obtain ⟨isColumn, isAt⟩ := SortState.sortedColumn?_eq_some_iff.1 sorted
    exact sameCells index column isColumn isAt
  · have ignored := view.fetchComplete_of_not_polling schema polling collection
    exact congrArg (fun completed => completed.1.permutation) ignored

section Clocks

/-- Letters with a clock time, which may be one that cannot be read, and the number of their version. -/
def clockSchema : Schema (Char × String × UInt64) where
  columns := [⟨"letter", "Letter", .text, 8⟩, ⟨"clock", "Clock", .duration, 8⟩]
  rowKey item := ⟨item.1.toString, ""⟩
  changeToken item := item.2.2
  cell item
    | 0 => item.1.toString
    | _ => item.2.1

/-- Five letters sorted by their clock times, two of which cannot be read, with a poll under way. -/
def sortedClocks : List (Operation (Char × String × UInt64)) :=
  [.adjust (.activateHeader 1), .tick 0 .connected,
    .fetchComplete (.ofList
      [('a', "0:01:00", 0), ('c', "0:00:30", 0), ('b', "---", 0), ('e', "0:02:00", 0), ('d', "---", 0)]),
    .tick 1000 .connected]

theorem clocks_keep_rows :
    let view := (new clockSchema {}).run clockSchema sortedClocks
    let collection := Collection.ofList
      [('a', "0:01:00", 0), ('c', "0:00:30", 0), ('b', "---", 0), ('f', "0:02:00", 1), ('d', "---", 0)]
    let after := (view.fetchComplete clockSchema collection).1
    after.cache.length = view.cache.length ∧
      (∀ index column, view.sort.column = some index → clockSchema.columns[index]? = some column →
        ∀ place, place < view.cache.length →
          after.cache.cellAt index place = view.cache.cellAt index place) ∧
      view.permutation.order = [1, 0, 2, 3, 4] ∧ view.cellText 3 0 = "e" ∧ after.cellText 3 0 = "f" ∧
      after.permutation = view.permutation := by
  intro view collection after
  have sameLength : after.cache.length = view.cache.length := by decide +kernel
  have isSorted : view.sort.column = some 1 := by decide +kernel
  have sameClocks : ∀ place, place < view.cache.length →
      after.cache.cellAt 1 place = view.cache.cellAt 1 place := by decide +kernel
  have sameCells : ∀ index column, view.sort.column = some index →
      clockSchema.columns[index]? = some column → ∀ place, place < view.cache.length →
        after.cache.cellAt index place = view.cache.cellAt index place := by
    intro index column isColumn _
    obtain rfl : 1 = index := Option.some.inj (isSorted.symm.trans isColumn)
    exact sameClocks
  exact ⟨sameLength, sameCells, by decide +kernel, by decide +kernel, by decide +kernel,
    run_new_refresh_keeps_rows clockSchema {} sortedClocks collection sameLength sameCells⟩

end Clocks

end ListView
end ComputeMonitor.Table
