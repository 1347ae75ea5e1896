import ComputeMonitor.Proofs.Table.Selection

/-!
Tied rows across a refresh.

The order shown before a refresh is carried over by cache index. An item that comes to stand at another
index takes over the place of the item that was shown there, so that tied items keep their order just
when the places that they take over are in this order.
-/

set_option autoImplicit false

namespace ComputeMonitor.Table.ListView

variable {Item : Type} {schema : Schema Item} {view after : ListView} {collection : Collection Item}

/-- After a refresh rows are ordered by their cells, and tied rows by the places that their indices had
in the order before. -/
theorem RowsRefreshed.pairwise_precedes (refreshed : RowsRefreshed schema collection view after)
    (ordered : view.Ordered schema) {index : Nat} {column : Column}
    (sorted : view.sort.sortedColumn? schema.columns = some (index, column))
    (readable : AllReadable after.cache column index) :
    after.permutation.order.Pairwise
      (Precedes after.cache column index view.sort.direction view.permutation) := by
  rcases refreshed.permutation with resorted | ⟨settled, -, -⟩
  · rw [resorted]
    exact sortPermutation_pairwise ordered.shows sorted readable
  · -- Without a new sort the rows stand in an order that is still right, each at its own place.
    have orderedAfter : after.Ordered schema := refreshed.ordered ordered
    unfold Ordered at orderedAfter
    rw [refreshed.sort, settled] at orderedAfter
    rw [settled]
    exact precedes_of_isChain orderedAfter.shows readable (orderedAfter.chain index column sorted)

theorem RowsRefreshed.row_lt_iff_rank_lt (refreshed : RowsRefreshed schema collection view after)
    (ordered : view.Ordered schema) {index : Nat} {column : Column}
    (sorted : view.sort.sortedColumn? schema.columns = some (index, column))
    (readable : AllReadable after.cache column index) {first second firstRow secondRow : Nat}
    (different : first ≠ second) (firstShown : after.permutation.cacheIndex? firstRow = some first)
    (secondShown : after.permutation.cacheIndex? secondRow = some second)
    (tied : Cell.order column.kind (after.cellText firstRow index) (after.cellText secondRow index)
      view.sort.direction = .eq) :
    firstRow < secondRow ↔ view.permutation.rank first < view.permutation.rank second := by
  have shows := (refreshed.ordered ordered).shows
  rw [cellText_eq_cellAt firstShown, cellText_eq_cellAt secondShown] at tied
  rw [shows.row_lt_iff (refreshed.pairwise_precedes ordered sorted readable) Precedes.asymmetric
    (shows.row?_eq_some_iff.2 firstShown) (shows.row?_eq_some_iff.2 secondShown) different]
  simp only [Precedes, tied, reduceCtorEq, true_and, false_or]

theorem SameItem.row_eq (ordered : view.Ordered schema) (unique : view.cache.UniqueKeys schema.keyMatch)
    {first second now : Nat} (firstSame : SameItem schema.keyMatch view first after now)
    (secondSame : SameItem schema.keyMatch view second after now) : first = second := by
  obtain ⟨firstKey, key, firstKeyAt, keyAt, firstAgrees⟩ := firstSame
  obtain ⟨secondKey, other, secondKeyAt, otherAt, secondAgrees⟩ := secondSame
  obtain rfl : key = other := Option.some.inj (keyAt.symm.trans otherAt)
  rw [rowKey?_eq_keyAt?] at firstKeyAt secondKeyAt
  obtain ⟨index, entry, shown, isAt, rfl⟩ := keyAt?_eq_some_iff.1 firstKeyAt
  obtain ⟨otherIndex, otherEntry, otherShown, otherIsAt, rfl⟩ := keyAt?_eq_some_iff.1 secondKeyAt
  rw [RowKey.agrees_comm] at firstAgrees
  obtain rfl := unique.index_eq isAt otherIsAt (RowKey.agrees_trans _ firstAgrees secondAgrees)
  have firstRow := ordered.shows.row?_eq_some_iff.2 shown
  rw [ordered.shows.row?_eq_some_iff.2 otherShown] at firstRow
  exact (Option.some.inj firstRow).symm

/-- Two items that are shown before and after a refresh, in rows of a column where their cells compare
equal both times. -/
structure TiedItems (keyMatch : KeyMatch) (view after : ListView) (column : Column) (index : Nat)
    (first second firstNow secondNow : Nat) : Prop where
  different : first ≠ second
  first_same : SameItem keyMatch view first after firstNow
  second_same : SameItem keyMatch view second after secondNow
  tied : Cell.order column.kind (view.cellText first index) (view.cellText second index)
    view.sort.direction = .eq
  tied_now : Cell.order column.kind (after.cellText firstNow index) (after.cellText secondNow index)
    view.sort.direction = .eq

/-- A table is sorted by a column whose cells can be read before and after a step, and its keys are
unique before and after. -/
structure SortedThrough (schema : Schema Item) (view after : ListView) (column : Column) (index : Nat) :
    Prop where
  isColumn : view.sort.column = some index
  isAt : schema.columns[index]? = some column
  readable : AllReadable view.cache column index
  readable_now : AllReadable after.cache column index
  unique : view.cache.UniqueKeys schema.keyMatch
  unique_now : after.cache.UniqueKeys schema.keyMatch

def KeepsTiedRows (schema : Schema Item) (view after : ListView) : Prop :=
  ∀ column index, SortedThrough schema view after column index →
    ∀ first second firstNow secondNow,
      TiedItems schema.keyMatch view after column index first second firstNow secondNow →
        (first < second ↔ firstNow < secondNow)

/-- Two tied items keep their order across a refresh exactly if the places that they take over stand in
this order: the places before of the indices that they are at now. -/
theorem run_new_tied_rows_keep_order_iff (schema : Schema Item) (cadence : Cadence)
    (operations : List (Operation Item)) (collection : Collection Item) (column : Column) (index : Nat) :
    let view := (new schema cadence).run schema operations
    let after := (view.fetchComplete schema collection).1
    view.schedule.phase = .polling → SortedThrough schema view after column index →
      ∀ first second firstNow secondNow,
        TiedItems schema.keyMatch view after column index first second firstNow secondNow →
        ∃ firstIndex secondIndex,
          after.permutation.cacheIndex? firstNow = some firstIndex ∧
          after.permutation.cacheIndex? secondNow = some secondIndex ∧
          ((first < second ↔ firstNow < secondNow) ↔
            (first < second ↔ view.permutation.rank firstIndex < view.permutation.rank secondIndex)) := by
  intro view after polling sortedThrough first second firstNow secondNow tiedItems
  have ordered : view.Ordered schema := (ordered_new schema cadence).run operations
  have refreshed := view.fetchComplete_rows schema polling collection
  have sorted := SortState.sortedColumn?_eq_some_iff.2 ⟨sortedThrough.isColumn, sortedThrough.isAt⟩
  obtain ⟨-, firstKey, -, firstKeyAt, -⟩ := tiedItems.first_same
  obtain ⟨-, secondKey, -, secondKeyAt, -⟩ := tiedItems.second_same
  rw [rowKey?_eq_keyAt?] at firstKeyAt secondKeyAt
  obtain ⟨firstIndex, -, firstShown, -, -⟩ := keyAt?_eq_some_iff.1 firstKeyAt
  obtain ⟨secondIndex, -, secondShown, -, -⟩ := keyAt?_eq_some_iff.1 secondKeyAt
  -- Two items keep apart: with one index now they would have one key, and had one row before.
  have different : firstIndex ≠ secondIndex := by
    rintro rfl
    have shows := (refreshed.ordered ordered).shows
    have sameRow := shows.row?_eq_some_iff.2 firstShown
    rw [shows.row?_eq_some_iff.2 secondShown] at sameRow
    obtain rfl := Option.some.inj sameRow
    exact tiedItems.different
      (tiedItems.first_same.row_eq ordered sortedThrough.unique tiedItems.second_same)
  refine ⟨firstIndex, secondIndex, firstShown, secondShown, ?_⟩
  rw [refreshed.row_lt_iff_rank_lt ordered sorted sortedThrough.readable_now different firstShown secondShown
    tiedItems.tied_now]

section Letters

/-- Three letters of one group, sorted by letter and then by group, with a poll under way. -/
def lettersInOneGroup : ListView :=
  (new letterSchema {}).run letterSchema <| letterRefresh 0 [('b', 1), ('a', 1), ('c', 1)] ++
    [.adjust (.applySort ⟨some 0, .ascending⟩), .adjust (.applySort ⟨some 1, .ascending⟩),
      .tick 1000 .connected]

def lettersWithoutFirst : ListView :=
  (lettersInOneGroup.fetchComplete letterSchema (.ofList [('a', 1), ('c', 1)])).1

theorem letters_sortedThrough :
    SortedThrough letterSchema lettersInOneGroup lettersWithoutFirst ⟨"group", "Group", .number, 8⟩ 1 where
  isColumn := by decide +kernel
  isAt := rfl
  readable := by decide +kernel
  readable_now := by decide +kernel
  unique := by decide +kernel
  unique_now := by decide +kernel

theorem letters_tiedItems : TiedItems .primaryOnly lettersInOneGroup lettersWithoutFirst
    ⟨"group", "Group", .number, 8⟩ 1 0 2 1 0 where
  different := by decide
  first_same := ⟨⟨"a", ""⟩, ⟨"a", ""⟩, by decide +kernel⟩
  second_same := ⟨⟨"c", ""⟩, ⟨"c", ""⟩, by decide +kernel⟩
  tied := by decide +kernel
  tied_now := by decide +kernel

theorem letters_keep_order_iff : ∃ firstIndex secondIndex,
    lettersWithoutFirst.permutation.cacheIndex? 1 = some firstIndex ∧
    lettersWithoutFirst.permutation.cacheIndex? 0 = some secondIndex ∧
    (((0 : Nat) < 2 ↔ (1 : Nat) < 0) ↔ ((0 : Nat) < 2 ↔
      lettersInOneGroup.permutation.rank firstIndex < lettersInOneGroup.permutation.rank secondIndex)) :=
  run_new_tied_rows_keep_order_iff letterSchema {} _ _ ⟨"group", "Group", .number, 8⟩ 1 (by decide +kernel)
    letters_sortedThrough 0 2 1 0 letters_tiedItems

/-- A refresh that removes an item can turn two tied rows round. -/
theorem letters_tied_rows_swapped : lettersInOneGroup.schedule.phase = .polling ∧
    ¬ KeepsTiedRows letterSchema lettersInOneGroup lettersWithoutFirst := by
  refine ⟨by decide +kernel, fun keeps => ?_⟩
  have kept := keeps _ _ letters_sortedThrough 0 2 1 0 letters_tiedItems
  exact absurd (kept.1 (by decide)) (by decide)

end Letters

end ComputeMonitor.Table.ListView
