import ComputeMonitor.Proofs.Table.Selection
import Mathlib.Data.List.Sort

/-!
Selections that lie within their table.

A selection that was found by keys lies within the table whatever it was before, since only rows are found.
From there on it moves in steps that are held within the rows. A selection within a table of unique keys is
found again as it was.
-/

set_option autoImplicit false

namespace ComputeMonitor.Table

theorem RowKey.agrees_self (keyMatch : KeyMatch) (key : RowKey) : key.agrees keyMatch key = true := by
  cases keyMatch with
  | both => exact BEq.rfl
  | primaryOnly => exact BEq.rfl

theorem RowSet.eq_of_mem_iff {left right : RowSet} (same : ∀ row, row ∈ left.rows ↔ row ∈ right.rows) :
    left = right := by
  have rows : left.rows = right.rows := left.sorted.eq_of_mem_iff right.sorted same
  cases left
  cases right
  cases rows
  rfl

/-- Selected rows and the cursor are rows of a table, and so is the first visible row; without rows it is the
first one there could be. -/
structure Selection.Inside (rowCount : Nat) (selection : Selection) : Prop where
  selected : ∀ row ∈ selection.selected.rows, row < rowCount
  cursor : ∀ row, selection.cursor = some row → row < rowCount
  top : selection.scrollTop < rowCount ∨ rowCount = 0 ∧ selection.scrollTop = 0

namespace Selection

variable {rowCount : Nat} {selection : Selection}

theorem inside_nothing : Selection.Inside 0 {} where
  selected _ member := nomatch member
  cursor _ isCursor := nomatch isCursor
  top := .inr ⟨rfl, rfl⟩

theorem Inside.setCursor (inside : selection.Inside rowCount) {cursor : Option Nat}
    (bound : ∀ row, cursor = some row → row < rowCount) :
    Inside rowCount { selection with cursor } :=
  ⟨inside.selected, bound, inside.top⟩

theorem Inside.moveCursor (inside : selection.Inside rowCount) (delta : Int) :
    (selection.moveCursor delta rowCount).Inside rowCount := by
  refine inside.setCursor fun row isCursor => ?_
  unfold movedCursor at isCursor
  split at isCursor
  next => cases isCursor
  next nonempty =>
    split at isCursor
    next =>
      obtain rfl := Option.some.inj isCursor
      exact Nat.pos_of_ne_zero nonempty
    next =>
      obtain rfl := Option.some.inj isCursor
      omega

theorem Inside.toggle (inside : selection.Inside rowCount) {row : Nat} (bound : row < rowCount) :
    (selection.toggle row).Inside rowCount := by
  refine ⟨fun other member => ?_, ?_, ?_⟩ <;> unfold Selection.toggle at *
  · split at member
    next => exact inside.selected other (RowSet.mem_rows_filter.1 member).1
    next =>
      rcases RowSet.mem_rows_insert.1 member with rfl | before
      · exact bound
      · exact inside.selected other before
  · split <;> exact inside.cursor
  · split <;> exact inside.top

theorem Inside.clear (inside : selection.Inside rowCount) : selection.clear.Inside rowCount where
  selected _ member := nomatch member
  cursor _ isCursor := nomatch isCursor
  top := inside.top

theorem Inside.scrollToCursor (inside : selection.Inside rowCount) (height : Nat) :
    (selection.scrollToCursor height).Inside rowCount := by
  unfold Selection.scrollToCursor
  cases isCursor : selection.cursor with
  | none => exact inside
  | some cursor =>
    -- The first visible row is the cursor or a row above it, unless it stays.
    have bound := inside.cursor cursor isCursor
    dsimp only
    split
    · exact ⟨inside.selected, isCursor ▸ inside.cursor, .inl bound⟩
    · split
      · exact ⟨inside.selected, isCursor ▸ inside.cursor, .inl (by dsimp only; omega)⟩
      · exact inside

theorem cursor_scrollToCursor (selection : Selection) (height : Nat) :
    (selection.scrollToCursor height).cursor = selection.cursor := by
  unfold Selection.scrollToCursor
  cases isCursor : selection.cursor with
  | none => exact isCursor
  | some cursor =>
    dsimp only
    split
    · rfl
    · split
      · rfl
      · exact isCursor

theorem scrollToCursor_shows {height row : Nat} (isCursor : selection.cursor = some row) :
    (selection.scrollToCursor height).scrollTop ≤ row ∧
      row < (selection.scrollToCursor height).scrollTop + max height 1 := by
  unfold Selection.scrollToCursor
  rw [isCursor]
  dsimp only
  split
  · dsimp only
    omega
  · split
    · dsimp only
      omega
    · omega

end Selection

/-- Whatever keys were taken down, the rows that are found for them are rows of the table. -/
theorem SelectionKeys.inside_restore {permutation : Permutation} {cache : Cache} (keys : SelectionKeys)
    (shows : permutation.Shows cache.length) (keyMatch : KeyMatch) :
    (keys.restore permutation cache keyMatch).Inside permutation.length where
  selected row member := by
    obtain ⟨_, -, found⟩ := List.mem_filterMap.1 (RowSet.mem_ofList.1 member)
    exact findRow?_lt shows found
  cursor row isCursor := by
    obtain ⟨_, -, found⟩ := Option.bind_eq_some_iff.1 isCursor
    exact findRow?_lt shows found
  top := by
    unfold SelectionKeys.restore
    dsimp only
    cases found : keys.scrollAnchor.bind (findRow? permutation cache keyMatch) with
    | some row =>
      obtain ⟨_, -, found⟩ := Option.bind_eq_some_iff.1 found
      exact .inl (findRow?_lt shows found)
    | none =>
      rw [Option.getD_none]
      omega

variable {Item : Type}

/-- Whether an operation changes the selection row by row, which may lead it anywhere. -/
def Operation.selects : Operation Item → Bool
  | .adjust (.select _) => true
  | _ => false

namespace ListView

variable {schema : Schema Item} {view : ListView}

theorem sameItem_self_iff (ordered : view.Ordered schema) (unique : view.cache.UniqueKeys schema.keyMatch)
    {old row : Nat} : SameItem schema.keyMatch view old view row ↔ old = row ∧ row < view.rowCount := by
  rw [sameItem_iff_findRow? ordered unique]
  have found {key : RowKey} (keyAt : view.rowKey? old = some key) :
      view.findRow? schema key = some old := by
    rw [rowKey?_eq_keyAt?] at keyAt
    exact (findRow?_eq_some_iff ordered.shows unique).2 ⟨key, keyAt, key.agrees_self schema.keyMatch⟩
  constructor
  · rintro ⟨key, keyAt, isRow⟩
    exact ⟨Option.some.inj ((found keyAt).symm.trans isRow), findRow?_lt ordered.shows isRow⟩
  · rintro ⟨rfl, inside⟩
    have shown := List.getElem?_eq_getElem inside
    have bound : view.permutation.order[old] < view.cache.length :=
      ordered.shows.mem_iff.1 (List.getElem_mem inside)
    have keyAt : view.rowKey? old = some view.cache[view.permutation.order[old]].key := by
      rw [rowKey?_eq_keyAt?, keyAt?_eq_some_iff]
      exact ⟨_, _, shown, List.getElem?_eq_getElem bound, rfl⟩
    exact ⟨_, keyAt, found keyAt⟩

/-- A selection that has followed its items through nothing at all is the one that it was. -/
theorem SelectionFollows.selection_eq {after : ListView} (follows : SelectionFollows schema.keyMatch view after)
    (same : ∀ old row, SameItem schema.keyMatch view old after row ↔ old = row ∧ row < view.rowCount)
    (inside : view.selection.Inside view.rowCount) : after.selection = view.selection := by
  have selected : after.selection.selected = view.selection.selected := by
    refine RowSet.eq_of_mem_iff fun row => ?_
    rw [follows.selected]
    constructor
    · rintro ⟨old, member, isSame⟩
      exact ((same old row).1 isSame).1 ▸ member
    · intro member
      exact ⟨row, member, (same row row).2 ⟨rfl, inside.selected row member⟩⟩
  have cursor : after.selection.cursor = view.selection.cursor := by
    refine Option.ext fun row => ?_
    rw [follows.cursor]
    constructor
    · rintro ⟨old, isCursor, isSame⟩
      exact ((same old row).1 isSame).1 ▸ isCursor
    · intro isCursor
      exact ⟨row, isCursor, (same row row).2 ⟨rfl, inside.cursor row isCursor⟩⟩
  have top : after.selection.scrollTop = view.selection.scrollTop := by
    rcases inside.top with bound | ⟨empty, isTop⟩
    · exact follows.top_found _ ((same _ _).2 ⟨rfl, bound⟩)
    · -- Without rows there is nothing to be found, and the view stays where it is.
      have gone (row : Nat) : ¬ SameItem schema.keyMatch view view.selection.scrollTop after row := by
        intro isSame
        have := ((same _ _).1 isSame).2
        omega
      rw [follows.top_gone gone, isTop, Nat.zero_min]
  calc after.selection
    _ = ⟨after.selection.selected, after.selection.cursor, after.selection.scrollTop⟩ := rfl
    _ = view.selection := by rw [selected, cursor, top]

theorem restore_capture (ordered : view.Ordered schema) (unique : view.cache.UniqueKeys schema.keyMatch)
    (inside : view.selection.Inside view.rowCount) :
    view.capture.restore view.permutation view.cache schema.keyMatch = view.selection := by
  have follows : SelectionFollows schema.keyMatch view (restore schema view view.capture) :=
    selectionFollows_of_restored ordered unique rfl
  exact follows.selection_eq (fun _ _ => sameItem_self_iff ordered unique) inside

/-- Rows fit the cache, and the selection lies within the rows. -/
structure InBounds (schema : Schema Item) (view : ListView) : Prop where
  ordered : view.Ordered schema
  inside : view.selection.Inside view.rowCount

theorem inBounds_new (schema : Schema Item) (cadence : Cadence) : (new schema cadence).InBounds schema :=
  ⟨ordered_new schema cadence, Selection.inside_nothing⟩

/-- Bringing rows in order finds the selection again within them, also one that was not. -/
theorem inBounds_of_reorders (ordered : view.Ordered schema) {operation : Operation Item}
    (reorders : operation.Reorders schema view) : (view.perform schema operation).InBounds schema := by
  have reordered := ordered.perform operation
  refine ⟨reordered, ?_⟩
  rw [selection_perform reorders]
  exact SelectionKeys.inside_restore _ reordered.shows schema.keyMatch

theorem perform_keeps_selection {operation : Operation Item} (still : ¬ operation.Reorders schema view)
    (byKeys : operation.selects = false) :
    (view.perform schema operation).permutation = view.permutation ∧
      (view.perform schema operation).selection = view.selection := by
  cases operation with
  | tick now link =>
    rw [ListView.perform]
    cases begun : view.tick? now link with
    | none => exact ⟨rfl, rfl⟩
    | some after =>
      obtain ⟨schedule, rfl, -, -⟩ := view.tick?_eq_some begun
      exact ⟨rfl, rfl⟩
  | fetchFailed =>
    obtain ⟨schedule, same⟩ := view.fetchFailed_eq
    rw [ListView.perform, same]
    exact ⟨rfl, rfl⟩
  | fetchComplete collection =>
    rw [ListView.perform, view.fetchComplete_of_not_polling schema still]
    exact ⟨rfl, rfl⟩
  | adjust adjustment =>
    cases adjustment with
    | activateHeader column =>
      -- Of the headings only one beyond the last column does not sort.
      have beyond : ¬ column < schema.columns.length := still
      rw [ListView.perform, adjust, activateHeader, if_neg beyond]
      exact ⟨rfl, rfl⟩
    | applySort | applyLayout => exact (still trivial).elim
    | select => cases byKeys
    | invalidate | setColumnWidth | forceRefresh | setCadence | setDiagnosticsOpen => exact ⟨rfl, rfl⟩

namespace InBounds

variable (inBounds : view.InBounds schema)
include inBounds

theorem perform (operation : Operation Item) (byKeys : operation.selects = false) :
    (view.perform schema operation).InBounds schema := by
  -- Either the selection is found again by keys, or neither it nor the rows have moved.
  by_cases reorders : operation.Reorders schema view
  · exact inBounds_of_reorders inBounds.ordered reorders
  · obtain ⟨permutation, selection⟩ := perform_keeps_selection reorders byKeys
    refine ⟨inBounds.ordered.perform operation, ?_⟩
    rw [rowCount, permutation, selection]
    exact inBounds.inside

theorem select {change : Selection → Selection} (inside : (change view.selection).Inside view.rowCount) :
    (view.select change).InBounds schema :=
  ⟨inBounds.ordered.perform (.adjust (.select change)), inside⟩

theorem moveCursor (delta : Int) : (view.moveCursor delta).InBounds schema :=
  inBounds.select (inBounds.inside.moveCursor delta)

theorem scrollToCursor (height : Nat) : (view.select (·.scrollToCursor height)).InBounds schema :=
  inBounds.select (inBounds.inside.scrollToCursor height)

theorem setCursor {cursor : Option Nat} (bound : ∀ row, cursor = some row → row < view.rowCount) :
    (view.setCursor cursor).InBounds schema :=
  ⟨inBounds.ordered.perform (.adjust (.select fun selection => { selection with cursor })),
    inBounds.inside.setCursor bound⟩

theorem cursorToStart : view.cursorToStart.InBounds schema := by
  apply inBounds.setCursor
  intro row isCursor
  split at isCursor
  next => cases isCursor
  next =>
    cases isCursor
    omega

theorem cursorToEnd : view.cursorToEnd.InBounds schema := by
  apply inBounds.setCursor
  intro row isCursor
  split at isCursor
  next => cases isCursor
  next =>
    cases isCursor
    omega

theorem toggleCursorSelection : view.toggleCursorSelection.InBounds schema := by
  unfold ListView.toggleCursorSelection
  cases isCursor : view.selection.cursor with
  | none => exact inBounds
  | some row => exact inBounds.select (inBounds.inside.toggle (inBounds.inside.cursor row isCursor))

end InBounds

end ListView
end ComputeMonitor.Table
