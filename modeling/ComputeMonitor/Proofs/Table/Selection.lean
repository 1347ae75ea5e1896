import ComputeMonitor.Proofs.Table.RowOrder

/-!
The selection stays with its items.

Rows are taken down as keys before the order of rows or the cache changes, and found by key after. If no
two entries match each other then, a row is found exactly for the keys that are still there, so that the
selection comes to lie on the rows of its items wherever these have moved.
-/

set_option autoImplicit false

namespace ComputeMonitor.Table

namespace RowKey

variable (keyMatch : KeyMatch)

theorem agrees_comm (left right : RowKey) : left.agrees keyMatch right = right.agrees keyMatch left := by
  cases keyMatch with
  | both => exact BEq.comm
  | primaryOnly => exact BEq.comm

theorem agrees_trans {first second third : RowKey} (before : first.agrees keyMatch second = true)
    (after : second.agrees keyMatch third = true) : first.agrees keyMatch third = true := by
  cases keyMatch with
  | both => exact BEq.trans before after
  | primaryOnly => exact BEq.trans before after

end RowKey

def Cache.UniqueKeys (keyMatch : KeyMatch) (cache : Cache) : Prop :=
  cache.Pairwise fun left right => left.key.agrees keyMatch right.key = false

instance (keyMatch : KeyMatch) (cache : Cache) : Decidable (cache.UniqueKeys keyMatch) :=
  inferInstanceAs (Decidable (List.Pairwise _ _))

theorem Cache.UniqueKeys.index_eq {keyMatch : KeyMatch} {cache : Cache}
    (unique : cache.UniqueKeys keyMatch) {left right : Nat} {leftEntry rightEntry : Entry}
    (leftAt : cache[left]? = some leftEntry) (rightAt : cache[right]? = some rightEntry)
    (agrees : leftEntry.key.agrees keyMatch rightEntry.key = true) : left = right := by
  obtain ⟨leftBound, rfl⟩ := List.getElem?_eq_some_iff.1 leftAt
  obtain ⟨rightBound, rfl⟩ := List.getElem?_eq_some_iff.1 rightAt
  have apart := List.pairwise_iff_getElem.1 unique
  rcases Nat.lt_trichotomy left right with less | same | greater
  · simp [apart left right leftBound rightBound less] at agrees
  · exact same
  · rw [RowKey.agrees_comm, apart right left rightBound leftBound greater] at agrees
    cases agrees

theorem RowSet.mem_ofList {rows : List Nat} {row : Nat} : row ∈ (ofList rows).rows ↔ row ∈ rows := by
  have inserted (set : RowSet) : row ∈ (rows.foldl insert set).rows ↔ row ∈ set.rows ∨ row ∈ rows := by
    induction rows generalizing set with
    | nil => simp
    | cons first rest ih =>
      rw [List.foldl_cons, ih, mem_rows_insert, List.mem_cons]
      constructor
      · rintro ((same | before) | later)
        · exact .inr (.inl same)
        · exact .inl before
        · exact .inr (.inr later)
      · rintro (before | same | later)
        · exact .inl (.inr before)
        · exact .inl (.inl same)
        · exact .inr later
  rw [ofList, inserted]
  exact or_iff_right List.not_mem_nil

section Finding

variable {permutation : Permutation} {cache : Cache} {keyMatch : KeyMatch} {key : RowKey} {row : Nat}

theorem keyAt?_eq_some_iff : keyAt? permutation cache row = some key ↔
    ∃ index entry, permutation.cacheIndex? row = some index ∧ cache[index]? = some entry ∧
      entry.key = key := by
  simp only [keyAt?, Option.bind_eq_some_iff, Option.map_eq_some_iff, exists_and_left]

theorem findIdx?_eq_some_of_unique (unique : cache.UniqueKeys keyMatch) {index : Nat} {entry : Entry}
    (isAt : cache[index]? = some entry) (agrees : entry.key.agrees keyMatch key = true) :
    (cache.findIdx? fun entry => entry.key.agrees keyMatch key) = some index := by
  cases found : cache.findIdx? fun entry => entry.key.agrees keyMatch key with
  | none =>
    have absent := List.findIdx?_eq_none_iff.1 found entry (List.mem_of_getElem? isAt)
    rw [agrees] at absent
    cases absent
  | some other =>
    -- The search stops at the first match, which is the only one.
    obtain ⟨bound, otherAgrees, -⟩ := List.findIdx?_eq_some_iff_getElem.1 found
    rw [RowKey.agrees_comm] at agrees
    have same := unique.index_eq (List.getElem?_eq_getElem bound) isAt
      (RowKey.agrees_trans keyMatch otherAgrees agrees)
    rw [same]

theorem findRow?_eq_some_iff (shows : permutation.Shows cache.length)
    (unique : cache.UniqueKeys keyMatch) : findRow? permutation cache keyMatch key = some row ↔
      ∃ other, keyAt? permutation cache row = some other ∧ other.agrees keyMatch key = true := by
  rw [findRow?, Option.bind_eq_some_iff]
  constructor
  · rintro ⟨index, found, isRow⟩
    obtain ⟨bound, agrees, -⟩ := List.findIdx?_eq_some_iff_getElem.1 found
    exact ⟨cache[index].key, keyAt?_eq_some_iff.2 ⟨index, cache[index], shows.row?_eq_some_iff.1 isRow,
      List.getElem?_eq_getElem bound, rfl⟩, agrees⟩
  · rintro ⟨other, keyAt, agrees⟩
    obtain ⟨index, entry, shown, isAt, rfl⟩ := keyAt?_eq_some_iff.1 keyAt
    exact ⟨index, findIdx?_eq_some_of_unique unique isAt agrees, shows.row?_eq_some_iff.2 shown⟩

theorem findRow?_lt (shows : permutation.Shows cache.length)
    (found : findRow? permutation cache keyMatch key = some row) : row < permutation.length := by
  obtain ⟨index, -, isRow⟩ := Option.bind_eq_some_iff.1 found
  exact shows.length_eq ▸ shows.row_lt isRow

end Finding

variable {Item : Type}

def Operation.Reorders (schema : Schema Item) (view : ListView) : Operation Item → Prop
  | .adjust (.activateHeader column) => column < schema.columns.length
  | .adjust (.applySort _) => True
  | .adjust (.applyLayout _) => True
  | .fetchComplete _ => view.schedule.phase = .polling
  | _ => False

namespace ListView

/-- A row of one state of a table and a row of another show the same item. -/
def SameItem (keyMatch : KeyMatch) (before : ListView) (row : Nat) (after : ListView) (rowNow : Nat) :
    Prop :=
  ∃ key keyNow, before.rowKey? row = some key ∧ after.rowKey? rowNow = some keyNow ∧
    keyNow.agrees keyMatch key = true

/-- A selection has stayed with its items; what it was on otherwise is dropped, and a view whose first
row is gone stays at its place or at the last row. -/
structure SelectionFollows (keyMatch : KeyMatch) (before after : ListView) : Prop where
  selected : ∀ row, row ∈ after.selection.selected.rows ↔
    ∃ old ∈ before.selection.selected.rows, SameItem keyMatch before old after row
  cursor : ∀ row, after.selection.cursor = some row ↔
    ∃ old, before.selection.cursor = some old ∧ SameItem keyMatch before old after row
  top_found : ∀ row, SameItem keyMatch before before.selection.scrollTop after row →
    after.selection.scrollTop = row
  top_gone : (∀ row, ¬ SameItem keyMatch before before.selection.scrollTop after row) →
    after.selection.scrollTop = min before.selection.scrollTop (after.rowCount - 1)
  selected_inside : ∀ row ∈ after.selection.selected.rows, row < after.rowCount
  cursor_inside : ∀ row, after.selection.cursor = some row → row < after.rowCount
  top_inside : 0 < after.rowCount → after.selection.scrollTop < after.rowCount

variable {schema : Schema Item} {view : ListView}

theorem rowKey?_eq_keyAt? (view : ListView) (row : Nat) :
    view.rowKey? row = keyAt? view.permutation view.cache row := by
  rw [rowKey?, entryAt?, keyAt?, Option.map_bind]
  rfl

theorem selection_synchronize (schema : Schema Item) (view : ListView) (collection : Collection Item) :
    let after := (synchronize schema view collection).1
    after.selection = view.capture.restore after.permutation after.cache schema.keyMatch := by
  simp only [synchronize]
  split <;> rfl

/-- An operation that reorders rows finds the selection again by the keys taken down before. -/
theorem selection_perform {operation : Operation Item} (reorders : operation.Reorders schema view) :
    let after := view.perform schema operation
    after.selection = view.capture.restore after.permutation after.cache schema.keyMatch := by
  cases operation with
  | tick => exact reorders.elim
  | fetchFailed => exact reorders.elim
  | fetchComplete collection =>
    obtain ⟨before, after, same, -, -⟩ := view.fetchComplete_of_polling schema reorders collection
    rw [perform, same]
    exact selection_synchronize schema { view with schedule := before } collection
  | adjust adjustment =>
    cases adjustment with
    | activateHeader column =>
      have inside : column < schema.columns.length := reorders
      simp only [perform, adjust, activateHeader, if_pos inside]
      rfl
    | applySort sort => rfl
    | applyLayout layout =>
      obtain ⟨widths, sort, same⟩ := applyLayout_eq schema view layout
      rw [perform, adjust, same]
      rfl
    | invalidate | setColumnWidth | select | forceRefresh | setCadence | setDiagnosticsOpen =>
      exact reorders.elim

section Restoring

variable {after : ListView} (ordered : after.Ordered schema)
  (unique : after.cache.UniqueKeys schema.keyMatch)
  (restored : after.selection = view.capture.restore after.permutation after.cache schema.keyMatch)

include ordered unique

theorem sameItem_iff_findRow? {old row : Nat} : SameItem schema.keyMatch view old after row ↔
    ∃ key, view.rowKey? old = some key ∧ after.findRow? schema key = some row := by
  simp only [SameItem, findRow?, findRow?_eq_some_iff ordered.shows unique, rowKey?_eq_keyAt?,
    exists_and_left]

theorem SameItem.row_lt {old row : Nat} (same : SameItem schema.keyMatch view old after row) :
    row < after.rowCount := by
  obtain ⟨key, -, isRow⟩ := (sameItem_iff_findRow? ordered unique).1 same
  exact findRow?_lt ordered.shows isRow

include restored

theorem mem_selected_restored (row : Nat) : row ∈ after.selection.selected.rows ↔
    ∃ old ∈ view.selection.selected.rows, SameItem schema.keyMatch view old after row := by
  rw [restored]
  simp only [SelectionKeys.restore, RowSet.mem_ofList, capture, Selection.capture, List.mem_filterMap,
    sameItem_iff_findRow? ordered unique, rowKey?_eq_keyAt?]
  constructor
  · rintro ⟨key, ⟨old, member, keyAt⟩, isRow⟩
    exact ⟨old, member, key, keyAt, isRow⟩
  · rintro ⟨old, member, key, keyAt, isRow⟩
    exact ⟨key, ⟨old, member, keyAt⟩, isRow⟩

theorem cursor_restored (row : Nat) : after.selection.cursor = some row ↔
    ∃ old, view.selection.cursor = some old ∧ SameItem schema.keyMatch view old after row := by
  rw [restored]
  simp only [SelectionKeys.restore, capture, Selection.capture, Option.bind_eq_some_iff,
    sameItem_iff_findRow? ordered unique, rowKey?_eq_keyAt?]
  constructor
  · rintro ⟨key, ⟨old, isCursor, keyAt⟩, isRow⟩
    exact ⟨old, isCursor, key, keyAt, isRow⟩
  · rintro ⟨old, isCursor, key, keyAt, isRow⟩
    exact ⟨key, ⟨old, isCursor, keyAt⟩, isRow⟩

theorem scrollTop_restored :
    SameItem schema.keyMatch view view.selection.scrollTop after after.selection.scrollTop ∨
      (∀ row, ¬ SameItem schema.keyMatch view view.selection.scrollTop after row) ∧
        after.selection.scrollTop = min view.selection.scrollTop (after.rowCount - 1) := by
  have topIs : after.selection.scrollTop =
      ((view.rowKey? view.selection.scrollTop).bind (after.findRow? schema)).getD
        (min view.selection.scrollTop (after.rowCount - 1)) := by
    rw [restored, rowKey?_eq_keyAt?]
    rfl
  -- Without a key under the old top row, or without a row for it, the search comes out empty.
  have follows (row : Nat) : SameItem schema.keyMatch view view.selection.scrollTop after row ↔
      (view.rowKey? view.selection.scrollTop).bind (after.findRow? schema) = some row := by
    rw [sameItem_iff_findRow? ordered unique, Option.bind_eq_some_iff]
  cases found : (view.rowKey? view.selection.scrollTop).bind (after.findRow? schema) with
  | some row =>
    rw [found, Option.getD_some] at topIs
    exact .inl ((follows _).2 (topIs ▸ found))
  | none =>
    rw [found, Option.getD_none] at topIs
    refine .inr ⟨fun row same => ?_, topIs⟩
    rw [follows, found] at same
    cases same

/-- Whatever has happened to the cache and the order of rows, a selection found by keys that were taken
down has followed its items. -/
theorem selectionFollows_of_restored : SelectionFollows schema.keyMatch view after := by
  have selected := mem_selected_restored ordered unique restored
  have cursor := cursor_restored ordered unique restored
  have top := scrollTop_restored ordered unique restored
  -- Either the first visible row was found again, or it is gone and its place was held within the rows.
  refine ⟨selected, cursor, fun row same => ?_, fun gone => ?_, fun row member => ?_, fun row isCursor => ?_,
    fun nonempty => ?_⟩
  · rcases top with topSame | ⟨gone, -⟩
    · obtain ⟨key, keyAt, isRow⟩ := (sameItem_iff_findRow? ordered unique).1 same
      obtain ⟨topKey, topKeyAt, isTop⟩ := (sameItem_iff_findRow? ordered unique).1 topSame
      obtain rfl : topKey = key := Option.some.inj (topKeyAt.symm.trans keyAt)
      exact Option.some.inj (isTop.symm.trans isRow)
    · exact (gone row same).elim
  · rcases top with topSame | ⟨-, clamped⟩
    · exact (gone _ topSame).elim
    · exact clamped
  · obtain ⟨old, -, same⟩ := (selected row).1 member
    exact same.row_lt ordered unique
  · obtain ⟨old, -, same⟩ := (cursor row).1 isCursor
    exact same.row_lt ordered unique
  · rcases top with topSame | ⟨-, clamped⟩
    · exact topSame.row_lt ordered unique
    · omega

end Restoring

/-- An operation that sorts or refreshes a table, at the end of any run and on whatever rows the
selection was, leaves the selection with its items, if the entries can be told apart after it. -/
theorem run_new_selection_follows (schema : Schema Item) (cadence : Cadence)
    (operations : List (Operation Item)) (operation : Operation Item) :
    let view := (new schema cadence).run schema operations
    let after := view.perform schema operation
    operation.Reorders schema view → after.cache.UniqueKeys schema.keyMatch →
      SelectionFollows schema.keyMatch view after := by
  intro view after reorders unique
  have ordered : view.Ordered schema := (ordered_new schema cadence).run operations
  exact selectionFollows_of_restored (ordered.perform operation) unique (selection_perform reorders)

/-- A small table of letters, each with the number of its group. -/
def letterSchema : Schema (Char × Nat) where
  columns := [⟨"letter", "Letter", .text, 8⟩, ⟨"group", "Group", .number, 8⟩]
  keyMatch := .primaryOnly
  rowKey item := ⟨item.1.toString, ""⟩
  changeToken item := .ofNat (item.1.toNat + 1114112 * item.2)
  cell item
    | 0 => item.1.toString
    | _ => Text.numeral item.2

def letterRefresh (now : Nat) (letters : List (Char × Nat)) : List (Operation (Char × Nat)) :=
  [.tick now .connected, .fetchComplete (.ofList letters)]

/-- The selected second row of a table that was sorted backwards, and then shrinks. -/
theorem letters_selection_follows :
    let operations := letterRefresh 0 [('a', 1), ('b', 2), ('c', 3)] ++
      [.adjust (.applySort ⟨some 1, .descending⟩), .adjust (.select (·.selectOnly 1)), .tick 1000 .connected]
    let operation := Operation.fetchComplete (.ofList [('b', 4), ('c', 3)])
    let view := (new letterSchema {}).run letterSchema operations
    let after := view.perform letterSchema operation
    operation.Reorders letterSchema view ∧ after.cache.UniqueKeys .primaryOnly ∧
      view.selection.selected.rows = [1] ∧ after.selection.selected.rows = [0] ∧
      SelectionFollows .primaryOnly view after := by
  intro operations operation view after
  have reorders : operation.Reorders letterSchema view := by
    change view.schedule.phase = .polling
    decide +kernel
  have unique : after.cache.UniqueKeys .primaryOnly := by decide +kernel
  exact ⟨reorders, unique, by decide +kernel, by decide +kernel,
    run_new_selection_follows letterSchema {} operations operation reorders unique⟩

end ListView
end ComputeMonitor.Table
