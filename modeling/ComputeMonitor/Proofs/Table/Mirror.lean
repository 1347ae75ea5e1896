import ComputeMonitor.Proofs.Table.RowOrder

/-!
A table as the mirror of a collection.

A completed fetch over a fresh cache leaves one row for each item that could be read, which shows the item
as it is formatted now, however much of the cache was left as it stood.
-/

set_option autoImplicit false

namespace ComputeMonitor.Table.ListView

variable {Item : Type} {schema : Schema Item} {view after : ListView} {known : Item → Prop}

/-- A table has one row for each of some items, and the row of an item shows it as it is formatted now. -/
structure Mirrors (schema : Schema Item) (items : List Item) (view : ListView) : Prop where
  rowCount : view.rowCount = items.length
  bijection : view.permutation.isBijection items.length = true
  shown : ∀ index item, items[index]? = some item → ∃ row, view.permutation.row? index = some row ∧
    (∀ column < schema.columns.length, view.cellText row column = schema.cell item column) ∧
    view.rowKey? row = some (schema.rowKey item) ∧ view.progress row = schema.progress item

theorem field_ofItem (schema : Schema Item) (remoteIndex : Nat) (item : Item) {column : Nat}
    (inside : column < schema.columns.length) :
    (Entry.ofItem schema remoteIndex item).field column = schema.cell item column := by
  simp [Entry.field, Entry.ofItem, Schema.cells, inside]

theorem mirrors_of_formatted (ordered : view.Ordered schema) {items : List Item}
    (formatted : view.cache = items.mapIdx fun index item => Entry.ofItem schema index item) :
    Mirrors schema items view := by
  have length : view.cache.length = items.length := by rw [formatted, List.length_mapIdx]
  have shows : view.permutation.Shows items.length := length ▸ ordered.shows
  refine ⟨shows.length_eq, Permutation.isBijection_iff.2 shows, fun index item isAt => ?_⟩
  have bound : index < items.length := (List.getElem?_eq_some_iff.1 isAt).1
  obtain ⟨row, isRow⟩ := shows.exists_row bound
  have entryAt : view.entryAt? row = some (Entry.ofItem schema index item) := by
    rw [entryAt?, shows.row?_eq_some_iff.1 isRow, formatted, Option.bind_some, List.getElem?_mapIdx, isAt]
    rfl
  refine ⟨row, isRow, fun column inside => ?_, ?_, ?_⟩
  · rw [cellText, entryAt]
    exact field_ofItem schema index item inside
  · rw [rowKey?, entryAt]
    rfl
  · rw [progress, entryAt]
    rfl

theorem RowsKept.fresh (kept : RowsKept schema view after) (fresh : view.cache.Fresh schema known) :
    after.cache.Fresh schema known := by
  cases kept with
  | still cache => rwa [cache]
  | marked cache => rw [cache]; exact Cache.fresh_invalidate
  | sorted cache => rwa [cache]

theorem RowsKept.cache_nil (kept : RowsKept schema view after) (empty : view.cache = []) :
    after.cache = [] := by
  cases kept with
  | still cache => rw [cache, empty]
  | marked cache => rw [cache, empty]; rfl
  | sorted cache => rw [cache, empty]

section Completed

variable (collection : Collection Item) (polling : view.schedule.phase = .polling)
  (fresh : view.cache.Fresh schema known) (areKnown : ∀ item ∈ collection.reachable, known item)

include polling

theorem fetchComplete_ordered (ordered : view.Ordered schema) :
    (view.fetchComplete schema collection).1.Ordered schema :=
  (view.fetchComplete_rows schema polling collection).ordered ordered

include fresh areKnown

theorem fetchComplete_fresh : (view.fetchComplete schema collection).1.cache.Fresh schema known := by
  rw [(view.fetchComplete_rows schema polling collection).cache]
  exact fresh.synchronize areKnown

/-- A completed fetch shows every item as it is now, if tokens tell known items apart that are not shown
alike. -/
theorem fetchComplete_mirrors (coherent : schema.Coherent known) (ordered : view.Ordered schema) :
    Mirrors schema collection.reachable (view.fetchComplete schema collection).1 := by
  refine mirrors_of_formatted (fetchComplete_ordered collection polling ordered) ?_
  rw [(view.fetchComplete_rows schema polling collection).cache]
  exact fresh.synchronize_eq coherent areKnown

end Completed
end ComputeMonitor.Table.ListView
