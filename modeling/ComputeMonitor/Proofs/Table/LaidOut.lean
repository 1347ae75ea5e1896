import ComputeMonitor.Proofs.Table.Layout
import ComputeMonitor.Proofs.Table.RowOrder

/-!
The layout of a table is taken over by any other table of the same columns.

A layout names columns, where a table counts them. Nothing is lost on the way as long as columns are told
apart by their names, the sort column is one of them, and no column has been given up to width zero, which a
table never takes on.
-/

set_option autoImplicit false

namespace ComputeMonitor.Table

/-- Columns told apart by names that are read back as they are. -/
structure WellNamed (columns : List Column) : Prop where
  ids : (columns.map Column.id).Nodup
  readBack : ∀ column ∈ columns, Layout.namedColumn? column.id = some column.id

section Columns

variable {columns : List Column} {index : Nat} {column : Column}

theorem columnIndex?_eq_some {id : String} (found : columnIndex? columns id = some index) :
    ∃ column, columns[index]? = some column ∧ column.id = id := by
  obtain ⟨bound, same, -⟩ := List.findIdx?_eq_some_iff_getElem.1 found
  exact ⟨columns[index], List.getElem?_eq_getElem bound, beq_iff_eq.1 same⟩

theorem WellNamed.index_eq (named : WellNamed columns) {other : Nat} {otherColumn : Column}
    (isAt : columns[index]? = some column) (isAtOther : columns[other]? = some otherColumn)
    (sameId : column.id = otherColumn.id) : index = other := by
  have bound : index < (columns.map Column.id).length := by
    rw [List.length_map]
    exact (List.getElem?_eq_some_iff.1 isAt).1
  refine (List.getElem?_inj bound named.ids).1 ?_
  rw [List.getElem?_map, List.getElem?_map, isAt, isAtOther, Option.map_some, Option.map_some, sameId]

theorem WellNamed.columnIndex?_id (named : WellNamed columns) (isAt : columns[index]? = some column) :
    columnIndex? columns column.id = some index := by
  have some? : (columnIndex? columns column.id).isSome = true :=
    List.findIdx?_isSome.trans (List.any_eq_true.2 ⟨column, List.mem_of_getElem? isAt, beq_self_eq_true _⟩)
  obtain ⟨found, isFound⟩ := Option.isSome_iff_exists.1 some?
  obtain ⟨other, isAtFound, sameId⟩ := columnIndex?_eq_some isFound
  rw [isFound, named.index_eq isAtFound isAt sameId]

end Columns

def Adjustment.OfColumns (columns : List Column) : Adjustment → Prop
  | .applySort sort => ∀ column, sort.column = some column → column < columns.length
  | _ => True

namespace ListView

variable {Item : Type} {schema : Schema Item} {view after : ListView}

/-- A table is sorted by a column of its own, if by any, and all its columns have a width. -/
structure LaidOut (schema : Schema Item) (view : ListView) : Prop where
  sorted : ∀ column, view.sort.column = some column → column < schema.columns.length
  count : view.widths.length = schema.columns.length
  positive : 0 ∉ view.widths

section TakingOn

/-- The widths after one more is taken on, unless it is one of an unknown column. -/
def widen (columns : List Column) (widths : List UInt16) (entry : String × UInt16) : List UInt16 :=
  match columnIndex? columns entry.1 with
  | some column => widths.set column (if entry.2 = 0 then 1 else entry.2)
  | none => widths

theorem widths_applyLayout (schema : Schema Item) (view : ListView) (layout : Layout) :
    (view.applyLayout schema layout).widths =
      layout.widths.entries.foldl (widen schema.columns) view.widths := by
  refine (List.foldl_hom ListView.widths fun view entry => ?_).symm
  unfold widen
  dsimp only
  cases columnIndex? schema.columns entry.1 <;> rfl

theorem widen_length (columns : List Column) (widths : List UInt16) (entry : String × UInt16) :
    (widen columns widths entry).length = widths.length := by
  unfold widen
  split
  · exact List.length_set
  · rfl

theorem foldl_widen_length (columns : List Column) (entries : List (String × UInt16)) (widths : List UInt16) :
    (entries.foldl (widen columns) widths).length = widths.length :=
  List.foldlRecOn (motive := fun after : List UInt16 => after.length = widths.length) entries _ rfl
    fun _ held _ _ => (widen_length ..).trans held

section Widening

variable {columns : List Column} {index : Nat} {column : Column} {widths : List UInt16}

theorem widen_own (named : WellNamed columns) (isAt : columns[index]? = some column)
    (inside : index < widths.length) {width : UInt16} (nonzero : width ≠ 0) :
    (widen columns widths (column.id, width))[index]? = some width := by
  rw [widen, named.columnIndex?_id isAt]
  dsimp only
  rw [List.getElem?_set_self inside, if_neg nonzero]

theorem widen_other (isAt : columns[index]? = some column) {id : String} (apart : id ≠ column.id)
    (width : UInt16) : (widen columns widths (id, width))[index]? = widths[index]? := by
  unfold widen
  split
  next place isPlace =>
    obtain ⟨found, isFound, isNamed⟩ := columnIndex?_eq_some isPlace
    refine List.getElem?_set_ne fun same => apart ?_
    rw [same, isAt] at isFound
    rw [Option.some.inj isFound, isNamed]
  next => rfl

theorem foldl_widen_getElem? (named : WellNamed columns) (isAt : columns[index]? = some column)
    {taken : Widths} {width : UInt16} (isTaken : taken.get? column.id = some width) (nonzero : width ≠ 0)
    (inside : index < widths.length) : (taken.entries.foldl (widen columns) widths)[index]? = some width := by
  have own (widths : List UInt16) (bound : index < (widen columns widths (column.id, width)).length) :
      (widen columns widths (column.id, width))[index]? = some width :=
    widen_own named isAt (widen_length columns widths _ ▸ bound) nonzero
  have settled : index < (taken.entries.foldl (widen columns) widths).length →
      (taken.entries.foldl (widen columns) widths)[index]? = some width := by
    refine foldl_settles (fun after : List UInt16 => index < after.length → after[index]? = some width)
      (fun after (id, other) member held bound => ?_) ⟨_, Widths.mem_entries_iff.2 isTaken, own⟩
    by_cases isOwn : id = column.id
    · subst isOwn
      rw [Widths.mem_entries_iff, isTaken] at member
      obtain rfl := Option.some.inj member
      exact own after bound
    · rw [widen_other isAt isOwn]
      exact held (widen_length columns after _ ▸ bound)
  exact settled (by rwa [foldl_widen_length])

end Widening

theorem zero_not_mem_set {widths : List UInt16} (positive : 0 ∉ widths) (column : Nat) (width : UInt16) :
    0 ∉ widths.set column (if width = 0 then 1 else width) := by
  intro member
  rcases List.mem_or_eq_of_mem_set member with earlier | isNew
  · exact positive earlier
  · split at isNew
    next => exact absurd isNew (by decide)
    next nonzero => exact nonzero isNew.symm

theorem zero_not_mem_widen (columns : List Column) {widths : List UInt16} (positive : 0 ∉ widths)
    (entry : String × UInt16) : 0 ∉ widen columns widths entry := by
  unfold widen
  split
  · exact zero_not_mem_set positive _ _
  · exact positive

end TakingOn

namespace LaidOut

variable (laidOut : view.LaidOut schema)
include laidOut

theorem same (sort : after.sort = view.sort) (widths : after.widths = view.widths) : after.LaidOut schema where
  sorted := sort ▸ laidOut.sorted
  count := widths ▸ laidOut.count
  positive := widths ▸ laidOut.positive

theorem applyLayout (layout : Layout) : (view.applyLayout schema layout).LaidOut schema := by
  have widened : ((view.applyLayout schema layout).widths.length = schema.columns.length) ∧
      0 ∉ (view.applyLayout schema layout).widths := by
    rw [widths_applyLayout]
    exact List.foldlRecOn (motive := fun widths : List UInt16 => widths.length = schema.columns.length ∧ 0 ∉ widths) _ _
      ⟨laidOut.count, laidOut.positive⟩ fun widths held entry _ =>
        ⟨(widen_length ..).trans held.1, zero_not_mem_widen _ held.2 entry⟩
  refine ⟨fun column isColumn => ?_, widened.1, widened.2⟩
  obtain ⟨id, -, isIndex⟩ := Option.bind_eq_some_iff.1 isColumn
  exact (List.findIdx?_eq_some_iff_getElem.1 isIndex).1

theorem setColumnWidth (column : Nat) (width : UInt16) : (view.setColumnWidth column width).LaidOut schema where
  sorted := laidOut.sorted
  count := List.length_set.trans laidOut.count
  positive := zero_not_mem_set laidOut.positive column width

theorem activateHeader (column : Nat) : (view.activateHeader schema column).LaidOut schema := by
  unfold ListView.activateHeader
  split
  next inside =>
    refine ⟨fun chosen isChosen => ?_, laidOut.count, laidOut.positive⟩
    change (view.sort.activate column).column = some chosen at isChosen
    unfold SortState.activate at isChosen
    split at isChosen
    next => exact laidOut.sorted chosen isChosen
    next => exact Option.some.inj isChosen ▸ inside
  next => exact laidOut

theorem adjust {adjustment : Adjustment} (ofColumns : adjustment.OfColumns schema.columns) :
    (view.adjust schema adjustment).LaidOut schema := by
  cases adjustment with
  | activateHeader column => exact laidOut.activateHeader column
  | applySort sort => exact ⟨ofColumns, laidOut.count, laidOut.positive⟩
  | applyLayout layout => exact laidOut.applyLayout layout
  | setColumnWidth column width => exact laidOut.setColumnWidth column width
  | invalidate | select | forceRefresh | setCadence | setDiagnosticsOpen => exact laidOut.same rfl rfl

theorem fetchComplete (collection : Collection Item) :
    (view.fetchComplete schema collection).1.LaidOut schema := by
  by_cases polling : view.schedule.phase = .polling
  · refine laidOut.same (view.fetchComplete_rows schema polling collection).sort ?_
    obtain ⟨before, after, same, -, -⟩ := view.fetchComplete_of_polling schema polling collection
    rw [same]
    unfold synchronize
    dsimp only
    split <;> rfl
  · rwa [view.fetchComplete_of_not_polling schema polling]

end LaidOut

section Layouts

theorem layout_width (named : WellNamed schema.columns) {index : Nat} {column : Column} {width : UInt16}
    (isAt : schema.columns[index]? = some column) (isWidth : view.widths[index]? = some width) :
    (view.layout schema).widths.get? column.id = some width := by
  have inZip : (column, width) ∈ schema.columns.zip view.widths :=
    List.mem_of_getElem? (List.getElem?_zip_eq_some.2 ⟨isAt, isWidth⟩)
  refine foldl_settles (fun widths : Widths => widths.get? column.id = some width)
    (fun widths (other, otherWidth) member held => ?_) ⟨_, inZip, fun widths => ?_⟩
  · rw [Widths.get?_insert]
    split
    next sameId =>
      -- No two columns share a name, so that this is the same column once more.
      obtain ⟨place, isPlace⟩ := List.mem_iff_getElem?.1 member
      obtain ⟨isAtOther, isOtherWidth⟩ := List.getElem?_zip_eq_some.1 isPlace
      rw [named.index_eq isAt isAtOther sameId] at isWidth
      exact isOtherWidth.symm.trans isWidth
    next => exact held
  · rw [Widths.get?_insert, if_pos rfl]

theorem layout_width_of_no_column {id : String} (absent : ∀ column ∈ schema.columns, column.id ≠ id) :
    (view.layout schema).widths.get? id = none := by
  refine List.foldlRecOn (motive := fun widths : Widths => widths.get? id = none) _ _ rfl
    fun widths held (column, width) member => ?_
  rw [Widths.get?_insert, if_neg (absent column (List.of_mem_zip member).1).symm, held]

theorem layout_sortColumn (laidOut : view.LaidOut schema) (named : WellNamed schema.columns) :
    (view.layout schema).sortColumn.bind (columnIndex? schema.columns) = view.sort.column := by
  unfold layout
  dsimp only
  cases isColumn : view.sort.column with
  | none => rw [SortState.sortedColumn?, isColumn]; rfl
  | some index =>
    have isAt := List.getElem?_eq_getElem (laidOut.sorted index isColumn)
    rw [SortState.sortedColumn?_eq_some_iff.2 ⟨isColumn, isAt⟩]
    exact named.columnIndex?_id isAt

theorem normalized_layout (named : WellNamed schema.columns) (view : ListView) :
    (view.layout schema).normalized = view.layout schema := by
  have sortColumn : (view.layout schema).sortColumn.bind Layout.namedColumn? =
      (view.layout schema).sortColumn := by
    unfold layout
    dsimp only
    cases sorted : view.sort.sortedColumn? schema.columns with
    | none => rfl
    | some place =>
      obtain ⟨index, column⟩ := place
      have isAt := (SortState.sortedColumn?_eq_some_iff.1 sorted).2
      rw [Option.map_some, Option.bind_some, named.readBack column (List.mem_of_getElem? isAt)]
  -- No column goes without a name, so that no width is lost.
  have widths : (view.layout schema).widths.withoutUnnamed = (view.layout schema).widths := by
    refine Widths.ext_get? fun id => ?_
    rw [Widths.get?_withoutUnnamed]
    split
    next unnamed =>
      refine (layout_width_of_no_column fun column member sameId => ?_).symm
      have readBack := named.readBack column member
      rw [sameId, unnamed, Layout.namedColumn?_empty] at readBack
      cases readBack
    next => rfl
  rw [Layout.normalized, sortColumn, widths]

theorem applyLayout_layout (named : WellNamed schema.columns) (laidOut : view.LaidOut schema)
    {other : ListView} (count : other.widths.length = schema.columns.length) :
    (other.applyLayout schema (view.layout schema)).sort = view.sort ∧
      (other.applyLayout schema (view.layout schema)).widths = view.widths := by
  constructor
  · change SortState.mk _ _ = view.sort
    rw [layout_sortColumn laidOut named]
    rfl
  · rw [widths_applyLayout]
    have sameCount : ((view.layout schema).widths.entries.foldl (widen schema.columns) other.widths).length =
        schema.columns.length := (foldl_widen_length ..).trans count
    refine List.ext_getElem? fun index => ?_
    -- All columns have an entry in the layout, so that nothing of the widths before is left.
    rcases Nat.lt_or_ge index schema.columns.length with inside | beyond
    · have isAt := List.getElem?_eq_getElem inside
      obtain ⟨width, isWidth⟩ : ∃ width, view.widths[index]? = some width :=
        ⟨_, List.getElem?_eq_getElem (laidOut.count ▸ inside)⟩
      have nonzero : width ≠ 0 := fun zero => laidOut.positive (zero ▸ List.mem_of_getElem? isWidth)
      rw [foldl_widen_getElem? named isAt (layout_width named isAt isWidth) nonzero (count ▸ inside), isWidth]
    · rw [List.getElem?_eq_none (sameCount ▸ beyond), List.getElem?_eq_none (laidOut.count ▸ beyond)]

end Layouts
end ListView
end ComputeMonitor.Table
