import ComputeMonitor.Table.Layout
import ComputeMonitor.Table.Schedule
import ComputeMonitor.Table.Selection

/-!
A table on the screen: the cache of a collection, the order of its rows, the selection, the
schedule of refreshes and the widths of the columns.

A completed fetch goes through one fixed course: the selection is taken down by keys, the cache
follows the collection, rows are sorted again if something may have moved, and the selection is
found again.
-/

set_option autoImplicit false

namespace ComputeMonitor.Table

open ComputeMonitor.Cell (Direction)
open ComputeMonitor.Number (Binary64)

structure RefreshReport where
  sync : SyncReport := {}
  resorted : Bool := false
  repaint : Bool := false
  deriving DecidableEq, Repr, Inhabited

structure ListView where
  cache : Cache := []
  permutation : Permutation := .identity 0
  sort : SortState := {}
  selection : Selection := {}
  schedule : Schedule
  widths : List UInt16
  deriving Inhabited

namespace ListView

variable {Item : Type}

def new (schema : Schema Item) (cadence : Cadence) : ListView where
  schedule := { cadence }
  widths := schema.columns.map Column.width

def rowCount (view : ListView) : Nat := view.permutation.length

def isStale (view : ListView) : Bool := view.schedule.stale

def entryAt? (view : ListView) (row : Nat) : Option Entry :=
  (view.permutation.cacheIndex? row).bind fun index => view.cache[index]?

def cellText (view : ListView) (row column : Nat) : String :=
  match view.entryAt? row with
  | some entry => entry.field column
  | none => ""

def progress (view : ListView) (row : Nat) : Option Binary64 :=
  (view.entryAt? row).bind Entry.progress

def rowKey? (view : ListView) (row : Nat) : Option RowKey := (view.entryAt? row).map Entry.key

def findRow? (schema : Schema Item) (view : ListView) (key : RowKey) : Option Nat :=
  Table.findRow? view.permutation view.cache schema.keyMatch key

def columnWidth (view : ListView) (column : Nat) : UInt16 := view.widths.getD column 0

/-- Set the width of a column, one at least. -/
def setColumnWidth (view : ListView) (column : Nat) (width : UInt16) : ListView :=
  { view with widths := view.widths.set column (if width = 0 then 1 else width) }

def select (view : ListView) (change : Selection → Selection) : ListView :=
  { view with selection := change view.selection }

def moveCursor (view : ListView) (delta : Int) : ListView :=
  view.select (·.moveCursor delta view.rowCount)

def setCursor (view : ListView) (row : Option Nat) : ListView :=
  view.select fun selection => { selection with cursor := row }

def cursorToEnd (view : ListView) : ListView :=
  view.setCursor (if view.rowCount = 0 then none else some (view.rowCount - 1))

def cursorToStart (view : ListView) : ListView :=
  view.setCursor (if view.rowCount = 0 then none else some 0)

def toggleCursorSelection (view : ListView) : ListView :=
  match view.selection.cursor with
  | some row => view.select (·.toggle row)
  | none => view

def cursorKey? (view : ListView) : Option RowKey := view.selection.cursor.bind view.rowKey?

def selectedKeys (view : ListView) : List RowKey :=
  view.selection.selected.rows.filterMap view.rowKey?

def capture (view : ListView) : SelectionKeys :=
  view.selection.capture view.permutation view.cache

def restore (schema : Schema Item) (view : ListView) (keys : SelectionKeys) : ListView :=
  { view with selection := keys.restore view.permutation view.cache schema.keyMatch }

def resort (schema : Schema Item) (view : ListView) : ListView :=
  { view with permutation := sortPermutation view.cache schema.columns view.sort view.permutation }

/-- Sort in another way; the selection stays with its items. -/
def applySort (schema : Schema Item) (view : ListView) (sort : SortState) : ListView :=
  restore schema (resort schema { view with sort }) view.capture

def activateHeader (schema : Schema Item) (view : ListView) (column : Nat) : ListView :=
  if column < schema.columns.length then applySort schema view (view.sort.activate column) else view

def reschedule (view : ListView) (change : Schedule → Schedule) : ListView :=
  { view with schedule := change view.schedule }

def forceRefresh (view : ListView) : ListView := view.reschedule Schedule.forceDue

def tick? (view : ListView) (now : Nat) (link : Link) : Option ListView :=
  (view.schedule.beginPoll? now link).map fun schedule => { view with schedule }

/-- End a refresh without an answer; the rows stay. -/
def fetchFailed (view : ListView) : ListView :=
  match view.schedule.fail? with
  | some schedule => { view with schedule }
  | none => view

def needsResort (view : ListView) (sync : SyncReport) : Bool :=
  sync.sizeChanged || view.permutation.length != view.cache.length ||
    (sync.changed > 0 && view.sort.column.isSome)

def synchronize (schema : Schema Item) (view : ListView) (collection : Collection Item) :
    ListView × RefreshReport :=
  let keys := view.capture
  let (cache, sync) := view.cache.synchronize schema collection
  let followed := { view with cache }
  let resorted := followed.needsResort sync
  let ordered := if resorted then resort schema followed else followed
  let restored := restore schema ordered keys
  (restored, ⟨sync, resorted,
    sync.needsRepaint || resorted || restored.selection != view.selection⟩)

/-- Take the answer of a poll. Without a poll that waits for it the answer is left aside. -/
def fetchComplete (schema : Schema Item) (view : ListView) (collection : Collection Item) :
    ListView × Option RefreshReport :=
  match view.schedule.beginSync? with
  | none => (view, none)
  | some schedule =>
    let (view, report) := synchronize schema { view with schedule } collection
    (view.reschedule fun schedule => schedule.finishSync?.getD schedule, some report)

/-- The view that is left behind when an item cannot be formatted in the middle of a refresh. -/
def fetchAbandoned (schema : Schema Item) (view : ListView) (collection : Collection Item)
    (index : Nat) : ListView :=
  { view with
    cache := view.cache.abandoned schema collection index
    schedule := view.schedule.beginSync?.getD view.schedule }

def invalidate (view : ListView) : ListView := { view with cache := view.cache.invalidate }

def layout (schema : Schema Item) (view : ListView) : Layout where
  sortColumn := (view.sort.sortedColumn? schema.columns).map fun (_, column) => column.id
  direction := view.sort.direction
  widths := (schema.columns.zip view.widths).foldl
    (fun widths (column, width) => widths.insert column.id width) .empty

/-- Take on a stored layout; what it says of unknown columns is left aside. -/
def applyLayout (schema : Schema Item) (view : ListView) (layout : Layout) : ListView :=
  let widened := layout.widths.entries.foldl
    (fun view (id, width) =>
      match columnIndex? schema.columns id with
      | some column => view.setColumnWidth column width
      | none => view) view
  applySort schema widened ⟨layout.sortColumn.bind (columnIndex? schema.columns), layout.direction⟩

end ListView
end ComputeMonitor.Table
