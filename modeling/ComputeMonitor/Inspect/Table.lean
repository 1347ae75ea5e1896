import ComputeMonitor.Json.Access
import ComputeMonitor.Json.Writer
import ComputeMonitor.Table.ListView

/-!
The parts of tables as JSON values, to look at them from outside and to set them up.
-/

set_option autoImplicit false

namespace ComputeMonitor.Inspect

open ComputeMonitor.Cell (Direction Kind)
open ComputeMonitor.Json
open ComputeMonitor.Number (Binary64)
open ComputeMonitor.Table
open Value (bits decimal listOf ofNat ofOption record text)

def asDirection (value : Value) : Access Direction := do
  orExpected "a direction" (Direction.ofName? (← value.asText))

def direction (value : Direction) : Value := text value.name

def asLink (value : Value) : Access Link := do
  let name ← value.asText
  orExpected "a link status" ([Link.connected, .reconnecting, .disconnected].find? (·.label == name))

def link (value : Link) : Value := text value.label

def kindName : Kind → String
  | .text => "text"
  | .textNoCase => "text_no_case"
  | .number => "number"
  | .duration => "duration"
  | .dateTime => "date_time"

def asKind (value : Value) : Access Kind := do
  let name ← value.asText
  orExpected "a kind"
    ([Kind.text, .textNoCase, .number, .duration, .dateTime].find? (kindName · == name))

def asKeyMatch (value : Value) : Access KeyMatch := do
  return if (← value.asText) = "primary" then .primaryOnly else .both

def asColumn (value : Value) : Access Column := do
  let id ← value.textAt "id"
  return ⟨id, id, ← value.get "kind" asKind, UInt16.ofNat (← value.getD "width" Value.asNat 10)⟩

def column (value : Column) : Value :=
  .array [text value.id, text value.label, text (kindName value.kind), ofNat value.width.toNat]

def asRowKey (value : Value) : Access RowKey := do
  match ← value.asListOf Value.asText with
  | [primary] => return ⟨primary, ""⟩
  | [primary, secondary] => return ⟨primary, secondary⟩
  | _ => .error (.expected "a row key")

def rowKey (value : RowKey) : Value := .array [text value.primary, text value.secondary]

def ordering : Ordering → Value
  | .lt => text "less"
  | .eq => text "equal"
  | .gt => text "greater"

def asLayout (value : Value) : Access Layout := do
  let widths ← value.getD "widths" (Value.asNamed Value.asNat) []
  return {
    sortColumn := ← value.get? "sort_column" Value.asText
    direction := ← value.getD "direction" asDirection .ascending
    widths := widths.foldl (fun widths (id, width) => widths.insert id (UInt16.ofNat width)) .empty }

def layout (value : Layout) : Value :=
  record [("sort_column", ofOption text value.sortColumn), ("direction", direction value.direction),
    ("widths", record (value.widths.entries.map fun (id, width) => (id, ofNat width.toNat)))]

def asPair (value : Value) : Access (String × String) := do
  match ← value.asListOf Value.asText with
  | [name, value] => return (name, value)
  | _ => .error (.expected "a pair")

def pairs (values : List (String × String)) : Value :=
  listOf (fun (name, value) => .array [text name, text value]) values

def asCadence (value : Value) : Access Cadence := do
  return { base := ← value.get "base" Value.asMilliseconds
           floor := ← value.get "floor" Value.asMilliseconds
           retry := ← value.get "retry" Value.asMilliseconds }

def schedule (value : Schedule) : Value :=
  record [("phase", text value.phase.name), ("due", ofOption decimal value.nextDue),
    ("stale", .bool value.stale), ("cycles", ofNat value.cycles),
    ("cadence", listOf decimal [value.cadence.base, value.cadence.floor, value.cadence.retry])]

structure Row where
  key : RowKey
  cells : List String
  progress : Option Binary64
  token : UInt64

def asRow (value : Value) : Access Row := do
  return { key := ← value.get "k" asRowKey
           cells := ← value.listAt "c" Value.asText
           progress := ← value.get? "p" Value.asBinary64
           token := UInt64.ofNat (← value.getD "t" Value.asNat 0) }

def rowSchema (columns : List Column) (keyMatch : KeyMatch) : Schema Row where
  columns
  keyMatch
  rowKey := Row.key
  changeToken := Row.token
  cell row column := row.cells.getD column ""
  progress := Row.progress

def asCollection (value : Value) : Access (Collection Row) := do
  let rows := (← value.listAt "rows" asRow).toArray
  return ⟨← value.getD "count" Value.asNat rows.size, (rows[·]?)⟩

def selection (value : Selection) : Value :=
  record [("rows", listOf ofNat value.selected.rows), ("count", ofNat value.selected.rows.length),
    ("cursor", ofOption ofNat value.cursor), ("top", ofNat value.scrollTop)]

def selectionKeys (value : SelectionKeys) : Value :=
  record [("selected", listOf rowKey value.selected), ("cursor", ofOption rowKey value.cursor),
    ("anchor", ofOption rowKey value.scrollAnchor), ("top", ofNat value.scrollTop)]

def asSortState (value : Value) : Access SortState := do
  return ⟨← value.get? "col" Value.asNat, ← value.getD "dir" asDirection .ascending⟩

def sortState (value : SortState) : Value :=
  .array [ofOption ofNat value.column, direction value.direction]

def entrySync : EntrySync → Value
  | .skipped => text "skipped"
  | .unchanged => text "unchanged"
  | .changed => text "changed"

def syncReport (value : SyncReport) : Value :=
  record [("formatted", ofNat value.formatted), ("changed", ofNat value.changed),
    ("grown", ofNat value.grown), ("shrunk", ofNat value.shrunk), ("truncated", .bool value.truncated),
    ("size_changed", .bool value.sizeChanged), ("needs_repaint", .bool value.needsRepaint)]

def refreshReport (value : RefreshReport) : Value :=
  record [("sync", syncReport value.sync), ("resorted", .bool value.resorted),
    ("repaint", .bool value.repaint)]

def entry (columnCount : Nat) (value : Entry) : Value :=
  record [("i", ofNat value.remoteIndex), ("k", rowKey value.key), ("c", listOf text value.fields),
    ("past", text (value.field columnCount)), ("p", ofOption bits value.progress),
    ("dirty", .bool value.dirty)]

def permutation (value : Permutation) : Value :=
  record [("order", listOf ofNat value.order),
    ("inverse", listOf (fun index => ofOption ofNat (value.row? index))
      (List.range (value.length + 1))),
    ("len", ofNat value.length), ("empty", .bool (value.length = 0)),
    ("bijection", .bool (value.isBijection value.length)),
    ("past", ofOption ofNat (value.cacheIndex? value.length))]

def shownRow (value : ListView) (columnCount row : Nat) : Value :=
  record [("k", ofOption rowKey (value.rowKey? row)),
    ("c", listOf (fun column => text (value.cellText row column)) (List.range columnCount)),
    ("p", ofOption bits (value.progress row))]

/-- Everything that a table shows, up to one row and one column past the end. -/
def contents (value : ListView) (columnCount : Nat) : Value :=
  record [("rows", listOf (shownRow value (columnCount + 1)) (List.range (value.rowCount + 1))),
    ("widths", listOf (fun column => ofNat (value.columnWidth column).toNat)
      (List.range (columnCount + 1))),
    ("selected_keys", listOf rowKey value.selectedKeys),
    ("cursor_key", ofOption rowKey value.cursorKey?), ("sched", schedule value.schedule),
    ("dirty", ofNat (value.cache.filter Entry.dirty).length)]

end ComputeMonitor.Inspect
