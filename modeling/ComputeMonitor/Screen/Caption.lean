import ComputeMonitor.Number.Binary64
import ComputeMonitor.Screen.AppState
import ComputeMonitor.Table.ListView
import ComputeMonitor.Text.Numeral

/-!
The texts on the screen: headings, cells, the titles of boxes, the status line and the help.
-/

set_option autoImplicit false

namespace ComputeMonitor.Screen

open ComputeMonitor.Cell (Direction)
open ComputeMonitor.Number (Binary64)
open ComputeMonitor.Table
open ComputeMonitor.Text (numeral)

def filledCells (fraction : Binary64) (cells : Nat) : Nat :=
  ((fraction.clamp .zero (.ofNat 1)).mul (.ofNat cells)).round.toNatSaturating cells

/-- A bar and a label behind it that fill a width together, or the label alone where no bar fits
beside it. -/
def progressBar (fraction : Binary64) (label : String) (width : Nat) : String :=
  if width ≤ label.length + 1 then label
  else
    let cells := width - label.length - 1
    let filled := filledCells fraction cells
    String.ofList (List.replicate filled '█' ++ List.replicate (cells - filled) '░') ++ " " ++ label

def sortMark : Direction → String
  | .ascending => "▲"
  | .descending => "▼"

def headerLabel (columns : List Column) (sort : SortState) (column : Nat) : String :=
  match columns[column]? with
  | none => ""
  | some shown =>
    if sort.column = some column then shown.label ++ " " ++ sortMark sort.direction else shown.label

def progressColumn : String := "progress"

def cellDisplay (columns : List Column) (view : ListView) (row column : Nat) : String :=
  let shown := view.cellText row column
  match view.progress row, columns[column]? with
  | some fraction, some found =>
    if found.id = progressColumn then progressBar fraction shown (view.columnWidth column).toNat
    else shown
  | _, _ => shown

/-- The rows on a screen with room for some of them, one at least. -/
def visibleRows (view : ListView) (height : Nat) : List Nat :=
  let top := min view.selection.scrollTop view.rowCount
  List.range' top (min (top + max height 1) view.rowCount - top)

def tableTitle (label : String) (view : ListView) : String :=
  let rows := numeral view.rowCount
  let selected := view.selection.selected.rows.length
  if selected > 0 then label ++ " (" ++ rows ++ ", " ++ numeral selected ++ " selected)"
  else label ++ " (" ++ rows ++ ")"

def linkLabel : Link → String
  | .connected => "online"
  | .reconnecting => "reconnecting"
  | .disconnected => "offline"

def keySummary : String :=
  "tab/b/f views | j/k g/G pg | h/l col | s sort | space select | r refresh | ? help | q quit"

/-- The status line. It makes way for the help. -/
def statusText (state : AppState) : String :=
  if state.showHelp then ""
  else " | ".intercalate <| [linkLabel state.link] ++ (if state.stale then ["stale"] else []) ++
    state.statusLine.toList ++ [keySummary]

def helpLines : List String :=
  ["views: tab/shift+tab or f/b cycle | 1-4 jump",
   "rows: j/k or up/down | pgup/pgdn | g/G or home/end",
   "columns: h/l or left/right focus | s or enter sort (again to reverse) | +/- width",
   "selection: space toggle | esc clear",
   "refresh: r poll now",
   "q or ctrl+q quit | ? close help"]

end ComputeMonitor.Screen
