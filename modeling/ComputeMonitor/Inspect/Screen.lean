import ComputeMonitor.Inspect.Source
import ComputeMonitor.Screen.Frame

/-!
The screen as JSON values: keys, commands, the state beside the tables, and whole frames.
-/

set_option autoImplicit false

namespace ComputeMonitor.Inspect

open ComputeMonitor.Client (ViewKind)
open ComputeMonitor.Json
open ComputeMonitor.Screen
open ComputeMonitor.Text (signedNumeral)
open Value (listOf ofNat ofOption record text)

def namedKeys : List (String × Key) :=
  [("up", .up), ("down", .down), ("left", .left), ("right", .right), ("pageup", .pageUp),
   ("pagedown", .pageDown), ("home", .home), ("end", .ending), ("enter", .enter),
   ("esc", .escape), ("tab", .tab), ("backtab", .backTab), ("backspace", .backspace),
   ("delete", .delete), ("insert", .insert), ("f1", .function 1)]

def asKey (value : Value) : Access Key := do
  let name ← value.asText
  match name.toList with
  | [char] => return .char char
  | _ => orExpected "a key" (namedKeys.lookup name)

def asKeyPress (value : Value) : Access KeyPress := do
  let held ← value.listAt "mods" Value.asText
  return {
    key := ← value.get "key" asKey
    modifiers := {
      control := held.contains "ctrl"
      alt := held.contains "alt"
      shift := held.contains "shift" } }

def commandText (name : String) (amount : Int) : String := name ++ "(" ++ signedNumeral amount ++ ")"

def tableCommand : TableCommand → String
  | .moveRow rows => commandText "MoveRow" rows
  | .movePage pages => commandText "MovePage" pages
  | .firstRow => "JumpFirstRow"
  | .lastRow => "JumpLastRow"
  | .moveColumn columns => commandText "MoveColumn" columns
  | .activateHeader => "ActivateHeader"
  | .toggleSelection => "ToggleSelection"
  | .clearSelection => "ClearSelection"
  | .resizeColumn cells => commandText "ResizeColumn" cells

def appState (value : AppState) : Value :=
  record [("view", view value.activeView), ("link", link value.link), ("stale", .bool value.stale),
    ("help", .bool value.showHelp), ("status", ofOption text value.statusLine)]

def appEvent : AppEvent → Value
  | .viewChanged kind => record [("view", view kind)]
  | .refreshRequested => text "refresh"
  | .helpToggled shown => record [("help", .bool shown)]
  | .linkChanged value => record [("link", link value)]
  | .staleChanged stale => record [("stale", .bool stale)]
  | .statusUpdated shown => record [("status", text shown)]
  | .statusCleared => text "status_cleared"

/-- The texts on the screen, one heading past the last column. -/
def screenTexts (value : Console) : Value :=
  let table := value.workspace.activeView
  let columns := value.workspace.active.schema.columns
  let row (index : Nat) : Value :=
    .array [ofNat index, listOf (fun column => text (cellDisplay columns table index column))
      (List.range columns.length)]
  record [("title", text (tableTitle value.workspace.active.label table)),
    ("headers", listOf (fun column => text (headerLabel columns table.sort column))
      (List.range (columns.length + 1))),
    ("status", text (statusText value.app)),
    ("widths", listOf (fun column => ofNat (table.columnWidth column).toNat)
      (List.range columns.length)),
    ("visible", listOf row (visibleRows table value.tableHeight))]

def color : Option Color → String
  | none => "Reset"
  | some .black => "Black"
  | some .green => "Green"
  | some .yellow => "Yellow"
  | some .cyan => "Cyan"
  | some .white => "White"

def style (value : Style) : String :=
  color value.foreground ++ "/" ++ color value.background ++
    (if value.bold then "/bold" else "") ++ (if value.reversed then "/reversed" else "")

structure StyleRun where
  row : Nat
  column : Nat
  length : Nat
  style : Style

def styleRuns (row : Nat) : Nat → List Glyph → List StyleRun
  | _, [] => []
  | column, glyph :: rest =>
    match styleRuns row (column + 1) rest with
    | run :: runs =>
      if run.column = column + 1 ∧ run.style = glyph.style then
        { run with column, length := run.length + 1 } :: runs
      else if glyph.style = {} then run :: runs
      else ⟨row, column, 1, glyph.style⟩ :: run :: runs
    | [] => if glyph.style = {} then [] else [⟨row, column, 1, glyph.style⟩]

def styleRun (value : StyleRun) : Value :=
  .array [ofNat value.row, ofNat value.column, ofNat value.length, text (style value.style)]

def frame (lines : List Line) : Value :=
  record [
    ("lines", listOf (fun line => text (String.ofList (line.map Glyph.char))) lines),
    ("styles", .array ((lines.mapIdx fun row line => (styleRuns row 0 line).map styleRun).flatten))]

end ComputeMonitor.Inspect
