import ComputeMonitor.Screen.Key
import ComputeMonitor.Table.ListView

/-!
What keys do to the table on the screen.
-/

set_option autoImplicit false

namespace ComputeMonitor.Screen

open ComputeMonitor.Cell (Direction)
open ComputeMonitor.Table

inductive TableCommand where
  | moveRow (rows : Int)
  | movePage (pages : Int)
  | firstRow
  | lastRow
  | moveColumn (columns : Int)
  | activateHeader
  | toggleSelection
  | clearSelection
  | resizeColumn (cells : Int)
  deriving DecidableEq, Repr

def widthStep : Int := 2

/-- The command of a key. All but one do not care for the keys held down with them. -/
def TableCommand.ofPress? (press : KeyPress) : Option TableCommand :=
  match press.key with
  | .char 'j' | .down => some (.moveRow 1)
  | .char 'k' | .up => some (.moveRow (-1))
  | .char 'h' | .left => some (.moveColumn (-1))
  | .char 'l' | .right => some (.moveColumn 1)
  | .pageDown => some (.movePage 1)
  | .pageUp => some (.movePage (-1))
  | .char 'g' | .home => some .firstRow
  | .char 'G' | .ending => some .lastRow
  | .char 's' => if press.isPlain then some .activateHeader else none
  | .enter => some .activateHeader
  | .char ' ' => some .toggleSelection
  | .escape => some .clearSelection
  | .char '+' | .char '>' => some (.resizeColumn widthStep)
  | .char '-' | .char '<' => some (.resizeColumn (-widthStep))
  | _ => none

def directionLabel : Direction → String
  | .ascending => "ascending"
  | .descending => "descending"

def resizedWidth (width : UInt16) (cells : Int) : UInt16 :=
  UInt16.ofNat (min (width.toNat + cells).toNat 65535)

structure Commanded where
  view : ListView
  focus : Nat
  notice : Option String := none

variable {Item : Type}

/-- Carry out a command on a table whose pages have a number of rows. The focus is held within
the columns. -/
def TableCommand.run (command : TableCommand) (schema : Schema Item) (view : ListView)
    (focus pageRows : Nat) : Commanded :=
  let last := schema.columns.length - 1
  let focus := min focus last
  match command with
  | .moveRow rows => { view := view.moveCursor rows, focus }
  | .movePage pages => { view := view.moveCursor (pages * max pageRows 1), focus }
  | .firstRow => { view := view.cursorToStart, focus }
  | .lastRow => { view := view.cursorToEnd, focus }
  | .moveColumn columns => { view, focus := min (focus + columns).toNat last }
  | .activateHeader =>
    match schema.columns[focus]? with
    | none => { view, focus }
    | some column =>
      let sorted := view.activateHeader schema focus
      { view := sorted, focus
        notice := some ("sorted by " ++ column.label ++ " " ++ directionLabel sorted.sort.direction) }
  | .toggleSelection => { view := view.toggleCursorSelection.moveCursor 1, focus }
  | .clearSelection =>
    if view.selection.selected.rows.isEmpty then { view, focus }
    else { view := view.select Selection.clear, focus, notice := some "selection cleared" }
  | .resizeColumn cells =>
    { view := view.setColumnWidth focus (resizedWidth (view.columnWidth focus) cells), focus }

end ComputeMonitor.Screen
