import ComputeMonitor.Screen.Caption
import ComputeMonitor.Screen.Console

/-!
Frames: everything on the screen, cell by cell.

From top to bottom there are the box of the tabs, the box of the table and the box of the status
line, and over them the box of the help.
-/

set_option autoImplicit false

namespace ComputeMonitor.Screen

open ComputeMonitor.Client (ViewKind)
open ComputeMonitor.Table

inductive Color where
  | black
  | green
  | yellow
  | cyan
  | white
  deriving DecidableEq, Repr

structure Style where
  foreground : Option Color := none
  background : Option Color := none
  bold : Bool := false
  reversed : Bool := false
  deriving DecidableEq, Repr, Inhabited

structure Glyph where
  char : Char := ' '
  style : Style := {}
  deriving DecidableEq, Repr, Inhabited

abbrev Line := List Glyph

namespace Line

def ofChars (style : Style) (chars : List Char) : Line := chars.map fun char => ⟨char, style⟩

def ofText (style : Style) (text : String) : Line := ofChars style text.toList

/-- A line of an exact width: cut at its end, or filled with blanks. -/
def fit (style : Style) (width : Nat) (line : Line) : Line :=
  line.take width ++ List.replicate (width - line.length) ⟨' ', style⟩

def edge (style : Style) (left right : Char) (title : String) (width : Nat) : Line :=
  let inner := fit style (width - 2) (ofText style title ++ ofChars style (List.replicate width '─'))
  ofChars style [left] ++ inner ++ ofChars style [right]

def between (style : Style) (width : Nat) (line : Line) : Line :=
  ofChars style ['│'] ++ fit style (width - 2) line ++ ofChars style ['│']

end Line

/-- A box of an exact size around lines. A box of one row is its upper edge. -/
def boxed (style : Style) (title : String) (width height : Nat) (content : List Line) : List Line :=
  let inner := (content ++ List.replicate height []).take (height - 2)
  (Line.edge style '┌' '┐' title width :: inner.map (Line.between style width) ++
    [Line.edge style '└' '┘' "" width]).take height

def overlay (row column : Nat) (upper : List Line) (lines : List Line) : List Line :=
  lines.mapIdx fun index line =>
    match if index < row then none else upper[index - row]? with
    | some shown => line.take column ++ shown ++ line.drop (column + shown.length)
    | none => line

def programTitle : String := "boincview"

def tabStyle : Style := { foreground := some .white }

def chosenStyle : Style := { foreground := some .cyan, bold := true }

def headerStyle : Style := { foreground := some .white, bold := true }

def statusStyle : Style := { foreground := some .yellow }

def tabLine (chosen : ViewKind) : Line :=
  let tab (kind : ViewKind) : Line :=
    Line.ofText tabStyle " " ++ Line.ofText (if kind = chosen then chosenStyle else tabStyle) kind.label ++
      Line.ofText tabStyle " "
  (Line.ofText tabStyle "│").intercalate (ViewKind.all.map tab)

def rowLine (style : Style) (cells : List (Nat × String × Style)) : Line :=
  (Line.ofText style " ").intercalate (cells.map fun (width, text, cellStyle) =>
    Line.fit cellStyle width (Line.ofText cellStyle text))

def rowCells (columns : List Column) (view : ListView) (shown : Nat → String × Style) :
    List (Nat × String × Style) :=
  (List.range columns.length).map fun column => ((view.columnWidth column).toNat, shown column)

def headerLine (columns : List Column) (view : ListView) (focus : Nat) : Line :=
  rowLine {} <| rowCells columns view fun column =>
    (headerLabel columns view.sort column, if column = focus then chosenStyle else headerStyle)

/-- Selected rows stand out by their colours, the cursor's row is reversed. -/
def rowStyle (selection : Selection) (row : Nat) : Style :=
  let reversed := selection.cursor == some row
  if selection.selected.contains row then
    { foreground := some .black, background := some .green, reversed }
  else { reversed }

def tableLine (columns : List Column) (view : ListView) (width row : Nat) : Line :=
  let style := rowStyle view.selection row
  Line.fit style width <| rowLine style <| rowCells columns view fun column =>
    (cellDisplay columns view row column, style)

def tableLines (console : Console) (width : Nat) : List Line :=
  let view := console.workspace.activeView
  let columns := console.workspace.active.schema.columns
  headerLine columns view console.focus ::
    (visibleRows view console.tableHeight).map (tableLine columns view width)

def withHelp (width height : Nat) (lines : List Line) : List Line :=
  overlay (height * 20 / 100) (width * 15 / 100)
    (boxed {} "help" (width * 70 / 100) (height * 60 / 100) (helpLines.map (Line.ofText {}))) lines

def Console.frame (console : Console) (width height : Nat) : List Line :=
  let statusHeight := min statusRows (height - tabRows - 1)
  let view := console.workspace.activeView
  let lines :=
    boxed tabStyle programTitle width tabRows [tabLine console.app.activeView] ++
    boxed {} (tableTitle console.workspace.active.label view) width (height - tabRows - statusHeight)
      (tableLines console (width - 2)) ++
    boxed statusStyle "" width statusHeight [Line.ofText statusStyle (statusText console.app)]
  if console.app.showHelp then withHelp width height lines else lines

end ComputeMonitor.Screen
