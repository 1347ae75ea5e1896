import ComputeMonitor.Screen.AppState
import ComputeMonitor.Screen.StoredLayouts
import ComputeMonitor.Screen.TableCommand

/-!
The program in front of its user: what is shown, the tables, and how keys and the clock change
them.

Every line of status has a number of its own. When the time of a line is over it is cleared only
if no other line has come since.
-/

set_option autoImplicit false

namespace ComputeMonitor.Screen

open ComputeMonitor.Client (ViewKind)
open ComputeMonitor.Table (Layout)

def tabRows : Nat := 3

def statusRows : Nat := 2

def tableFrameRows : Nat := 3

def tableHeight (screenRows : Nat) : Nat :=
  max (screenRows - (tabRows + statusRows + tableFrameRows)) 1

structure Console where
  app : AppState := {}
  workspace : Workspace
  focus : Nat := 0
  tableHeight : Nat := 0
  statusNumber : Nat := 0
  deriving Inhabited

namespace Console

def start (intervals : Intervals) (layout? : ViewKind → Option Layout) : Console :=
  let app : AppState := {}
  { app, workspace := (applyLayouts layout? (.new intervals)).setActive app.activeView }

def countStatus (console : Console) : Console := { console with statusNumber := console.statusNumber + 1 }

def announce (console : Console) (notice : String) : Console :=
  countStatus { console with app := { console.app with statusLine := some notice } }

def countStatusOf (console : Console) (events : List AppEvent) : Console :=
  if events.any AppEvent.isStatus then console.countStatus else console

def follow (console : Console) : AppEvent → Console
  | .viewChanged view => { console with workspace := console.workspace.setActive view, focus := 0 }
  | .refreshRequested => { console with workspace := console.workspace.forceRefresh }
  | _ => console

def dispatch (console : Console) (command : AppCommand) : Console :=
  let (app, events) := console.app.dispatch command
  (events.foldl follow { console with app }).countStatusOf events

def runTable (console : Console) (command : TableCommand) : Console :=
  let kind := console.workspace.active
  let commanded := command.run kind.schema console.workspace.activeView console.focus console.tableHeight
  let changed := { console with
    workspace := console.workspace.setView kind commanded.view, focus := commanded.focus }
  match commanded.notice with
  | some notice => changed.announce notice
  | none => changed

def appCommand? (press : KeyPress) : Option AppCommand :=
  match press.key with
  | .tab => some .nextView
  | .backTab => some .previousView
  | .char 'f' => if press.isPlain then some .nextView else none
  | .char 'b' => if press.isPlain then some .previousView else none
  | .char '1' => some (.showView .projects)
  | .char '2' => some (.showView .tasks)
  | .char '3' => some (.showView .transfers)
  | .char '4' => some (.showView .events)
  | .char 'r' => if press.isPlain then some .refresh else none
  | .char '?' => some .toggleHelp
  | _ => none

def isQuitChord (press : KeyPress) : Bool :=
  press.modifiers.control && (press.key == .char 'q' || press.key == .char 'c')

/-- Whether a key closes the help, which is deaf to all others. -/
def closesHelp (press : KeyPress) : Bool := press.key == .escape || press.key == .char '?'

/-- Take a key; none when it ends the program. -/
def press? (console : Console) (press : KeyPress) : Option Console :=
  if isQuitChord press then none
  else if console.app.showHelp then
    some (if closesHelp press then { console with app := (console.app.dispatch .toggleHelp).1 } else console)
  else
    match TableCommand.ofPress? press with
    | some command => some (console.runTable command)
    | none =>
      if press = { key := .char 'q' } then none
      else some (((appCommand? press).map console.dispatch).getD console)

/-- What a tick of the clock did to the screen: whether it has to be drawn again, unless the
program ended in the tick. -/
inductive TickEffect where
  | settled (redraw : Bool)
  | crashed
  deriving DecidableEq, Repr

def observe (console : Console) : Console × List AppEvent :=
  let (linked, linkEvents) := console.app.dispatch (.observeLink console.workspace.link)
  let (app, staleEvents) := linked.dispatch (.observeStale console.workspace.isStale)
  ({ console with app }, linkEvents ++ staleEvents)

/-- Take a tick that did not fail, or whose failure need not be told. -/
def settle (console : Console) (repaint : Bool) : Console × TickEffect :=
  let (console, events) := console.observe
  (console.countStatusOf events, .settled (repaint || !events.isEmpty))

variable {σ : Type} [DocumentSource σ]

/-- One tick of the clock. The failure that broke the link is told in the status line. -/
def tick (console : Console) (now : Nat) (source : σ) : Console × σ × TickEffect :=
  let (workspace, source, outcome) := console.workspace.tick now source
  let console := { console with workspace }
  match outcome with
  | .crashed => (console, source, .crashed)
  | .skipped => let (console, effect) := console.settle false; (console, source, effect)
  | .refreshed report =>
    let (console, effect) := console.settle report.repaint; (console, source, effect)
  | .failed failure =>
    let (observed, events) := console.observe
    if workspace.link = .disconnected ∧ events.any AppEvent.isLinkChange then
      (observed.announce ("disconnected: " ++ failure.message), source, .settled true)
    else
      (observed.countStatusOf events, source, .settled true)

omit [DocumentSource σ] in
/-- The time of a line of status is over. Tells whether the screen has to be drawn again. -/
def expireStatus (console : Console) (number : Nat) : Console × Bool :=
  if number = console.statusNumber then
    ({ console with app := (console.app.dispatch .clearStatus).1 }, true)
  else (console, false)

/-- Make ready for a screen of some height: the cursor is scrolled into view. -/
def prepare (console : Console) (screenRows : Nat) : Console :=
  let height := Screen.tableHeight screenRows
  { console with
    tableHeight := height
    workspace := console.workspace.update console.workspace.active
      (·.select (·.scrollToCursor height)) }

end Console
end ComputeMonitor.Screen
