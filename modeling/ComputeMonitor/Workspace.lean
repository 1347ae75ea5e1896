import ComputeMonitor.Client.Views
import ComputeMonitor.DocumentSource

/-!
The four tables over one document. Only the active table polls, and only it follows the document;
the others catch up when they become active.
-/

set_option autoImplicit false

namespace ComputeMonitor

open ComputeMonitor.Client (ViewKind)
open ComputeMonitor.Table (Cadence Layout ListView RefreshReport)

/-- How often tables are refreshed: each in its own measure while the link is up. -/
structure Intervals where
  floor : Nat := 1000
  retry : Nat := 5000
  projects : Nat := 5000
  tasks : Nat := 1000
  transfers : Nat := 1000
  events : Nat := 1000
  deriving DecidableEq, Repr, Inhabited

def Intervals.cadence (intervals : Intervals) (kind : ViewKind) : Cadence where
  base := match kind with
    | .projects => intervals.projects
    | .tasks => intervals.tasks
    | .transfers => intervals.transfers
    | .events => intervals.events
  floor := intervals.floor
  retry := intervals.retry

/-- What a tick of the clock led to. A time beyond the calendar ends the program in the middle of
a refresh, if not in its source then where it is to be shown. -/
inductive TickOutcome where
  | skipped
  | failed (failure : Failure)
  | refreshed (report : RefreshReport)
  | crashed
  deriving DecidableEq

structure Workspace where
  projects : ListView
  tasks : ListView
  transfers : ListView
  events : ListView
  active : ViewKind := .tasks
  session : Option Nat := none
  link : Link := .disconnected
  deriving Inhabited

namespace Workspace

def view (workspace : Workspace) : ViewKind → ListView
  | .projects => workspace.projects
  | .tasks => workspace.tasks
  | .transfers => workspace.transfers
  | .events => workspace.events

def setView (workspace : Workspace) (kind : ViewKind) (view : ListView) : Workspace :=
  match kind with
  | .projects => { workspace with projects := view }
  | .tasks => { workspace with tasks := view }
  | .transfers => { workspace with transfers := view }
  | .events => { workspace with events := view }

def update (workspace : Workspace) (kind : ViewKind) (change : ListView → ListView) : Workspace :=
  workspace.setView kind (change (workspace.view kind))

def updateAll (workspace : Workspace) (change : ViewKind → ListView → ListView) : Workspace :=
  ViewKind.all.foldl (fun workspace kind => workspace.update kind (change kind)) workspace

def activeView (workspace : Workspace) : ListView := workspace.view workspace.active

/-- Make a table the active one; its next tick polls at once. -/
def setActive (workspace : Workspace) (kind : ViewKind) : Workspace :=
  let diagnosing := { workspace with active := kind }.updateAll fun _ view =>
    view.reschedule (·.setDiagnosticsOpen kind.isDiagnostics)
  diagnosing.update kind ListView.forceRefresh

def newView (intervals : Intervals) (kind : ViewKind) : ListView := .new kind.schema (intervals.cadence kind)

def blank (intervals : Intervals) : Workspace where
  projects := newView intervals .projects
  tasks := newView intervals .tasks
  transfers := newView intervals .transfers
  events := newView intervals .events

def new (intervals : Intervals) : Workspace := (blank intervals).setActive .tasks

def setIntervals (workspace : Workspace) (intervals : Intervals) : Workspace :=
  workspace.updateAll fun kind view => view.reschedule (·.setCadence (intervals.cadence kind))

def forceRefresh (workspace : Workspace) : Workspace :=
  workspace.update workspace.active ListView.forceRefresh

/-- Note the session of a document; another one than before makes every row be formatted anew. -/
def noteSession (workspace : Workspace) (session : Nat) : Workspace :=
  let invalidated := match workspace.session with
    | some known => if known = session then workspace else workspace.updateAll fun _ => ListView.invalidate
    | none => workspace
  { invalidated with session := some session }

def showDocument (workspace : Workspace) (document : Client.Document) : Workspace × TickOutcome :=
  let kind := workspace.active
  let view := workspace.activeView
  let collection := kind.collection document
  match view.cache.firstRefused? kind.schema (fun item => !kind.isShowable item) collection with
  | some index =>
    (workspace.setView kind (view.fetchAbandoned kind.schema collection index), .crashed)
  | none =>
    match view.fetchComplete kind.schema collection with
    | (view, some report) => (workspace.setView kind view, .refreshed report)
    | (view, none) => (workspace.setView kind view, .skipped)

variable {σ : Type} [DocumentSource σ]

/-- One tick of the clock: poll the source if the active table is due, and show the document. -/
def tick (workspace : Workspace) (now : Nat) (source : σ) : Workspace × σ × TickOutcome :=
  let kind := workspace.active
  let link := DocumentSource.link source
  let workspace := { workspace with link }
  match workspace.activeView.tick? now link with
  | none => (workspace, source, .skipped)
  | some view =>
    let workspace := workspace.setView kind view
    let (answer, source) := DocumentSource.refresh source
    let linked := { workspace with link := DocumentSource.link source }
    match answer with
    -- The link is taken over only from a source that has come to an answer.
    | .error .crashed => (workspace, source, .crashed)
    | .error (.failed failure) => (linked.update kind ListView.fetchFailed, source, .failed failure)
    | .ok () =>
      let (workspace, outcome) :=
        (linked.noteSession (DocumentSource.session source)).showDocument
          (DocumentSource.document source)
      (workspace, source, outcome)

omit [DocumentSource σ] in
def isStale (workspace : Workspace) : Bool := workspace.activeView.isStale

def layouts (workspace : Workspace) : List (ViewKind × Layout) :=
  ViewKind.all.map fun kind => (kind, (workspace.view kind).layout kind.schema)

def applyLayout (workspace : Workspace) (kind : ViewKind) (layout : Layout) : Workspace :=
  workspace.update kind (·.applyLayout kind.schema layout)

end Workspace
end ComputeMonitor
