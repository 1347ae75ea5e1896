import ComputeMonitor.Client.ViewKind
import ComputeMonitor.Link

/-!
What the screen shows besides the tables: the chosen tab, the link, whether the rows are stale,
the help box and a line of status. Commands change it and tell what happened as events.
-/

set_option autoImplicit false

namespace ComputeMonitor.Screen

open ComputeMonitor.Client (ViewKind)

structure AppState where
  activeView : ViewKind := .tasks
  link : Link := .disconnected
  stale : Bool := false
  showHelp : Bool := false
  statusLine : Option String := none
  deriving DecidableEq, Repr, Inhabited

inductive AppCommand where
  | nextView
  | previousView
  | showView (view : ViewKind)
  | refresh
  | toggleHelp
  | observeLink (link : Link)
  | observeStale (stale : Bool)
  | clearStatus
  deriving DecidableEq, Repr

inductive AppEvent where
  | viewChanged (view : ViewKind)
  | refreshRequested
  | helpToggled (shown : Bool)
  | linkChanged (link : Link)
  | staleChanged (stale : Bool)
  | statusUpdated (text : String)
  | statusCleared
  deriving DecidableEq, Repr

def AppEvent.isStatus : AppEvent → Bool
  | .statusUpdated _ => true
  | _ => false

def AppEvent.isLinkChange : AppEvent → Bool
  | .linkChanged _ => true
  | _ => false

def linkNotice : Link → String
  | .connected => "connected"
  | .reconnecting => "connection lost; reconnecting"
  | .disconnected => "disconnected; retrying"

namespace AppState

/-- Choose a tab; choosing the chosen one is no event. -/
def choose (state : AppState) (view : ViewKind) : AppState × List AppEvent :=
  if view = state.activeView then (state, []) else ({ state with activeView := view }, [.viewChanged view])

def dispatch (state : AppState) : AppCommand → AppState × List AppEvent
  | .nextView => state.choose (state.activeView.rotate 1)
  | .previousView => state.choose (state.activeView.rotate (-1))
  | .showView view => state.choose view
  | .refresh =>
    ({ state with statusLine := some "refreshing" }, [.refreshRequested, .statusUpdated "refreshing"])
  | .toggleHelp => ({ state with showHelp := !state.showHelp }, [.helpToggled (!state.showHelp)])
  | .observeLink link =>
    if link = state.link then (state, [])
    else
      ({ state with link, statusLine := some (linkNotice link) },
        [.linkChanged link, .statusUpdated (linkNotice link)])
  | .observeStale stale =>
    if stale = state.stale then (state, []) else ({ state with stale }, [.staleChanged stale])
  | .clearStatus => ({ state with statusLine := none }, [.statusCleared])

end AppState
end ComputeMonitor.Screen
