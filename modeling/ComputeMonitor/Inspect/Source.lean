import ComputeMonitor.Inspect.Client
import ComputeMonitor.Simulation.Source
import ComputeMonitor.Workspace

/-!
Sources of documents, and the workspace over them, as JSON values.
-/

set_option autoImplicit false

namespace ComputeMonitor.Inspect

open ComputeMonitor.Client
open ComputeMonitor.Gateway (RemoteDocument ToldGateway ToldPoll)
open ComputeMonitor.Json
open ComputeMonitor.Simulation (Source Step)
open Value (decimal decodeBy listOf ofNat ofOption record text)

def asScriptStep (value : Value) : Access Step := do
  match value.member? "fail", value.member? "restart", value.member? "snapshot" with
  | some text, _, _ => return .fail (← text.asText)
  | _, some state, _ => return .restart (← decodeBy State.ofJson? state)
  | _, _, some state => do
    let messages ← value.listAt "messages" (decodeBy Message.ofJson?)
    return .snapshot (← decodeBy State.ofJson? state) messages
  | _, _, _ => .error (.expected "a step of a script")

def asAnswer {α : Type} (ofJson? : Value → Option α) (value : Value) : Access (Except Failure α) := do
  match value.member? "fail" with
  | some text => return .error (.ofText (← text.asText))
  | none => return .ok (← decodeBy ofJson? value)

def asToldPoll (value : Value) : Access ToldPoll := do
  return { state := ← value.get "state" (asAnswer State.ofJson?)
           messages := ← value.listAt "messages" (asAnswer MessageBatch.ofJson?) }

def asSource (value : Value) : Access Source := do
  match value.member? "demo", value.member? "polls" with
  | some seed, _ => return .demo (.ofSeed (UInt64.ofNat (← seed.asNat)))
  | _, some polls => do
    let remote : RemoteDocument ToldGateway := { fetcher := { polls := ← polls.asListOf asToldPoll } }
    let remote := ((← value.get? "max_failures" Value.asNat).map remote.withMaxFailures).getD remote
    return .remote (((← value.get? "message_cap" Value.asNat).map remote.withMessageLimit).getD remote)
  | _, _ => return .script { steps := ← value.listAt "script" asScriptStep }

def refreshedSource (result : Except Failure Unit) (source : Source) : Value :=
  let document := DocumentSource.document source
  let (failures, calls, refreshes) : Value × Value × Value := match source with
    | .remote remote => (ofNat remote.failures, listOf text remote.fetcher.calls, .null)
    | .script script => (.null, .null, ofNat script.refreshes)
    | .demo _ => (.null, .null, .null)
  record [
    ("r", match result with
      | .ok () => .null
      | .error failure => text failure.message),
    ("link", link (DocumentSource.link source)),
    ("session", decimal (DocumentSource.session source)), ("failures", failures), ("calls", calls),
    ("refreshes", refreshes), ("seqnos", seqnos document),
    ("counts", listOf ofNat [document.state.projects.length, document.state.tasks.length,
      document.state.transfers.length])]

def asIntervals (value : Value) : Access Intervals := do
  let default : Intervals := {}
  return { floor := ← value.getD "floor" Value.asMilliseconds default.floor
           retry := ← value.getD "retry" Value.asMilliseconds default.retry
           projects := ← value.getD "projects" Value.asMilliseconds default.projects
           tasks := ← value.getD "tasks" Value.asMilliseconds default.tasks
           transfers := ← value.getD "transfers" Value.asMilliseconds default.transfers
           events := ← value.getD "events" Value.asMilliseconds default.events }

def pane (value : Table.ListView) : Value :=
  record [("n", ofNat value.rowCount), ("sort", sortState value.sort),
    ("sel", selection value.selection), ("phase", text value.schedule.phase.name),
    ("stale", .bool value.isStale)]

end ComputeMonitor.Inspect
