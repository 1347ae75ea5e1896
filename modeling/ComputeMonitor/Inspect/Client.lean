import ComputeMonitor.Client.Decoding
import ComputeMonitor.Client.Views
import ComputeMonitor.Inspect.Table

/-!
The work of a client as JSON values, without any loss: floating-point numbers are written by their
bits and whole numbers as decimal texts.
-/

set_option autoImplicit false

namespace ComputeMonitor.Inspect

open ComputeMonitor.Client
open ComputeMonitor.Json
open ComputeMonitor.Number (Binary64)
open Value (bits decimal listOf ofNat ofOption record text)

def timestamp (value : Calendar.Timestamp) : Value := text (String.ofList value.chars)

def moment (value : Calendar.Moment) : Value :=
  listOf Value.ofInt [value.date.year, value.date.month, value.date.day, value.hour, value.minute,
    value.second, value.nanosecond]

def project (value : Project) : Value :=
  record [("master_url", text value.masterUrl), ("name", text value.name),
    ("user_name", text value.userName), ("team_name", text value.teamName),
    ("total_credit", bits value.totalCredit), ("avg_credit", bits value.avgCredit),
    ("resource_share", bits value.resourceShare), ("suspended_via_gui", .bool value.suspended),
    ("dont_request_more_work", .bool value.dontRequestMoreWork),
    ("attached_via_account_manager", .bool value.attachedViaManager)]

def task (value : Task) : Value :=
  record [("project_url", text value.projectUrl), ("project_name", text value.projectName),
    ("name", text value.name), ("app_name", text value.appName),
    ("fraction_done", bits value.fractionDone), ("elapsed_secs", bits value.elapsedSecs),
    ("remaining_secs", bits value.remainingSecs), ("deadline", timestamp value.deadline),
    ("state", text value.state.name), ("suspended_via_gui", .bool value.suspended),
    ("active", .bool value.active)]

def transfer (value : Transfer) : Value :=
  record [("project_url", text value.projectUrl), ("project_name", text value.projectName),
    ("file_name", text value.fileName), ("bytes_done", bits value.bytesDone),
    ("total_bytes", bits value.totalBytes), ("elapsed_secs", bits value.elapsedSecs),
    ("rate_bps", bits value.bytesPerSecond), ("direction", text value.direction.name),
    ("active", .bool value.active), ("retries", decimal value.retries.toNat)]

def seqno (value : UInt64) : Value := decimal value.toNat

def message (value : Message) : Value :=
  record [("seqno", seqno value.seqno), ("project_name", text value.projectName),
    ("timestamp", timestamp value.timestamp), ("priority", text value.priority.name),
    ("body", text value.body)]

def state (value : State) : Value :=
  record [("projects", listOf project value.projects), ("tasks", listOf task value.tasks),
    ("transfers", listOf transfer value.transfers)]

def documentMembers (value : Document) : List (String × Value) :=
  [("state", state value.state), ("messages", listOf message value.messages),
    ("last_seqno", seqno value.lastSeqno)]

def document (value : Document) : Value := record (documentMembers value)

def seqnos (value : Document) : Value := listOf (fun message => seqno message.seqno) value.messages

def summary (value : Document) : Value :=
  record [
    ("tasks", listOf (fun task => .array [text task.name, text task.state.name, .bool task.active,
      bits task.fractionDone, bits task.remainingSecs]) value.state.tasks),
    ("transfers", listOf (fun transfer => .array [text transfer.fileName, bits transfer.bytesDone,
      bits transfer.elapsedSecs]) value.state.transfers),
    ("last", ofOption (fun message => text message.body) value.messages.getLast?),
    ("log", ofNat value.messages.length)]

def asView (value : Value) : Access ViewKind := do orExpected "a view" (ViewKind.ofName? (← value.asText))

def view (value : ViewKind) : Value := text value.name

def itemOfJson? : (kind : ViewKind) → Value → Option kind.Item
  | .projects => Project.ofJson?
  | .tasks => Task.ofJson?
  | .transfers => Transfer.ofJson?
  | .events => Message.ofJson?

def replaceNumber : (kind : ViewKind) → kind.Item → String → Binary64 → kind.Item
  | .projects, item, "total_credit", number => { item with totalCredit := number }
  | .projects, item, "avg_credit", number => { item with avgCredit := number }
  | .projects, item, "resource_share", number => { item with resourceShare := number }
  | .tasks, item, "fraction_done", number => { item with fractionDone := number }
  | .tasks, item, "elapsed_secs", number => { item with elapsedSecs := number }
  | .tasks, item, "remaining_secs", number => { item with remainingSecs := number }
  | .transfers, item, "bytes_done", number => { item with bytesDone := number }
  | .transfers, item, "total_bytes", number => { item with totalBytes := number }
  | .transfers, item, "elapsed_secs", number => { item with elapsedSecs := number }
  | .transfers, item, "rate_bps", number => { item with bytesPerSecond := number }
  | _, item, _, _ => item

def derived : (kind : ViewKind) → kind.Item → List Value
  | .projects, (item : Project) => [text item.statusLabel, text item.displayName]
  | .tasks, (item : Task) => [text item.statusLabel]
  | .transfers, (item : Transfer) =>
    [text item.statusLabel, text item.direction.label, bits item.fractionDone]
  | .events, (item : Message) => [text item.priority.name]

end ComputeMonitor.Inspect
