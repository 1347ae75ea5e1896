import ComputeMonitor.Calendar.Timestamp
import ComputeMonitor.Number.Decimal

/-!
What a compute client works on: the projects it is attached to, the tasks it runs, the files it
transfers, and the messages it writes to its log.
-/

set_option autoImplicit false

namespace ComputeMonitor.Client

open ComputeMonitor.Calendar (Timestamp)
open ComputeMonitor.Number (Binary64)

structure Project where
  masterUrl : String := ""
  name : String := ""
  userName : String := ""
  teamName : String := ""
  totalCredit : Binary64 := .zero
  avgCredit : Binary64 := .zero
  resourceShare : Binary64 := .zero
  suspended : Bool := false
  dontRequestMoreWork : Bool := false
  attachedViaManager : Bool := false
  deriving DecidableEq, Repr, Inhabited

namespace Project

def statusLabel (project : Project) : String :=
  ", ".intercalate <|
    (if project.suspended then ["Suspended by user"] else []) ++
    (if project.dontRequestMoreWork then ["Won't get new tasks"] else []) ++
    (if project.attachedViaManager then ["Managed"] else [])

def displayName (project : Project) : String :=
  if project.name.isEmpty then project.masterUrl else project.name

end Project

inductive TaskState where
  | new
  | downloading
  | ready
  | running
  | uploading
  | readyToReport
  | reported
  | error
  | aborted
  deriving DecidableEq, Repr, Inhabited

namespace TaskState

def all : List TaskState :=
  [.new, .downloading, .ready, .running, .uploading, .readyToReport, .reported, .error, .aborted]

def name : TaskState → String
  | .new => "new"
  | .downloading => "downloading"
  | .ready => "ready"
  | .running => "running"
  | .uploading => "uploading"
  | .readyToReport => "ready_to_report"
  | .reported => "reported"
  | .error => "error"
  | .aborted => "aborted"

def ofName? (text : String) : Option TaskState := all.find? (·.name == text)

def label : TaskState → String
  | .new => "New"
  | .downloading => "Downloading"
  | .ready => "Ready to start"
  | .running => "Running"
  | .uploading => "Uploading"
  | .readyToReport => "Ready to report"
  | .reported => "Reported"
  | .error => "Computation error"
  | .aborted => "Aborted"

end TaskState

structure Task where
  projectUrl : String
  projectName : String := ""
  name : String
  appName : String := ""
  fractionDone : Binary64 := .zero
  elapsedSecs : Binary64 := .zero
  remainingSecs : Binary64 := .zero
  deadline : Timestamp
  state : TaskState := .new
  suspended : Bool := false
  active : Bool := false
  deriving DecidableEq, Repr, Inhabited

def Task.statusLabel (task : Task) : String :=
  let startable := task.state = .running || task.state = .ready
  if startable && task.suspended then "Suspended by user"
  else if task.state = .running && !task.active then "Waiting to run"
  else task.state.label

inductive TransferDirection where
  | download
  | upload
  deriving DecidableEq, Repr, Inhabited

namespace TransferDirection

def name : TransferDirection → String
  | .download => "download"
  | .upload => "upload"

def ofName? (text : String) : Option TransferDirection :=
  [TransferDirection.download, .upload].find? (·.name == text)

def label : TransferDirection → String
  | .download => "Download"
  | .upload => "Upload"

end TransferDirection

structure Transfer where
  projectUrl : String := ""
  projectName : String := ""
  fileName : String := ""
  bytesDone : Binary64 := .zero
  totalBytes : Binary64 := .zero
  elapsedSecs : Binary64 := .zero
  bytesPerSecond : Binary64 := .zero
  direction : TransferDirection := .download
  active : Bool := false
  retries : UInt32 := 0
  deriving DecidableEq, Repr, Inhabited

namespace Transfer

/-- The part that is transferred, none while the size is not known. -/
def fractionDone (transfer : Transfer) : Binary64 :=
  if Binary64.zero.lt transfer.totalBytes then
    (transfer.bytesDone / transfer.totalBytes).clamp .zero (.ofNat 1)
  else .zero

def statusLabel (transfer : Transfer) : String :=
  if transfer.active then
    match transfer.direction with
    | .download => "Downloading"
    | .upload => "Uploading"
  else if transfer.retries = 0 then "Pending"
  else "Retry " ++ Text.numeral transfer.retries.toNat

end Transfer

inductive Priority where
  | info
  | userAlert
  | internalError
  deriving DecidableEq, Repr, Inhabited

namespace Priority

def name : Priority → String
  | .info => "info"
  | .userAlert => "user_alert"
  | .internalError => "internal_error"

def ofName? (text : String) : Option Priority :=
  [Priority.info, .userAlert, .internalError].find? (·.name == text)

end Priority

/-- An entry of the client's log. Numbers rise from one entry to the next. -/
structure Message where
  seqno : UInt64
  projectName : String := ""
  timestamp : Timestamp
  priority : Priority := .info
  body : String
  deriving DecidableEq, Repr, Inhabited

structure State where
  projects : List Project := []
  tasks : List Task := []
  transfers : List Transfer := []
  deriving DecidableEq, Repr, Inhabited

structure MessageBatch where
  latestSeqno : UInt64 := 0
  messages : List Message := []
  deriving DecidableEq, Repr, Inhabited

end ComputeMonitor.Client
