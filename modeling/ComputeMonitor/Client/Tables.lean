import ComputeMonitor.Cell.Text
import ComputeMonitor.Client.Document
import ComputeMonitor.Client.Fingerprint
import ComputeMonitor.Client.ViewKind
import ComputeMonitor.Table.Schema

/-!
How projects, tasks, transfers and messages are shown in tables.

The change token of a project, task or transfer is a fingerprint of everything that its row shows;
messages never change, so that the number of a message is its token.
-/

set_option autoImplicit false

namespace ComputeMonitor.Client

open ComputeMonitor.Cell
open ComputeMonitor.Number (Binary64)
open ComputeMonitor.Table (Column RowKey Schema)

namespace Project

def columns : List Column :=
  [⟨"project", "Project", .textNoCase, 24⟩, ⟨"account", "Account", .textNoCase, 16⟩,
   ⟨"team", "Team", .textNoCase, 16⟩, ⟨"work_done", "Work done", .number, 12⟩,
   ⟨"avg_work_done", "Avg. work done", .number, 14⟩,
   ⟨"resource_share", "Resource share", .number, 14⟩, ⟨"status", "Status", .text, 24⟩]

def parts (project : Project) : List Fingerprint.Part :=
  [.text project.masterUrl, .text project.name, .text project.userName, .text project.teamName,
   .number project.totalCredit, .number project.avgCredit, .number project.resourceShare,
   .flag project.suspended, .flag project.dontRequestMoreWork, .flag project.attachedViaManager]

def fingerprint (project : Project) : UInt64 := Fingerprint.ofParts project.parts

def cell (project : Project) : Nat → String
  | 0 => project.displayName
  | 1 => project.userName
  | 2 => project.teamName
  | 3 => fixedText 0 project.totalCredit
  | 4 => fixedText 2 project.avgCredit
  | 5 => fixedText 0 project.resourceShare
  | 6 => project.statusLabel
  | _ => ""

/-- A project is known by its address alone. -/
def schema : Schema Project where
  columns
  keyMatch := .primaryOnly
  rowKey project := ⟨project.masterUrl, ""⟩
  changeToken := fingerprint
  cell

end Project

namespace Task

def columns : List Column :=
  [⟨"project", "Project", .textNoCase, 20⟩, ⟨"progress", "Progress", .number, 9⟩,
   ⟨"status", "Status", .text, 18⟩, ⟨"elapsed", "Elapsed", .duration, 10⟩,
   ⟨"remaining", "Remaining (estimated)", .duration, 10⟩, ⟨"deadline", "Deadline", .dateTime, 19⟩,
   ⟨"application", "Application", .textNoCase, 18⟩, ⟨"name", "Name", .text, 32⟩]

def parts (task : Task) : List Fingerprint.Part :=
  [.text task.projectUrl, .text task.projectName, .text task.name, .text task.appName,
   .number task.fractionDone, .number task.elapsedSecs, .number task.remainingSecs,
   .signed task.deadline.unixSeconds, .variant task.state.ctorIdx, .flag task.suspended,
   .flag task.active]

def fingerprint (task : Task) : UInt64 := Fingerprint.ofParts task.parts

/-- Whether the deadline lies within the years that a cell can show. -/
def isShowable (task : Task) : Bool := task.deadline.universal?.isSome

def cell (task : Task) : Nat → String
  | 0 => task.projectName
  | 1 => percentText task.fractionDone
  | 2 => task.statusLabel
  | 3 => durationText task.elapsedSecs
  | 4 => durationText task.remainingSecs
  | 5 => (instantText? task.deadline).getD ""
  | 6 => task.appName
  | 7 => task.name
  | _ => ""

def schema : Schema Task where
  columns
  rowKey task := ⟨task.projectUrl, task.name⟩
  changeToken := fingerprint
  cell
  progress task := some task.fractionDone

end Task

namespace Transfer

def columns : List Column :=
  [⟨"project", "Project", .textNoCase, 20⟩, ⟨"file", "File", .text, 32⟩,
   ⟨"progress", "Progress", .number, 9⟩, ⟨"size_kb", "Size (KB)", .number, 12⟩,
   ⟨"elapsed", "Elapsed", .duration, 10⟩, ⟨"speed_kbps", "Speed (KB/s)", .number, 12⟩,
   ⟨"status", "Status", .text, 14⟩]

def parts (transfer : Transfer) : List Fingerprint.Part :=
  [.text transfer.projectUrl, .text transfer.projectName, .text transfer.fileName,
   .number transfer.bytesDone, .number transfer.totalBytes, .number transfer.elapsedSecs,
   .number transfer.bytesPerSecond, .variant transfer.direction.ctorIdx, .flag transfer.active,
   .count transfer.retries]

def fingerprint (transfer : Transfer) : UInt64 := Fingerprint.ofParts transfer.parts

/-- A count of bytes in units of 1024. -/
def kilobytesText (bytes : Binary64) : String := fixedText 2 (bytes / .ofNat 1024)

def cell (transfer : Transfer) : Nat → String
  | 0 => transfer.projectName
  | 1 => transfer.fileName
  | 2 => percentText transfer.fractionDone
  | 3 => kilobytesText transfer.totalBytes
  | 4 => durationText transfer.elapsedSecs
  | 5 => kilobytesText transfer.bytesPerSecond
  | 6 => transfer.statusLabel
  | _ => ""

def schema : Schema Transfer where
  columns
  rowKey transfer := ⟨transfer.projectUrl, transfer.fileName⟩
  changeToken := fingerprint
  cell
  progress transfer := some transfer.fractionDone

end Transfer

namespace Message

def columns : List Column :=
  [⟨"seqno", "#", .number, 6⟩, ⟨"project", "Project", .textNoCase, 20⟩,
   ⟨"time", "Time", .dateTime, 19⟩, ⟨"message", "Message", .text, 60⟩]

def number (message : Message) : String := Text.numeral message.seqno.toNat

def isShowable (message : Message) : Bool := message.timestamp.universal?.isSome

def cell (message : Message) : Nat → String
  | 0 => message.number
  | 1 => message.projectName
  | 2 => (instantText? message.timestamp).getD ""
  | 3 => message.body
  | _ => ""

def schema : Schema Message where
  columns
  keyMatch := .primaryOnly
  rowKey message := ⟨message.number, ""⟩
  changeToken := Message.seqno
  cell

end Message
end ComputeMonitor.Client
