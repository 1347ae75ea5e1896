import ComputeMonitor.Client.Document
import ComputeMonitor.Json.Record

/-!
Reading client states and message batches from JSON.
-/

set_option autoImplicit false

namespace ComputeMonitor.Client

open ComputeMonitor.Calendar (Timestamp)
open ComputeMonitor.Json

/-- A value named by a text, or by the only member of an object, which then is `null`. -/
def named? {α : Type} (ofName? : String → Option α) : Value → Option α
  | .string (some name) => ofName? name
  | .object [(some name, .null)] => ofName? name
  | _ => none

def timestamp? (value : Value) : Option Timestamp :=
  value.toText?.bind fun text => Timestamp.read? text.toList

def Project.ofJson? (value : Value) : Option Project := do
  let fields ← fields? ["master_url", "name", "user_name", "team_name", "total_credit", "avg_credit",
    "resource_share", "suspended_via_gui", "dont_request_more_work", "attached_via_account_manager"]
    value
  match fields with
  | [masterUrl, name, userName, teamName, totalCredit, avgCredit, resourceShare, suspended,
      dontRequestMoreWork, attachedViaManager] =>
    return {
      masterUrl := ← optional? Value.toText? "" masterUrl
      name := ← optional? Value.toText? "" name
      userName := ← optional? Value.toText? "" userName
      teamName := ← optional? Value.toText? "" teamName
      totalCredit := ← optional? Value.toBinary64? .zero totalCredit
      avgCredit := ← optional? Value.toBinary64? .zero avgCredit
      resourceShare := ← optional? Value.toBinary64? .zero resourceShare
      suspended := ← optional? Value.toBool? false suspended
      dontRequestMoreWork := ← optional? Value.toBool? false dontRequestMoreWork
      attachedViaManager := ← optional? Value.toBool? false attachedViaManager }
  | _ => none

def Task.ofJson? (value : Value) : Option Task := do
  let fields ← fields? ["project_url", "project_name", "name", "app_name", "fraction_done",
    "elapsed_secs", "remaining_secs", "deadline", "state", "suspended_via_gui", "active"] value
  match fields with
  | [projectUrl, projectName, name, appName, fractionDone, elapsedSecs, remainingSecs, deadline,
      state, suspended, active] =>
    return {
      projectUrl := ← required? Value.toText? projectUrl
      projectName := ← optional? Value.toText? "" projectName
      name := ← required? Value.toText? name
      appName := ← optional? Value.toText? "" appName
      fractionDone := ← optional? Value.toBinary64? .zero fractionDone
      elapsedSecs := ← optional? Value.toBinary64? .zero elapsedSecs
      remainingSecs := ← optional? Value.toBinary64? .zero remainingSecs
      deadline := ← required? timestamp? deadline
      state := ← optional? (named? TaskState.ofName?) .new state
      suspended := ← optional? Value.toBool? false suspended
      active := ← optional? Value.toBool? false active }
  | _ => none

def Transfer.ofJson? (value : Value) : Option Transfer := do
  let fields ← fields? ["project_url", "project_name", "file_name", "bytes_done", "total_bytes",
    "elapsed_secs", "rate_bps", "direction", "active", "retries"] value
  match fields with
  | [projectUrl, projectName, fileName, bytesDone, totalBytes, elapsedSecs, bytesPerSecond,
      direction, active, retries] =>
    return {
      projectUrl := ← optional? Value.toText? "" projectUrl
      projectName := ← optional? Value.toText? "" projectName
      fileName := ← optional? Value.toText? "" fileName
      bytesDone := ← optional? Value.toBinary64? .zero bytesDone
      totalBytes := ← optional? Value.toBinary64? .zero totalBytes
      elapsedSecs := ← optional? Value.toBinary64? .zero elapsedSecs
      bytesPerSecond := ← optional? Value.toBinary64? .zero bytesPerSecond
      direction := ← optional? (named? TransferDirection.ofName?) .download direction
      active := ← optional? Value.toBool? false active
      retries := UInt32.ofNat (← optional? (Value.toNat? 4294967295) 0 retries) }
  | _ => none

def seqno? (value : Value) : Option UInt64 := (value.toNat? Text.maxUInt64).map UInt64.ofNat

def Message.ofJson? (value : Value) : Option Message := do
  let fields ← fields? ["seqno", "project_name", "timestamp", "priority", "body"] value
  match fields with
  | [seqno, projectName, timestamp, priority, body] =>
    return {
      seqno := ← required? seqno? seqno
      projectName := ← optional? Value.toText? "" projectName
      timestamp := ← required? timestamp? timestamp
      priority := ← optional? (named? Priority.ofName?) .info priority
      body := ← required? Value.toText? body }
  | _ => none

def State.ofJson? (value : Value) : Option State := do
  match ← fields? ["projects", "tasks", "transfers"] value with
  | [projects, tasks, transfers] =>
    return {
      projects := ← optional? (Value.toListOf? Project.ofJson?) [] projects
      tasks := ← optional? (Value.toListOf? Task.ofJson?) [] tasks
      transfers := ← optional? (Value.toListOf? Transfer.ofJson?) [] transfers }
  | _ => none

def MessageBatch.ofJson? (value : Value) : Option MessageBatch := do
  match ← fields? ["latest_seqno", "messages"] value with
  | [latestSeqno, messages] =>
    return {
      latestSeqno := ← optional? seqno? 0 latestSeqno
      messages := ← optional? (Value.toListOf? Message.ofJson?) [] messages }
  | _ => none

def State.read? (text : String) : Option State := (Json.read? text).bind State.ofJson?

def MessageBatch.read? (text : String) : Option MessageBatch :=
  (Json.read? text).bind MessageBatch.ofJson?

end ComputeMonitor.Client
