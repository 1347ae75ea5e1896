import ComputeMonitor.Proofs.Client.Decoding
import ComputeMonitor.Proofs.Client.MessageLog
import ComputeMonitor.Proofs.Table.RowOrder
import ComputeMonitor.Proofs.Workspace.Command

/-!
Showing a document of decoded answers, which one kind of answer prevents.

Any instant that can be read is a time of an item, also one that is in range at its own offset and lies
after the last year of the calendar in universal time, as which it is shown. A table that has to format it
ends the program. All other contents, and all entries, orders and selections of the table, are shown.
-/

set_option autoImplicit false

namespace ComputeMonitor

open Calendar (Timestamp)

namespace Client

def ViewKind.time? : (kind : ViewKind) → kind.Item → Option Timestamp
  | .projects, _ => none
  | .tasks, task => some task.deadline
  | .transfers, _ => none
  | .events, message => some message.timestamp

theorem ViewKind.isShowable_eq_false_iff {kind : ViewKind} {item : kind.Item} :
    kind.isShowable item = false ↔ ∃ time, kind.time? item = some time ∧ time.universal? = none := by
  cases kind with
  | projects | transfers => simp [isShowable, time?]
  | tasks => simp [isShowable, time?, Task.isShowable]
  | events => simp [isShowable, time?, Message.isShowable]

/-- The state of a document is what one text says, and its messages are among those of another one. -/
structure Document.TakenFrom (stateText batchText : String) (document : Document) : Prop where
  state : State.read? stateText = some document.state
  messages : ∃ batch, MessageBatch.read? batchText = some batch ∧ document.messages ⊆ batch.messages

theorem Document.takenFrom_appendMessages {stateText batchText : String} {state : State}
    {batch : MessageBatch} (hasState : State.read? stateText = some state)
    (hasBatch : MessageBatch.read? batchText = some batch) (limit : Nat) :
    (({ state } : Document).appendMessages batch.messages limit).1.TakenFrom stateText batchText where
  state := hasState
  messages := by
    refine ⟨batch, hasBatch, fun message member => ?_⟩
    have held : message ∈ [] ++ newerThan 0 batch.messages := List.mem_of_mem_drop member
    exact newerThan_subset 0 batch.messages held

theorem Document.TakenFrom.time_isRead {stateText batchText : String} {document : Document}
    (taken : document.TakenFrom stateText batchText) {kind : ViewKind} {item : kind.Item}
    (member : item ∈ kind.items document) {time : Timestamp} (isTime : kind.time? item = some time) :
    time.IsRead := by
  cases kind with
  | projects | transfers => cases isTime
  | tasks =>
    cases isTime
    exact State.read?_deadline taken.state member
  | events =>
    cases isTime
    obtain ⟨batch, hasBatch, among⟩ := taken.messages
    exact MessageBatch.read?_timestamp hasBatch (among member)

end Client

namespace Workspace

open Client (Document MessageBatch State Task ViewKind)
open Table (Collection ListView)

/-- The active table has to format an item of a document whose time lies after the last year of the
calendar. -/
def FormatsLateTime (workspace : Workspace) (document : Document) : Prop :=
  ∃ index item time, (workspace.active.items document)[index]? = some item ∧
    workspace.active.time? item = some time ∧ Calendar.endOfRange ≤ time.unixSeconds ∧
    workspace.activeView.cache.NeedsFormat workspace.active.schema index item

/-- The active table was refreshed from a document: it polls no more, there is an entry for every item,
which is up to date with it, and rows that were in order are so in any way of sorting. -/
structure Completes (workspace : Workspace) (document : Document) (after : Workspace × TickOutcome) :
    Prop where
  active : after.1.active = workspace.active
  refreshed : ∃ report, after.2 = .refreshed report
  idle : after.1.activeView.schedule.phase = .idle
  length : after.1.activeView.cache.length = (workspace.active.items document).length
  current : ∀ index item, (workspace.active.items document)[index]? = some item →
    ¬ after.1.activeView.cache.NeedsFormat workspace.active.schema index item
  sorted : workspace.activeView.Ordered workspace.active.schema → ∀ sort,
    (after.1.activeView.applySort workspace.active.schema sort).Ordered workspace.active.schema

variable {workspace : Workspace} {document : Document}

theorem firstRefused?_isSome_iff_formatsLateTime {stateText batchText : String}
    (taken : document.TakenFrom stateText batchText) :
    (workspace.firstRefused? document).isSome = true ↔ workspace.FormatsLateTime document := by
  rw [firstRefused?, Table.Cache.firstRefused?_isSome_iff, ViewKind.collection, Collection.reachable_ofList]
  constructor
  · rintro ⟨index, item, itemAt, isRefused, needs⟩
    obtain ⟨time, isTime, beyond⟩ := ViewKind.isShowable_eq_false_iff.1 (by simpa using isRefused)
    have isRead := taken.time_isRead (List.mem_of_getElem? itemAt) isTime
    exact ⟨index, item, time, itemAt, isTime, isRead.universal?_eq_none_iff.1 beyond, needs⟩
  · rintro ⟨index, item, time, itemAt, isTime, late, needs⟩
    have isRead := taken.time_isRead (List.mem_of_getElem? itemAt) isTime
    have refused := ViewKind.isShowable_eq_false_iff.2 ⟨time, isTime, isRead.universal?_eq_none_iff.2 late⟩
    exact ⟨index, item, itemAt, by simpa using refused, needs⟩

theorem completes_of_accepted (accepted : workspace.firstRefused? document = none)
    (polling : workspace.activeView.schedule.phase = .polling) :
    workspace.Completes document (workspace.showDocument document) := by
  obtain ⟨report, isShown⟩ := showDocument_of_accepted accepted polling
  have refreshed := workspace.activeView.fetchComplete_rows workspace.active.schema polling
    (workspace.active.collection document)
  obtain ⟨_, _, completed, idle, -⟩ := workspace.activeView.fetchComplete_of_polling workspace.active.schema
    polling (workspace.active.collection document)
  have isItems : (workspace.active.collection document).reachable = workspace.active.items document :=
    Collection.reachable_ofList _
  rw [isShown]
  refine ⟨workspace.active_setView _ _, ⟨report, rfl⟩, ?_, ?_, ?_, ?_⟩ <;> rw [activeView_setView]
  · rw [completed]
    exact idle
  · rw [refreshed.cache, Table.Cache.length_synchronize, isItems]
  · intro index item itemAt
    rw [refreshed.cache]
    exact Table.Cache.not_needsFormat_synchronize _ _ _ (isItems ▸ itemAt)
  · intro ordered sort
    have sorted := ListView.adjust_rows workspace.active.schema
      (workspace.completed document).1 (.applySort sort)
    exact sorted.ordered (refreshed.ordered ordered)

/-- For all decoded answers and all entries, orders and selections of the active table, showing the answers
ends the program just when an item has to be formatted whose time lies after the last year of the
calendar. Otherwise the refresh is completed. -/
theorem showDocument_crashed_iff {stateText batchText : String}
    (taken : document.TakenFrom stateText batchText)
    (polling : workspace.activeView.schedule.phase = .polling) :
    ((workspace.showDocument document).2 = .crashed ↔ workspace.FormatsLateTime document) ∧
      (¬ workspace.FormatsLateTime document →
        workspace.Completes document (workspace.showDocument document)) := by
  rw [← firstRefused?_isSome_iff_formatsLateTime taken]
  cases isFirst : workspace.firstRefused? document with
  | some index =>
    rw [showDocument_of_refused isFirst]
    exact ⟨⟨fun _ => rfl, fun _ => rfl⟩, fun accepted => (accepted rfl).elim⟩
  | none =>
    have completes := completes_of_accepted isFirst polling
    obtain ⟨report, isReport⟩ := completes.refreshed
    refine ⟨⟨fun isCrashed => ?_, fun isRefused => ?_⟩, fun _ => completes⟩
    · rw [isReport] at isCrashed
      cases isCrashed
    · cases isRefused

section LastHour

/-- A task whose deadline is in the last year at its own offset and after it in universal time. -/
def lastHourText : String :=
  "\x7b\"tasks\":[\x7b\"project_url\":\"a\",\"name\":\"t\",\"deadline\":\"9999-12-31T23:30:00-01:00\"\x7d]\x7d"

def lastHourTask : Task where
  projectUrl := "a"
  name := "t"
  deadline := ⟨⟨⟨9999, 12, 31⟩, 23, 30, 0, 0⟩, -3600⟩

theorem read_lastHourText : State.read? lastHourText = some { tasks := [lastHourTask] } := by
  decide +kernel

def pollingWorkspace : Workspace :=
  (Workspace.new {}).update .tasks fun view => { view with schedule.phase := .polling }

theorem last_hour_crashed_iff :
    let document := (({ state := { tasks := [lastHourTask] } } : Document).appendMessages [] 2000).1
    document.TakenFrom lastHourText "\x7b\x7d" ∧
      pollingWorkspace.activeView.schedule.phase = .polling ∧
      pollingWorkspace.FormatsLateTime document ∧
      ((pollingWorkspace.showDocument document).2 = .crashed ↔
        pollingWorkspace.FormatsLateTime document) ∧
      (¬ pollingWorkspace.FormatsLateTime document →
        pollingWorkspace.Completes document (pollingWorkspace.showDocument document)) := by
  intro document
  have noBatch : MessageBatch.read? "\x7b\x7d" = some {} := by decide +kernel
  have taken : document.TakenFrom lastHourText "\x7b\x7d" :=
    Document.takenFrom_appendMessages read_lastHourText noBatch 2000
  have late : pollingWorkspace.FormatsLateTime document := by
    refine ⟨0, lastHourTask, lastHourTask.deadline, rfl, rfl, by decide +kernel, ?_⟩
    intro entry entryAt
    cases entryAt
  exact ⟨taken, rfl, late, showDocument_crashed_iff taken rfl⟩

theorem last_hour_crashes :
    ¬ ∀ stateText batchText state batch, State.read? stateText = some state →
      MessageBatch.read? batchText = some batch →
      (pollingWorkspace.showDocument ⟨state, batch.messages⟩).2 ≠ .crashed := by
  intro neverCrashes
  have noBatch : MessageBatch.read? "\x7b\x7d" = some {} := by decide +kernel
  exact neverCrashes _ _ _ _ read_lastHourText noBatch (by decide +kernel)

end LastHour

end Workspace
end ComputeMonitor
