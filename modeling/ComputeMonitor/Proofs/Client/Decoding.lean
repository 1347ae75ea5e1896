import ComputeMonitor.Client.Decoding
import ComputeMonitor.Proofs.Calendar.Year

/-!
Where the times of a decoded answer come from.

Deadlines and the times of messages have no default and are read from texts, so that whatever holds of all
instants that can be read holds of them.
-/

set_option autoImplicit false

namespace ComputeMonitor

namespace Json

variable {α : Type} {read : Value → Option α}

theorem Value.mem_of_toListOf? {value : Value} {entries : List α}
    (isList : value.toListOf? read = some entries) {entry : α} (member : entry ∈ entries) :
    ∃ element, read element = some entry := by
  unfold toListOf? at isList
  split at isList
  case h_2 => cases isList
  case h_1 elements =>
    induction elements generalizing entries with
    | nil =>
      cases isList
      cases member
    | cons first rest ih =>
      simp only [List.mapM_cons, Option.bind_eq_bind, Option.bind_eq_some_iff, Option.pure_def] at isList
      obtain ⟨firstEntry, isFirst, restEntries, isRest, same⟩ := isList
      cases same
      rcases List.mem_cons.1 member with rfl | later
      · exact ⟨first, isFirst⟩
      · exact ih later isRest

theorem mem_of_optional? {field : Option Value} {entries : List α}
    (isList : optional? (Value.toListOf? read) [] field = some entries) {entry : α}
    (member : entry ∈ entries) : ∃ element, read element = some entry := by
  cases field with
  | none =>
    cases isList
    cases member
  | some value => exact Value.mem_of_toListOf? isList member

theorem exists_of_required? {field : Option Value} {found : α}
    (isFound : required? read field = some found) : ∃ value, read value = some found := by
  cases field with
  | none => cases isFound
  | some value => exact ⟨value, isFound⟩

end Json

namespace Client

open Calendar (Timestamp)

theorem isRead_of_required? {field : Option Json.Value} {time : Timestamp}
    (isFound : Json.required? timestamp? field = some time) : time.IsRead := by
  obtain ⟨value, isTime⟩ := Json.exists_of_required? isFound
  obtain ⟨text, -, isTime⟩ := Option.bind_eq_some_iff.1 isTime
  exact ⟨text.toList, isTime⟩

theorem Task.ofJson?_deadline {value : Json.Value} {task : Task} (isTask : ofJson? value = some task) :
    task.deadline.IsRead := by
  simp only [ofJson?, Option.bind_eq_bind, Option.bind_eq_some_iff] at isTask
  obtain ⟨fields, -, isTask⟩ := isTask
  split at isTask
  case h_2 => cases isTask
  case h_1 =>
    simp only [Option.bind_eq_some_iff, Option.pure_def, Option.some.injEq] at isTask
    obtain ⟨_, -, _, -, _, -, _, -, _, -, _, -, _, -, deadline, isDeadline, _, -, _, -, _, -, rfl⟩ := isTask
    exact isRead_of_required? isDeadline

theorem Message.ofJson?_timestamp {value : Json.Value} {message : Message}
    (isMessage : ofJson? value = some message) : message.timestamp.IsRead := by
  simp only [ofJson?, Option.bind_eq_bind, Option.bind_eq_some_iff] at isMessage
  obtain ⟨fields, -, isMessage⟩ := isMessage
  split at isMessage
  case h_2 => cases isMessage
  case h_1 =>
    simp only [Option.bind_eq_some_iff, Option.pure_def, Option.some.injEq] at isMessage
    obtain ⟨_, -, _, -, timestamp, isTimestamp, _, -, _, -, rfl⟩ := isMessage
    exact isRead_of_required? isTimestamp

/-- The tasks of a state that was read have deadlines that were read. -/
theorem State.read?_deadline {text : String} {state : State} (isState : read? text = some state)
    {task : Task} (member : task ∈ state.tasks) : task.deadline.IsRead := by
  obtain ⟨value, -, isState⟩ := Option.bind_eq_some_iff.1 isState
  simp only [ofJson?, Option.bind_eq_bind, Option.bind_eq_some_iff] at isState
  obtain ⟨fields, -, isState⟩ := isState
  split at isState
  case h_2 => cases isState
  case h_1 =>
    simp only [Option.bind_eq_some_iff, Option.pure_def, Option.some.injEq] at isState
    obtain ⟨_, -, tasks, areTasks, _, -, rfl⟩ := isState
    obtain ⟨element, isTask⟩ := Json.mem_of_optional? areTasks member
    exact Task.ofJson?_deadline isTask

theorem MessageBatch.read?_timestamp {text : String} {batch : MessageBatch}
    (isBatch : read? text = some batch) {message : Message} (member : message ∈ batch.messages) :
    message.timestamp.IsRead := by
  obtain ⟨value, -, isBatch⟩ := Option.bind_eq_some_iff.1 isBatch
  simp only [ofJson?, Option.bind_eq_bind, Option.bind_eq_some_iff] at isBatch
  obtain ⟨fields, -, isBatch⟩ := isBatch
  split at isBatch
  case h_2 => cases isBatch
  case h_1 =>
    simp only [Option.bind_eq_some_iff, Option.pure_def, Option.some.injEq] at isBatch
    obtain ⟨_, -, messages, areMessages, rfl⟩ := isBatch
    obtain ⟨element, isMessage⟩ := Json.mem_of_optional? areMessages member
    exact Message.ofJson?_timestamp isMessage

end Client
end ComputeMonitor
