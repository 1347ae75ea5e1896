import ComputeMonitor.Client.Views
import ComputeMonitor.Proofs.Table.Cache

/-!
What the change tokens of the four tables vouch for.

A fingerprint is taken of everything that a row shows, so that items with the same parts are shown alike;
the same fingerprint says as much as far as fingerprints do not collide. The number of a message says it
within a log whose numbers rise, and only there.
-/

set_option autoImplicit false

namespace ComputeMonitor.Client

open ComputeMonitor.Table (Schema)

theorem Project.eq_of_parts {left right : Project} (same : left.parts = right.parts) : left = right := by
  cases left
  cases right
  simp only [parts, List.cons.injEq, Fingerprint.Part.text.injEq, Fingerprint.Part.number.injEq,
    Fingerprint.Part.flag.injEq] at same
  simp only [same]

theorem Transfer.eq_of_parts {left right : Transfer} (same : left.parts = right.parts) :
    left = right := by
  have direction {left right : TransferDirection} (same : left.ctorIdx = right.ctorIdx) :
      left = right := by
    cases left <;> cases right <;> first | rfl | cases same
  cases left
  cases right
  simp only [parts, List.cons.injEq, Fingerprint.Part.text.injEq, Fingerprint.Part.number.injEq,
    Fingerprint.Part.flag.injEq, Fingerprint.Part.variant.injEq, Fingerprint.Part.count.injEq] at same
  simp only [same, direction same.2.2.2.2.2.2.2.1]

theorem TaskState.eq_of_ctorIdx {left right : TaskState} (same : left.ctorIdx = right.ctorIdx) :
    left = right := by
  cases left <;> cases right <;> first | rfl | cases same

theorem instantText?_eq (time : Calendar.Timestamp) :
    Cell.instantText? time =
      let moment := Calendar.Moment.ofSecondNumber time.unixSeconds 0
      if Calendar.Timestamp.yearInRange moment.date.year then some (String.ofList moment.cellChars)
      else none := by
  unfold Cell.instantText? Calendar.Timestamp.universal?
  dsimp only
  rw [apply_ite (Option.map _)]
  rfl

/-- Tasks with the same parts may have deadlines within one second, which no cell shows. -/
theorem Task.shown_alike {left right : Task} (same : left.parts = right.parts) :
    schema.rowKey left = schema.rowKey right ∧ schema.cells left = schema.cells right ∧
      schema.progress left = schema.progress right := by
  simp only [parts, List.cons.injEq, Fingerprint.Part.text.injEq, Fingerprint.Part.number.injEq,
    Fingerprint.Part.signed.injEq, Fingerprint.Part.flag.injEq, Fingerprint.Part.variant.injEq] at same
  obtain ⟨url, project, name, app, fraction, elapsed, remaining, deadline, state, suspended, active, -⟩ :=
    same
  have sameState := TaskState.eq_of_ctorIdx state
  have sameText : Cell.instantText? left.deadline = Cell.instantText? right.deadline := by
    rw [instantText?_eq, instantText?_eq, deadline]
  have sameStatus : left.statusLabel = right.statusLabel := by
    simp only [statusLabel, sameState, suspended, active]
  have sameCell : cell left = cell right := by
    funext column
    unfold cell
    rw [project, fraction, sameStatus, elapsed, remaining, sameText, app, name]
  refine ⟨?_, ?_, ?_⟩
  · simp only [schema, url, name]
  · simp only [schema, Schema.cells, sameCell]
  · simp only [schema, fraction]

def ViewKind.itemsIn (kind : ViewKind) (documents : List Document) : List kind.Item :=
  documents.flatMap kind.items

/-- Among the items of some documents, the same fingerprint is taken of the same parts only. -/
structure NoCollisions (documents : List Document) : Prop where
  projects : ∀ left ∈ ViewKind.projects.itemsIn documents, ∀ right ∈ ViewKind.projects.itemsIn documents,
    Project.fingerprint left = Project.fingerprint right → Project.parts left = Project.parts right
  tasks : ∀ left ∈ ViewKind.tasks.itemsIn documents, ∀ right ∈ ViewKind.tasks.itemsIn documents,
    Task.fingerprint left = Task.fingerprint right → Task.parts left = Task.parts right
  transfers : ∀ left ∈ ViewKind.transfers.itemsIn documents,
    ∀ right ∈ ViewKind.transfers.itemsIn documents,
    Transfer.fingerprint left = Transfer.fingerprint right → Transfer.parts left = Transfer.parts right

instance (documents : List Document) : Decidable (NoCollisions documents) :=
  decidable_of_iff
    ((∀ left ∈ ViewKind.projects.itemsIn documents, ∀ right ∈ ViewKind.projects.itemsIn documents,
        Project.fingerprint left = Project.fingerprint right → Project.parts left = Project.parts right) ∧
      (∀ left ∈ ViewKind.tasks.itemsIn documents, ∀ right ∈ ViewKind.tasks.itemsIn documents,
        Task.fingerprint left = Task.fingerprint right → Task.parts left = Task.parts right) ∧
      (∀ left ∈ ViewKind.transfers.itemsIn documents, ∀ right ∈ ViewKind.transfers.itemsIn documents,
        Transfer.fingerprint left = Transfer.fingerprint right →
          Transfer.parts left = Transfer.parts right))
    ⟨fun ⟨projects, tasks, transfers⟩ => ⟨projects, tasks, transfers⟩,
      fun distinct => ⟨distinct.projects, distinct.tasks, distinct.transfers⟩⟩

/-- What a table may have been formatted from: items of documents that were held, but messages of the
current log only. -/
def ViewKind.Known (documents : List Document) (log : List Message) : (kind : ViewKind) → kind.Item → Prop
  | .events => (· ∈ log)
  | .projects => (· ∈ ViewKind.projects.itemsIn documents)
  | .tasks => (· ∈ ViewKind.tasks.itemsIn documents)
  | .transfers => (· ∈ ViewKind.transfers.itemsIn documents)

def Ascending (log : List Message) : Prop := log.Pairwise fun left right => left.seqno < right.seqno

theorem Ascending.eq_of_seqno {log : List Message} (ascending : Ascending log) {left right : Message}
    (leftMember : left ∈ log) (rightMember : right ∈ log) (same : left.seqno = right.seqno) :
    left = right := by
  obtain ⟨first, firstBound, rfl⟩ := List.mem_iff_getElem.1 leftMember
  obtain ⟨second, secondBound, rfl⟩ := List.mem_iff_getElem.1 rightMember
  have rising := List.pairwise_iff_getElem.1 ascending
  rcases Nat.lt_trichotomy first second with less | rfl | greater
  · exact absurd same (UInt64.ne_of_lt (rising first second firstBound secondBound less))
  · rfl
  · exact absurd same.symm (UInt64.ne_of_lt (rising second first secondBound firstBound greater))

theorem NoCollisions.coherent_known {documents : List Document} {log : List Message}
    (distinct : NoCollisions documents) (ascending : Ascending log) (kind : ViewKind) :
    kind.schema.Coherent (kind.Known documents log) := by
  cases kind with
  | projects =>
    intro left right leftSeen rightSeen same
    obtain rfl := Project.eq_of_parts (distinct.projects left leftSeen right rightSeen same)
    exact ⟨rfl, rfl, rfl⟩
  | tasks =>
    intro left right leftSeen rightSeen same
    exact Task.shown_alike (distinct.tasks left leftSeen right rightSeen same)
  | transfers =>
    intro left right leftSeen rightSeen same
    obtain rfl := Transfer.eq_of_parts (distinct.transfers left leftSeen right rightSeen same)
    exact ⟨rfl, rfl, rfl⟩
  | events =>
    intro left right leftMember rightMember same
    obtain rfl := ascending.eq_of_seqno leftMember rightMember same
    exact ⟨rfl, rfl, rfl⟩

end ComputeMonitor.Client
