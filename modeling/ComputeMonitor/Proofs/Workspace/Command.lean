import ComputeMonitor.Proofs.Table.Operation
import ComputeMonitor.Workspace

/-!
Everything that can be done to the tables over one source, and runs of it.
-/

set_option autoImplicit false

namespace ComputeMonitor.Workspace

open ComputeMonitor.Client (Document ViewKind)
open ComputeMonitor.Table (Adjustment Layout ListView RefreshReport)
open ComputeMonitor.Table.ListView (RowsKept)

inductive Command where
  | tick (now : Nat)
  | setActive (kind : ViewKind)
  | setIntervals (intervals : Intervals)
  | forceRefresh
  | applyLayout (kind : ViewKind) (layout : Layout)
  | adjust (kind : ViewKind) (adjustment : Adjustment)

section Runs

variable {σ : Type} [DocumentSource σ]

/-- Carry out a command; only a tick of the clock reaches the source. -/
def obey (state : Workspace × σ) : Command → Workspace × σ
  | .tick now => ((state.1.tick now state.2).1, (state.1.tick now state.2).2.1)
  | .setActive kind => (state.1.setActive kind, state.2)
  | .setIntervals intervals => (state.1.setIntervals intervals, state.2)
  | .forceRefresh => (state.1.forceRefresh, state.2)
  | .applyLayout kind layout => (state.1.applyLayout kind layout, state.2)
  | .adjust kind adjustment => (state.1.update kind (·.adjust kind.schema adjustment), state.2)

def run (state : Workspace × σ) (commands : List Command) : Workspace × σ := commands.foldl obey state

/-- The documents that the source holds in the course of a run, at the start and after each command. -/
def documents (state : Workspace × σ) : List Command → List Document
  | [] => [DocumentSource.document state.2]
  | command :: rest => DocumentSource.document state.2 :: documents (obey state command) rest

theorem document_mem_documents (state : Workspace × σ) (commands : List Command) :
    DocumentSource.document state.2 ∈ documents state commands := by
  cases commands with
  | nil => exact List.mem_cons_self
  | cons command rest => exact List.mem_cons_self

theorem final_document_mem_documents (state : Workspace × σ) (commands : List Command) :
    DocumentSource.document (run state commands).2 ∈ documents state commands := by
  induction commands generalizing state with
  | nil => exact List.mem_cons_self
  | cons command rest ih => exact List.mem_cons_of_mem _ (ih (obey state command))

theorem documents_subset_append (state : Workspace × σ) (commands more : List Command) :
    documents state commands ⊆ documents state (commands ++ more) := by
  induction commands generalizing state with
  | nil =>
    intro document member
    rw [List.mem_singleton.1 member]
    exact document_mem_documents state more
  | cons command rest ih => exact List.cons_subset_cons _ (ih (obey state command))

theorem run_append_single (state : Workspace × σ) (commands : List Command) (command : Command) :
    run state (commands ++ [command]) = obey (run state commands) command := by
  rw [run, List.foldl_append]
  rfl

end Runs

def relink (workspace : Workspace) (link : Link) : Workspace := { workspace with link }

section Ticks

variable {σ : Type} [DocumentSource σ] {workspace : Workspace} {now : Nat} {source : σ}

theorem tick_of_not_due
    (notDue : (workspace.relink (DocumentSource.link source)).activeView.tick? now
      (DocumentSource.link source) = none) :
    workspace.tick now source = (workspace.relink (DocumentSource.link source), source, .skipped) := by
  unfold relink at notDue ⊢
  simp only [tick, notDue]

/-- The workspace while the source is being asked, with the state of the link that comes of it. -/
def asking (workspace : Workspace) (view : ListView) (before after : Link) : Workspace :=
  ((workspace.relink before).setView workspace.active view).relink after

theorem tick_of_failure {view : ListView}
    (begun : (workspace.relink (DocumentSource.link source)).activeView.tick? now
      (DocumentSource.link source) = some view)
    {failure : Failure} {after : σ}
    (failed : DocumentSource.refresh source = (.error (.failed failure), after)) :
    workspace.tick now source =
      ((workspace.asking view (DocumentSource.link source) (DocumentSource.link after)).update
        workspace.active ListView.fetchFailed, after, .failed failure) := by
  unfold relink at begun
  simp only [tick, begun, failed]
  rfl

theorem tick_of_crash {view : ListView}
    (begun : (workspace.relink (DocumentSource.link source)).activeView.tick? now
      (DocumentSource.link source) = some view)
    {after : σ} (crashed : DocumentSource.refresh source = (.error .crashed, after)) :
    workspace.tick now source =
      (workspace.asking view (DocumentSource.link source) (DocumentSource.link source), after, .crashed) := by
  unfold relink at begun
  simp only [tick, begun, crashed]
  unfold asking relink setView
  cases workspace.active <;> rfl

theorem tick_of_answer {view : ListView}
    (begun : (workspace.relink (DocumentSource.link source)).activeView.tick? now
      (DocumentSource.link source) = some view)
    {after : σ} (answered : DocumentSource.refresh source = (.ok (), after)) :
    let shown := ((workspace.asking view (DocumentSource.link source)
      (DocumentSource.link after)).noteSession (DocumentSource.session after)).showDocument
        (DocumentSource.document after)
    workspace.tick now source = (shown.1, after, shown.2) := by
  unfold relink at begun
  simp only [tick, begun, answered]
  rfl

end Ticks

section Views

variable (workspace : Workspace)

@[simp]
theorem view_blank (intervals : Intervals) (kind : ViewKind) :
    (blank intervals).view kind = .new kind.schema (intervals.cadence kind) := by
  cases kind <;> rfl

theorem view_setView (kind other : ViewKind) (view : ListView) :
    (workspace.setView kind view).view other = if other = kind then view else workspace.view other := by
  cases kind <;> cases other <;> rfl

theorem view_updateAll (change : ViewKind → ListView → ListView) (kind : ViewKind) :
    (workspace.updateAll change).view kind = change kind (workspace.view kind) := by
  cases kind <;> rfl

theorem view_session (session : Option Nat) (kind : ViewKind) :
    { workspace with session }.view kind = workspace.view kind := by
  cases kind <;> rfl

theorem view_relink (link : Link) (kind : ViewKind) :
    (workspace.relink link).view kind = workspace.view kind := by
  cases kind <;> rfl

theorem activeView_relink (link : Link) : (workspace.relink link).activeView = workspace.activeView :=
  workspace.view_relink link _

theorem session_setView (kind : ViewKind) (view : ListView) :
    (workspace.setView kind view).session = workspace.session := by
  cases kind <;> rfl

theorem active_setView (kind : ViewKind) (view : ListView) :
    (workspace.setView kind view).active = workspace.active := by
  cases kind <;> rfl

theorem activeView_setView (view : ListView) :
    (workspace.setView workspace.active view).activeView = view := by
  rw [activeView, active_setView, view_setView, if_pos rfl]

theorem session_update (kind : ViewKind) (change : ListView → ListView) :
    (workspace.update kind change).session = workspace.session := workspace.session_setView kind _

theorem session_updateAll (change : ViewKind → ListView → ListView) :
    (workspace.updateAll change).session = workspace.session := by
  simp only [updateAll, ViewKind.all, List.foldl_cons, List.foldl_nil, session_update]

theorem noteSession_session (session : Nat) :
    (workspace.noteSession session).session = some session := rfl

theorem active_updateAll (change : ViewKind → ListView → ListView) :
    (workspace.updateAll change).active = workspace.active := rfl

theorem view_setActive (kind other : ViewKind) : (workspace.setActive kind).view other =
    let diagnosing := (workspace.view other).reschedule (·.setDiagnosticsOpen kind.isDiagnostics)
    if other = kind then diagnosing.forceRefresh else diagnosing := by
  unfold setActive update
  rw [view_setView, view_updateAll, view_updateAll]
  cases kind <;> cases other <;> rfl

theorem active_setActive (kind : ViewKind) : (workspace.setActive kind).active = kind := by
  rw [setActive, update, active_setView, active_updateAll]

def startsSession (session : Nat) : Bool := workspace.session.any (· != session)

/-- Noting a session leaves the tables, or marks their entries if it is a new one. -/
theorem view_noteSession (session : Nat) (kind : ViewKind) : (workspace.noteSession session).view kind =
    if workspace.startsSession session then (workspace.view kind).invalidate else workspace.view kind := by
  unfold noteSession startsSession
  cases workspace.session with
  | none => exact workspace.view_session (some session) kind
  | some known =>
    by_cases same : known = session
    · simp [same, view_session]
    · simp [same, view_session, view_updateAll]

theorem active_noteSession (session : Nat) : (workspace.noteSession session).active = workspace.active := by
  unfold noteSession
  cases workspace.session with
  | none => rfl
  | some known =>
    dsimp only
    split <;> rfl

theorem phase_noteSession (session : Nat) :
    (workspace.noteSession session).activeView.schedule.phase = workspace.activeView.schedule.phase := by
  rw [activeView, active_noteSession, view_noteSession]
  split <;> rfl

end Views

/-! What holds of all tables, each of its own kind, goes on doing so when some of them change. -/

section Everywhere

variable {Holds : ViewKind → ListView → Prop} {workspace : Workspace}
  (everywhere : ∀ kind, Holds kind (workspace.view kind))
include everywhere

theorem setView_keeps {kind : ViewKind} {view : ListView} (held : Holds kind view) :
    ∀ other, Holds other ((workspace.setView kind view).view other) := by
  intro other
  rw [view_setView]
  split
  next same => exact same ▸ held
  next => exact everywhere other

theorem updateAll_keeps {change : ViewKind → ListView → ListView}
    (keeps : ∀ kind view, Holds kind view → Holds kind (change kind view)) :
    ∀ kind, Holds kind ((workspace.updateAll change).view kind) := by
  intro kind
  rw [view_updateAll]
  exact keeps kind _ (everywhere kind)

theorem relink_keeps (link : Link) : ∀ kind, Holds kind ((workspace.relink link).view kind) := by
  intro kind
  rw [view_relink]
  exact everywhere kind

theorem noteSession_keeps (marks : ∀ kind view, Holds kind view → Holds kind view.invalidate) (session : Nat) :
    ∀ kind, Holds kind ((workspace.noteSession session).view kind) := by
  intro kind
  rw [view_noteSession]
  split
  · exact marks kind _ (everywhere kind)
  · exact everywhere kind

end Everywhere

section Showing

def firstRefused? (workspace : Workspace) (document : Document) : Option Nat :=
  workspace.activeView.cache.firstRefused? workspace.active.schema
    (fun item => !workspace.active.isShowable item) (workspace.active.collection document)

def completed (workspace : Workspace) (document : Document) : ListView × Option RefreshReport :=
  workspace.activeView.fetchComplete workspace.active.schema (workspace.active.collection document)

variable {workspace : Workspace} {document : Document}

theorem showDocument_of_refused {index : Nat}
    (refused : workspace.firstRefused? document = some index) :
    workspace.showDocument document = (workspace.setView workspace.active
      (workspace.activeView.fetchAbandoned workspace.active.schema
        (workspace.active.collection document) index), .crashed) := by
  unfold firstRefused? at refused
  simp only [showDocument, refused]

/-- If the active table polls and no item is refused, the fetch is completed and reported. -/
theorem showDocument_completed (accepted : workspace.firstRefused? document = none)
    (polling : workspace.activeView.schedule.phase = .polling) :
    ∃ report, (workspace.completed document).2 = some report ∧ workspace.showDocument document =
      (workspace.setView workspace.active (workspace.completed document).1, .refreshed report) := by
  obtain ⟨_, _, -, -, isReport⟩ := workspace.activeView.fetchComplete_of_polling
    workspace.active.schema polling (workspace.active.collection document)
  refine ⟨_, isReport, ?_⟩
  unfold firstRefused? at accepted
  simp only [showDocument, accepted]
  split
  next isCompleted =>
    rw [isCompleted] at isReport
    rw [completed, isCompleted, Option.some.inj isReport]
  next isIgnored =>
    rw [isIgnored] at isReport
    cases isReport

theorem showDocument_of_accepted (accepted : workspace.firstRefused? document = none)
    (polling : workspace.activeView.schedule.phase = .polling) :
    ∃ report, workspace.showDocument document = (workspace.setView workspace.active
      (workspace.activeView.fetchComplete workspace.active.schema
        (workspace.active.collection document)).1, .refreshed report) := by
  obtain ⟨report, -, isShown⟩ := showDocument_completed accepted polling
  exact ⟨report, isShown⟩

end Showing

/-- A step that leaves the entries of all tables and the session, and does not free a table that is stuck
in a refresh. -/
structure Keeps (workspace after : Workspace) : Prop where
  rows : ∀ kind : ViewKind, RowsKept kind.schema (workspace.view kind) (after.view kind)
  stuck : ∀ kind, (workspace.view kind).schedule.phase = .synchronizing →
    (after.view kind).schedule.phase = .synchronizing
  session : after.session = workspace.session

theorem keeps_relink (workspace : Workspace) (link : Link) :
    Keeps workspace (workspace.relink link) where
  rows kind := by rw [view_relink]; exact .still rfl rfl rfl
  stuck kind isStuck := by rw [view_relink]; exact isStuck
  session := rfl

theorem keeps_updateAll (workspace : Workspace) (change : ViewKind → ListView → ListView)
    (kept : ∀ (kind : ViewKind) view, RowsKept kind.schema view (change kind view))
    (phase : ∀ kind view, (change kind view).schedule.phase = view.schedule.phase) :
    Keeps workspace (workspace.updateAll change) where
  rows kind := by rw [view_updateAll]; exact kept kind _
  stuck kind isStuck := by rw [view_updateAll, phase]; exact isStuck
  session := workspace.session_updateAll change

theorem keeps_setView (workspace : Workspace) (kind : ViewKind) (view : ListView)
    (kept : RowsKept kind.schema (workspace.view kind) view)
    (stuck : (workspace.view kind).schedule.phase = .synchronizing →
      view.schedule.phase = .synchronizing) : Keeps workspace (workspace.setView kind view) where
  rows other := by
    rw [view_setView]
    split
    next same => exact same ▸ kept
    next => exact .still rfl rfl rfl
  stuck other isStuck := by
    rw [view_setView]
    split
    next same => exact stuck (same ▸ isStuck)
    next => exact isStuck
  session := workspace.session_setView kind view

theorem keeps_adjust (workspace : Workspace) (kind : ViewKind) (adjustment : Adjustment) :
    Keeps workspace (workspace.update kind (·.adjust kind.schema adjustment)) := by
  refine keeps_setView workspace kind _ (ListView.adjust_rows kind.schema _ adjustment) fun stuck => ?_
  rw [ListView.phase_adjust]
  exact stuck

theorem keeps_active (workspace : Workspace) (kind : ViewKind) :
    Keeps workspace { workspace with active := kind } where
  rows other := by cases other <;> exact .still rfl rfl rfl
  stuck other isStuck := by cases other <;> exact isStuck
  session := rfl

theorem keeps_fetchFailed (workspace : Workspace) (kind : ViewKind) :
    Keeps workspace (workspace.update kind ListView.fetchFailed) := by
  refine keeps_setView workspace kind _ ?_ fun stuck => ?_
  · obtain ⟨schedule, same⟩ := (workspace.view kind).fetchFailed_eq
    rw [same]
    exact .still rfl rfl rfl
  · rw [ListView.fetchFailed_of_synchronizing _ stuck]
    exact stuck

end ComputeMonitor.Workspace
