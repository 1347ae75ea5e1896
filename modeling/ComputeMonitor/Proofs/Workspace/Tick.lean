import ComputeMonitor.Proofs.Table.Schedule
import ComputeMonitor.Proofs.Workspace.Command

/-!
Everything that a tick of the clock can do.

A tick that finds the active table not due only takes over the state of the link. Any other asks the source
once, and ends with a failure, with a document shown, in the middle of one, or in the source. What is said here
once about these five courses is all that later proofs know of a tick.
-/

set_option autoImplicit false

namespace ComputeMonitor.Workspace

open ComputeMonitor.Client (Document ViewKind)
open ComputeMonitor.Table (ListView RefreshReport)

section Views

variable (workspace : Workspace) (view : ListView) (before after : Link)

theorem view_asking (kind : ViewKind) : (workspace.asking view before after).view kind =
    if kind = workspace.active then view else workspace.view kind := by
  rw [asking, view_relink, view_setView, view_relink]

theorem active_asking : (workspace.asking view before after).active = workspace.active := by
  rw [asking, relink, active_setView]
  rfl

theorem session_asking : (workspace.asking view before after).session = workspace.session := by
  rw [asking, relink, session_setView]
  rfl

end Views

def abandoned (workspace : Workspace) (document : Document) (index : Nat) : ListView :=
  workspace.activeView.fetchAbandoned workspace.active.schema (workspace.active.collection document) index

section Courses

variable {σ : Type} [DocumentSource σ] (workspace : Workspace) (now : Nat) (source : σ)

/-- The workspace with a poll under way, once an answer has come and its session has been noted. -/
def answered (view : ListView) (after : σ) : Workspace :=
  (workspace.asking view (DocumentSource.link source) (DocumentSource.link after)).noteSession
    (DocumentSource.session after)

inductive TickCourse : Workspace × σ × TickOutcome → Prop where
  | notDue (early : workspace.activeView.tick? now (DocumentSource.link source) = none) :
      TickCourse (workspace.relink (DocumentSource.link source), source, .skipped)
  | failed {view : ListView} {failure : Failure} {after : σ}
      (begun : workspace.activeView.tick? now (DocumentSource.link source) = some view)
      (refused : DocumentSource.refresh source = (.error (.failed failure), after)) :
      TickCourse (workspace.asking view.fetchFailed (DocumentSource.link source) (DocumentSource.link after),
        after, .failed failure)
  | crashed {view : ListView} {after : σ}
      (begun : workspace.activeView.tick? now (DocumentSource.link source) = some view)
      (crashes : DocumentSource.refresh source = (.error .crashed, after)) :
      TickCourse (workspace.asking view (DocumentSource.link source) (DocumentSource.link source),
        after, .crashed)
  | ended {view : ListView} {after : σ} {index : Nat}
      (begun : workspace.activeView.tick? now (DocumentSource.link source) = some view)
      (accepted : DocumentSource.refresh source = (.ok (), after))
      (isFirst : (workspace.answered source view after).firstRefused? (DocumentSource.document after) =
        some index) :
      TickCourse ((workspace.answered source view after).setView (workspace.answered source view after).active
        ((workspace.answered source view after).abandoned (DocumentSource.document after) index), after, .crashed)
  | shown {view : ListView} {after : σ} {report : RefreshReport}
      (begun : workspace.activeView.tick? now (DocumentSource.link source) = some view)
      (accepted : DocumentSource.refresh source = (.ok (), after))
      (reported : ((workspace.answered source view after).completed (DocumentSource.document after)).2 =
        some report) :
      TickCourse ((workspace.answered source view after).setView (workspace.answered source view after).active
        ((workspace.answered source view after).completed (DocumentSource.document after)).1,
        after, .refreshed report)

variable {workspace now source}

theorem asking_update_active (view : ListView) (before after : Link) (change : ListView → ListView) :
    (workspace.asking view before after).update workspace.active change =
      workspace.asking (change view) before after := by
  unfold update asking relink setView Workspace.view
  cases workspace.active <;> rfl

theorem active_answered (view : ListView) (after : σ) :
    (workspace.answered source view after).active = workspace.active := by
  rw [answered, active_noteSession, active_asking]

theorem view_answered (view : ListView) (after : σ) (kind : ViewKind) :
    (workspace.answered source view after).view kind =
      let noted := if kind = workspace.active then view else workspace.view kind
      if workspace.startsSession (DocumentSource.session after) then noted.invalidate else noted := by
  rw [answered, view_noteSession, view_asking, startsSession, session_asking]
  rfl

theorem activeView_answered (view : ListView) (after : σ) :
    (workspace.answered source view after).activeView =
      if workspace.startsSession (DocumentSource.session after) then view.invalidate else view := by
  rw [activeView, active_answered, view_answered]
  dsimp only
  rw [if_pos rfl]

theorem schedule_answered (view : ListView) (after : σ) :
    (workspace.answered source view after).activeView.schedule = view.schedule := by
  rw [activeView_answered]
  split <;> rfl

theorem phase_answered {view : ListView} (after : σ)
    (begun : workspace.activeView.tick? now (DocumentSource.link source) = some view) :
    (workspace.answered source view after).activeView.schedule.phase = .polling := by
  obtain ⟨schedule, rfl, polling, -⟩ := ListView.tick?_keeps begun
  rw [schedule_answered]
  exact polling

theorem tick_course (workspace : Workspace) (now : Nat) (source : σ) :
    TickCourse workspace now source (workspace.tick now source) := by
  have linked := workspace.activeView_relink (DocumentSource.link source)
  cases begun : workspace.activeView.tick? now (DocumentSource.link source) with
  | none =>
    rw [tick_of_not_due (linked ▸ begun)]
    exact .notDue begun
  | some view =>
    cases answer : DocumentSource.refresh source with
    | mk result after =>
      match result with
      | .error (.failed failure) =>
        rw [tick_of_failure (linked ▸ begun) answer, asking_update_active]
        exact .failed begun answer
      | .error .crashed =>
        rw [tick_of_crash (linked ▸ begun) answer]
        exact .crashed begun answer
      | .ok _ =>
        have ticked := tick_of_answer (linked ▸ begun) answer
        change workspace.tick now source = (((workspace.answered source view after).showDocument _).1, after,
          ((workspace.answered source view after).showDocument _).2) at ticked
        rw [ticked]
        cases isFirst : (workspace.answered source view after).firstRefused?
            (DocumentSource.document after) with
        | some index =>
          rw [showDocument_of_refused isFirst]
          exact .ended begun answer isFirst
        | none =>
          obtain ⟨report, reported, isShown⟩ := showDocument_completed isFirst (phase_answered after begun)
          rw [isShown]
          exact .shown begun answer reported

theorem TickCourse.active {ticked : Workspace × σ × TickOutcome}
    (course : TickCourse workspace now source ticked) : ticked.1.active = workspace.active := by
  cases course with
  | notDue => rfl
  | failed | crashed => exact active_asking ..
  | ended | shown => exact (active_setView _ _ _).trans (active_answered _ _)

/-- What holds of all tables is kept by a tick if polls, marks and shown documents keep it, and where the tick
ended in the middle of a document the part that was shown. -/
theorem TickCourse.keeps {ticked : Workspace × σ × TickOutcome} (course : TickCourse workspace now source ticked)
    {Holds : ViewKind → ListView → Prop} (everywhere : ∀ kind, Holds kind (workspace.view kind))
    (reschedules : ∀ kind view schedule, Holds kind view → Holds kind { view with schedule })
    (marks : ∀ kind view, Holds kind view → Holds kind view.invalidate)
    (completes : ∀ kind view collection, Holds kind view → Holds kind (view.fetchComplete kind.schema collection).1)
    (abandons : ticked.2.2 = .crashed → ∀ kind view collection index, Holds kind view →
      Holds kind (view.fetchAbandoned kind.schema collection index)) :
    ∀ kind, Holds kind (ticked.1.view kind) := by
  have polled {view : ListView} (begun : workspace.activeView.tick? now (DocumentSource.link source) = some view) :
      Holds workspace.active view := by
    obtain ⟨schedule, rfl, -⟩ := ListView.tick?_eq_some _ begun
    exact reschedules _ _ schedule (everywhere workspace.active)
  have answered {view : ListView} (after : σ)
      (begun : workspace.activeView.tick? now (DocumentSource.link source) = some view) :
      ∀ kind, Holds kind ((workspace.answered source view after).view kind) :=
    noteSession_keeps (relink_keeps (setView_keeps (relink_keeps everywhere _) (polled begun)) _) marks _
  cases course with
  | notDue => exact relink_keeps everywhere _
  | @failed view _ _ begun =>
    obtain ⟨schedule, same⟩ := view.fetchFailed_eq
    rw [same]
    exact relink_keeps (setView_keeps (relink_keeps everywhere _) (reschedules _ _ schedule (polled begun))) _
  -- A crash in the source comes before anything of its answer is taken over.
  | crashed begun => exact relink_keeps (setView_keeps (relink_keeps everywhere _) (polled begun)) _
  | ended begun => exact setView_keeps (answered _ begun) (abandons rfl _ _ _ _ (answered _ begun _))
  | shown begun => exact setView_keeps (answered _ begun) (completes _ _ _ (answered _ begun _))

end Courses
end ComputeMonitor.Workspace
