import ComputeMonitor.Gateway.ToldGateway
import ComputeMonitor.Proofs.Workspace.Tick

/-!
A tick touches the active table alone, and polls exactly when that is due.

Every poll that begins in a tick ends in it, so that all tables are idle between ticks and none waits for an
answer that never comes. The other tables are left as they are; a new session marks their entries, which
changes nothing that is shown of them.
-/

set_option autoImplicit false

namespace ComputeMonitor.Workspace

open ComputeMonitor.Client (ViewKind)
open ComputeMonitor.Gateway (RemoteDocument ToldGateway)
open ComputeMonitor.Table (Adjustment ListView Schedule)

structure Counted (σ : Type) where
  source : σ
  refreshes : Nat := 0

section Counting

variable {σ : Type} [DocumentSource σ]

instance : DocumentSource (Counted σ) where
  refresh counted :=
    let (answer, source) := DocumentSource.refresh counted.source
    (answer, ⟨source, counted.refreshes + 1⟩)
  document counted := DocumentSource.document counted.source
  link counted := DocumentSource.link counted.source
  session counted := DocumentSource.session counted.source

/-- Counting does not disturb a tick, which asks the source once if the active table begins a poll. -/
theorem tick_counted (workspace : Workspace) (now : Nat) (counted : Counted σ) :
    let ticked := workspace.tick now counted.source
    let polls := (workspace.activeView.tick? now (DocumentSource.link counted.source)).isSome
    workspace.tick now counted =
      (ticked.1, ⟨ticked.2.1, counted.refreshes + polls.toNat⟩, ticked.2.2) := by
  intro ticked polls
  have linked := workspace.activeView_relink (DocumentSource.link counted.source)
  -- The counted source takes the tick through the same course, so that each course is looked at on both
  -- sides.
  cases begun : workspace.activeView.tick? now (DocumentSource.link counted.source) with
  | none =>
    have isTicked : ticked = _ := tick_of_not_due (linked ▸ begun)
    have isCounted : workspace.tick now counted = _ := tick_of_not_due (linked ▸ begun)
    simp only [isCounted, isTicked, polls, begun]
    rfl
  | some view =>
    cases answer : DocumentSource.refresh counted.source with
    | mk result after =>
      have asked : DocumentSource.refresh counted = (result, ⟨after, counted.refreshes + 1⟩) := by
        simp only [DocumentSource.refresh, answer]
      match result with
      | .error (.failed failure) =>
        have isTicked : ticked = _ := tick_of_failure (linked ▸ begun) answer
        have isCounted : workspace.tick now counted = _ := tick_of_failure (linked ▸ begun) asked
        simp only [isCounted, isTicked, polls, begun]
        rfl
      | .error .crashed =>
        have isTicked : ticked = _ := tick_of_crash (linked ▸ begun) answer
        have isCounted : workspace.tick now counted = _ := tick_of_crash (linked ▸ begun) asked
        simp only [isCounted, isTicked, polls, begun]
        rfl
      | .ok _ =>
        have isTicked : ticked = _ := tick_of_answer (linked ▸ begun) answer
        have isCounted : workspace.tick now counted = _ := tick_of_answer (linked ▸ begun) asked
        simp only [isCounted, isTicked, polls, begun]
        rfl

end Counting

def Command.setsDiagnosis : Command → Bool
  | .adjust _ (.setDiagnosticsOpen _) => true
  | _ => false

/-- The workspaces that come of the operations on them. Each tick may meet another source, and none that ends
the program leaves a workspace behind. -/
inductive Reachable : Workspace → Prop where
  | new (intervals : Intervals) : Reachable (.new intervals)
  | obey {σ : Type} [DocumentSource σ] {state : Workspace × σ} {command : Command}
      (reachable : Reachable state.1) (proper : command.setsDiagnosis = false)
      (survived : ∀ now, command = .tick now → (state.1.tick now state.2).2.2 ≠ .crashed) :
      Reachable (Workspace.obey state command).1

/-- All tables are idle, and diagnosis is open while the log is the active one. -/
structure Settled (workspace : Workspace) : Prop where
  idle : ∀ kind, (workspace.view kind).schedule.phase = .idle
  diagnosis : ∀ kind, (workspace.view kind).schedule.diagnosticsOpen = workspace.active.isDiagnostics

section Idle

variable {workspace : Workspace}

theorem settled_setActive (idle : ∀ kind, (workspace.view kind).schedule.phase = .idle) (kind : ViewKind) :
    (workspace.setActive kind).Settled := by
  constructor <;> intro other <;> rw [view_setActive]
  · dsimp only
    split <;> exact idle other
  · rw [active_setActive]
    dsimp only
    split <;> rfl

theorem settled_new (intervals : Intervals) : (Workspace.new intervals).Settled := by
  apply settled_setActive
  intro kind
  rw [view_blank]
  rfl

theorem settled_setView {kind : ViewKind} {view : ListView}
    (elsewhere : ∀ other ≠ kind, (workspace.view other).schedule.phase = .idle ∧
      (workspace.view other).schedule.diagnosticsOpen = workspace.active.isDiagnostics)
    (idle : view.schedule.phase = .idle)
    (diagnosis : view.schedule.diagnosticsOpen = workspace.active.isDiagnostics) :
    (workspace.setView kind view).Settled := by
  constructor <;> intro other <;> rw [view_setView]
  · split
    next => exact idle
    next different => exact (elsewhere other different).1
  · rw [active_setView]
    split
    next => exact diagnosis
    next different => exact (elsewhere other different).2

theorem Settled.setView (settled : workspace.Settled) (kind : ViewKind) {view : ListView}
    (idle : view.schedule.phase = .idle)
    (diagnosis : view.schedule.diagnosticsOpen = workspace.active.isDiagnostics) :
    (workspace.setView kind view).Settled :=
  settled_setView (fun other _ => ⟨settled.idle other, settled.diagnosis other⟩) idle diagnosis

theorem Settled.relink (settled : workspace.Settled) (link : Link) : (workspace.relink link).Settled := by
  constructor <;> intro kind <;> rw [view_relink]
  · exact settled.idle kind
  · exact settled.diagnosis kind

theorem Settled.updateAll (settled : workspace.Settled) (change : ViewKind → ListView → ListView)
    (phase : ∀ kind view, (change kind view).schedule.phase = view.schedule.phase)
    (diagnosis : ∀ kind view,
      (change kind view).schedule.diagnosticsOpen = view.schedule.diagnosticsOpen) :
    (workspace.updateAll change).Settled := by
  constructor <;> intro kind <;> rw [view_updateAll]
  · rw [phase]
    exact settled.idle kind
  · rw [diagnosis]
    exact settled.diagnosis kind

theorem Settled.adjust (settled : workspace.Settled) (kind : ViewKind) (adjustment : Adjustment)
    (proper : (Command.adjust kind adjustment).setsDiagnosis = false) :
    (workspace.update kind (·.adjust kind.schema adjustment)).Settled := by
  apply settled.setView
  · rw [ListView.phase_adjust]
    exact settled.idle kind
  · rw [ListView.schedule_adjust, ← settled.diagnosis kind]
    cases adjustment with
    | setDiagnosticsOpen => cases proper
    | _ => rfl

variable {σ : Type} [DocumentSource σ]

theorem TickCourse.settled {now : Nat} {source : σ} {ticked : Workspace × σ × TickOutcome}
    (course : TickCourse workspace now source ticked) (settled : workspace.Settled)
    (survived : ticked.2.2 ≠ .crashed) : ticked.1.Settled := by
  cases course with
  | notDue early => exact settled.relink _
  | ended | crashed => exact (survived rfl).elim
  | failed begun refused =>
    obtain ⟨schedule, rfl, polling, diagnosis⟩ := ListView.tick?_keeps begun
    refine ((settled.relink _).setView workspace.active ?_ ?_).relink _
    · rw [ListView.fetchFailed_of_polling polling]
    · rw [ListView.fetchFailed_of_polling polling]
      exact diagnosis.trans (settled.diagnosis workspace.active)
  | @shown _ after report begun accepted reported =>
    have polling := phase_answered after begun
    obtain ⟨schedule, rfl, -, diagnosis⟩ := ListView.tick?_keeps begun
    -- While the document is shown the active table is not idle, but the others are all the time.
    apply settled_setView
    · intro other different
      rw [active_answered] at different ⊢
      rw [view_answered, if_neg different]
      dsimp only
      split <;> exact ⟨settled.idle other, settled.diagnosis other⟩
    · rw [completed, ListView.schedule_fetchComplete _ _ polling]
    · rw [completed, ListView.schedule_fetchComplete _ _ polling, schedule_answered, active_answered]
      exact diagnosis.trans (settled.diagnosis workspace.active)

theorem Settled.obey {state : Workspace × σ} (settled : state.1.Settled) {command : Command}
    (proper : command.setsDiagnosis = false)
    (survived : ∀ now, command = .tick now → (state.1.tick now state.2).2.2 ≠ .crashed) :
    (Workspace.obey state command).1.Settled := by
  cases command with
  | tick now => exact (tick_course state.1 now state.2).settled settled (survived now rfl)
  | setActive kind => exact settled_setActive settled.idle kind
  | setIntervals intervals =>
    exact settled.updateAll (fun kind view => view.reschedule (·.setCadence (intervals.cadence kind)))
      (fun _ _ => rfl) (fun _ _ => rfl)
  | forceRefresh => exact settled.adjust state.1.active .forceRefresh rfl
  | applyLayout kind layout => exact settled.adjust kind (.applyLayout layout) rfl
  | adjust kind adjustment => exact settled.adjust kind adjustment proper

theorem Reachable.settled (reachable : workspace.Reachable) : workspace.Settled := by
  induction reachable with
  | new intervals => exact settled_new intervals
  | obey _ proper survived ih => exact ih.obey proper survived

end Idle

section Frame

/-- A failed refresh leaves all rows as they are and every other table untouched; the active table is stale. -/
structure ShowsFailure (workspace after : Workspace) : Prop where
  inactive : ∀ kind ≠ workspace.active, after.view kind = workspace.view kind
  active : ∃ schedule, after.view workspace.active = { workspace.view workspace.active with schedule } ∧
    schedule.stale = true

variable {σ : Type} [DocumentSource σ] {workspace : Workspace} {now : Nat} {source : σ}
  {ticked : Workspace × σ × TickOutcome} (course : TickCourse workspace now source ticked)
include course

/-- Around the active table a tick at most marks entries, and these for a new session. -/
theorem TickCourse.inactive {kind : ViewKind} (inactive : kind ≠ workspace.active) :
    ticked.1.view kind = workspace.view kind ∨
      workspace.startsSession (DocumentSource.session ticked.2.1) = true ∧
        ticked.1.view kind = (workspace.view kind).invalidate := by
  have noted (view : ListView) (after : σ) : (workspace.answered source view after).view kind =
        workspace.view kind ∨ workspace.startsSession (DocumentSource.session after) = true ∧
          (workspace.answered source view after).view kind = (workspace.view kind).invalidate := by
    rw [view_answered, if_neg inactive]
    dsimp only
    split
    next starts => exact .inr ⟨starts, rfl⟩
    next => exact .inl rfl
  -- Nothing but the session of an answer reaches beyond the active table.
  cases course with
  | notDue early => exact .inl (workspace.view_relink _ kind)
  | failed | crashed =>
    left
    rw [view_asking, if_neg inactive]
  | ended | shown =>
    dsimp only
    rw [view_setView, active_answered, if_neg inactive]
    exact noted _ _

theorem TickCourse.showsFailure {failure : Failure} (failed : ticked.2.2 = .failed failure) :
    ShowsFailure workspace ticked.1 := by
  cases course with
  | notDue | ended | crashed | shown => cases failed
  | failed begun refused =>
    obtain ⟨schedule, rfl, polling, -⟩ := ListView.tick?_keeps begun
    constructor
    · intro kind inactive
      rw [view_asking, if_neg inactive]
    · rw [view_asking, if_pos rfl, ListView.fetchFailed_of_polling polling]
      exact ⟨_, rfl, rfl⟩

theorem TickCourse.skipped_iff : ticked.2.2 = .skipped ↔
    workspace.activeView.tick? now (DocumentSource.link source) = none := by
  cases course with
  | notDue early => simp [early]
  | failed begun | ended begun | crashed begun | shown begun => simp [begun]

end Frame

/-- A workspace polls exactly when its active table is due, and its ticks leave the other tables alone,
whatever has been done to it and whatever a source answers. -/
theorem Reachable.tick_touches_active {workspace : Workspace} (reachable : workspace.Reachable) {σ : Type}
    [DocumentSource σ] (source : σ) (now : Nat) :
    let ticked := workspace.tick now source
    let counted := workspace.tick now (Counted.mk source 0)
    let nextDue := workspace.activeView.schedule.nextDue
    (∀ kind, (workspace.view kind).schedule.phase = .idle ∧
      (workspace.view kind).schedule.diagnosticsOpen = (workspace.active == .events)) ∧
    (counted.1 = ticked.1 ∧ counted.2.1.source = ticked.2.1 ∧ counted.2.2 = ticked.2.2) ∧
    ((∀ due, nextDue = some due → due ≤ now) → counted.2.1.refreshes = 1) ∧
    (∀ due, nextDue = some due → now < due → counted.2.1.refreshes = 0) ∧
    (ticked.2.2 = .skipped ↔ counted.2.1.refreshes = 0) ∧
    (∀ failure, ticked.2.2 = .failed failure → ShowsFailure workspace ticked.1) ∧
    ∀ kind ≠ workspace.active, ticked.1.view kind = workspace.view kind ∨
      workspace.startsSession (DocumentSource.session ticked.2.1) = true ∧
        ticked.1.view kind = (workspace.view kind).invalidate := by
  intro ticked counted nextDue
  have course : TickCourse workspace now source ticked := tick_course workspace now source
  have settled := reachable.settled
  have idle : workspace.activeView.schedule.phase = .idle := settled.idle workspace.active
  have isCounted : counted = _ := workspace.tick_counted now ⟨source, 0⟩
  have begins : (workspace.activeView.tick? now (DocumentSource.link source)).isSome =
      workspace.activeView.schedule.isDue now := ListView.isSome_tick? idle
  -- Between ticks the active table is idle, so that its time alone decides whether a poll begins.
  have polls : counted.2.1.refreshes = (workspace.activeView.schedule.isDue now).toNat := by
    rw [isCounted, begins]
    exact Nat.zero_add _
  refine ⟨fun kind => ⟨settled.idle kind, settled.diagnosis kind⟩, by simp [isCounted, ticked],
    fun due => ?_, fun due isDue later => ?_, ?_, fun failure => course.showsFailure,
    fun kind => course.inactive⟩
  · rw [polls, Schedule.isDue_iff.2 due]
    rfl
  · have notDue : workspace.activeView.schedule.isDue now ≠ true := by
      intro isReady
      have reached := Schedule.isDue_iff.1 isReady due isDue
      omega
    rw [polls, Bool.eq_false_iff.2 notDue]
    rfl
  · rw [polls, course.skipped_iff, ← begins]
    simp

section Refusal

def refusingGateway : ToldGateway where
  polls := [
    { state := .ok { projects := [{ masterUrl := "a" }] }, messages := [.ok {}] },
    { state := .error (.ofText "connection refused"), messages := [] }]

def openedState : Workspace × RemoteDocument ToldGateway := (Workspace.new {}, { fetcher := refusingGateway })

/-- A workspace that has shown the one answer in another table than the active one. -/
def refusedState : Workspace × RemoteDocument ToldGateway :=
  obey (obey (obey openedState (.setActive .projects)) (.tick 0)) (.setActive .events)

theorem reachable_refusedState : refusedState.1.Reachable := by
  have opened : openedState.1.Reachable := .new {}
  have active : (obey openedState (.setActive .projects)).1.Reachable := opened.obey rfl nofun
  have polled : (obey (obey openedState (.setActive .projects)) (.tick 0)).1.Reachable := by
    refine active.obey rfl fun now same => ?_
    cases same
    decide +kernel
  exact polled.obey rfl nofun

theorem refused_tick_touches_active :
    let ticked := refusedState.1.tick 10 refusedState.2
    let counted := refusedState.1.tick 10 (Counted.mk refusedState.2 0)
    refusedState.1.Reachable ∧ (refusedState.1.view .projects).rowCount = 1 ∧
      ticked.2.2 = .failed ⟨["fetch client state", "connection refused"]⟩ ∧
      ShowsFailure refusedState.1 ticked.1 ∧ counted.2.1.refreshes = 1 ∧
      ticked.1.view .projects = refusedState.1.view .projects := by
  intro ticked counted
  have failed : ticked.2.2 = .failed ⟨["fetch client state", "connection refused"]⟩ := by decide +kernel
  have isForced : refusedState.1.activeView.schedule.nextDue = none := by decide +kernel
  have due : ∀ due, refusedState.1.activeView.schedule.nextDue = some due → due ≤ 10 := by
    intro due isDue
    cases isForced.symm.trans isDue
  obtain ⟨-, -, polls, -, -, shows, -⟩ :=
    reachable_refusedState.tick_touches_active refusedState.2 10
  have shown := shows _ failed
  exact ⟨reachable_refusedState, by decide +kernel, failed, shown, polls due,
    shown.inactive .projects (by decide +kernel)⟩

end Refusal
end ComputeMonitor.Workspace
