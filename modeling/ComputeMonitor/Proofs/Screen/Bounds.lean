import ComputeMonitor.Gateway.ToldGateway
import ComputeMonitor.Proofs.Screen.Tick
import ComputeMonitor.Proofs.Workspace.Bounds
import ComputeMonitor.Screen.Caption

/-!
The screen never points outside its table.

Keys, ticks and screens of any height come in any order. The focus lies on a column of the active table, which
every change of the table resets, and the cursor and the selected rows lie on rows, which every refresh finds
again.
-/

set_option autoImplicit false

namespace ComputeMonitor.Screen

open ComputeMonitor.Client (ViewKind)
open ComputeMonitor.Gateway (RemoteDocument ToldGateway)
open ComputeMonitor.Table (Layout ListView Schema Selection)

theorem mem_visibleRows {view : ListView} {height row : Nat} : row ∈ visibleRows view height ↔
    view.selection.scrollTop ≤ row ∧ row < view.selection.scrollTop + max height 1 ∧ row < view.rowCount := by
  simp only [visibleRows, List.mem_range'_1]
  omega

section Commands

variable {Item : Type} {schema : Schema Item} (view : ListView) (focus pageRows : Nat) (command : TableCommand)

variable {view} in
theorem TableCommand.run_inBounds (inBounds : view.InBounds schema) :
    (command.run schema view focus pageRows).view.InBounds schema := by
  cases command with
  | moveRow | movePage => exact inBounds.moveCursor _
  | firstRow => exact inBounds.cursorToStart
  | lastRow => exact inBounds.cursorToEnd
  | moveColumn => exact inBounds
  | activateHeader =>
    unfold run
    dsimp only
    split
    · exact inBounds
    · exact inBounds.perform (.adjust (.activateHeader _)) rfl
  | toggleSelection => exact inBounds.toggleCursorSelection.moveCursor 1
  | clearSelection =>
    unfold run
    dsimp only
    split
    · exact inBounds
    · exact inBounds.select inBounds.inside.clear
  | resizeColumn => exact inBounds.perform (.adjust (.setColumnWidth _ _)) rfl

theorem TableCommand.run_focus (nonempty : 0 < schema.columns.length) :
    (command.run schema view focus pageRows).focus < schema.columns.length := by
  cases command with
  | activateHeader =>
    unfold run
    dsimp only
    split <;> dsimp only <;> omega
  | clearSelection =>
    unfold run
    dsimp only
    split <;> dsimp only <;> omega
  | _ =>
    unfold run
    dsimp only
    omega

end Commands

theorem columns_nonempty (kind : ViewKind) : 0 < kind.schema.columns.length := by
  cases kind <;> decide

theorem inBounds_applyLayouts {workspace : Workspace} (inBounds : workspace.InBounds)
    (layout? : ViewKind → Option Layout) : (applyLayouts layout? workspace).InBounds := by
  unfold applyLayouts
  generalize ViewKind.all = kinds
  induction kinds generalizing workspace with
  | nil => exact inBounds
  | cons kind rest ih =>
    apply ih
    dsimp only
    cases layout? kind with
    | none => exact inBounds
    | some layout => exact inBounds.adjust kind (.applyLayout layout) rfl

namespace Console

/-- The chosen tab is that of the active table, all tables are within their bounds, and the focus is on a
column. -/
structure InBounds (console : Console) : Prop where
  active : console.workspace.active = console.app.activeView
  tables : console.workspace.InBounds
  focus : console.focus < console.workspace.active.schema.columns.length

variable {console : Console}

theorem InBounds.of_same (inBounds : console.InBounds) {after : Console}
    (workspace : after.workspace = console.workspace) (focus : after.focus = console.focus)
    (activeView : after.app.activeView = console.app.activeView) : after.InBounds where
  active := by rw [workspace, activeView]; exact inBounds.active
  tables := workspace ▸ inBounds.tables
  focus := by rw [workspace, focus]; exact inBounds.focus

theorem InBounds.countStatusOf (inBounds : console.InBounds) (events : List AppEvent) :
    (console.countStatusOf events).InBounds := by
  unfold Console.countStatusOf
  split
  · exact inBounds.of_same rfl rfl rfl
  · exact inBounds

theorem InBounds.setView (inBounds : console.InBounds) {view : ListView} {focus : Nat}
    (held : view.InBounds console.workspace.active.schema)
    (bound : focus < console.workspace.active.schema.columns.length) :
    InBounds { console with workspace := console.workspace.setView console.workspace.active view, focus } where
  active := (console.workspace.active_setView _ _).trans inBounds.active
  tables := inBounds.tables.setView held
  focus := by
    dsimp only
    rw [Workspace.active_setView]
    exact bound

theorem InBounds.runTable (inBounds : console.InBounds) (command : TableCommand) :
    (console.runTable command).InBounds := by
  have changed := inBounds.setView
    (command.run_inBounds console.focus console.tableHeight (inBounds.tables console.workspace.active))
    (command.run_focus console.workspace.activeView console.focus console.tableHeight
      (columns_nonempty console.workspace.active))
  unfold Console.runTable
  dsimp only
  split
  · exact changed.of_same rfl rfl rfl
  · exact changed

theorem InBounds.choose (inBounds : console.InBounds) (view : ViewKind) :
    let chosen := console.app.choose view
    (chosen.2.foldl follow { console with app := chosen.1 }).InBounds := by
  unfold AppState.choose
  dsimp only
  split
  · exact inBounds
  · -- The other table may have fewer columns, so that the focus starts over.
    refine ⟨console.workspace.active_setActive view, inBounds.tables.setActive view, ?_⟩
    exact columns_nonempty _

theorem InBounds.dispatch (inBounds : console.InBounds) (command : AppCommand) :
    (console.dispatch command).InBounds := by
  apply InBounds.countStatusOf
  cases command with
  | nextView | previousView | showView => exact inBounds.choose _
  | refresh =>
    have forced := (inBounds.tables console.workspace.active).perform (.adjust .forceRefresh) rfl
    exact (inBounds.setView forced inBounds.focus).of_same rfl rfl rfl
  | toggleHelp | clearStatus => exact inBounds.of_same rfl rfl rfl
  | observeLink | observeStale =>
    dsimp only
    split <;> exact inBounds.of_same rfl rfl rfl

theorem InBounds.press (inBounds : console.InBounds) {press : KeyPress} {after : Console}
    (goesOn : console.press? press = some after) : after.InBounds := by
  unfold press? at goesOn
  split at goesOn
  · cases goesOn
  · split at goesOn
    · cases goesOn
      split
      · exact inBounds.of_same rfl rfl rfl
      · exact inBounds
    · split at goesOn
      next command _ =>
        cases goesOn
        exact inBounds.runTable command
      next =>
        split at goesOn
        · cases goesOn
        · cases goesOn
          cases appCommand? press with
          | none => exact inBounds
          | some command => exact inBounds.dispatch command

theorem InBounds.tick {σ : Type} [DocumentSource σ] (inBounds : console.InBounds) {now : Nat} {source : σ}
    (survived : (console.tick now source).2.2 ≠ .crashed) : (console.tick now source).1.InBounds := by
  obtain ⟨goesOn, observed⟩ := tick_observed survived
  have course := console.workspace.tick_course now source
  have ticked : InBounds { console with workspace := (console.workspace.tick now source).1 } := by
    refine ⟨course.active.trans inBounds.active, course.inBounds inBounds.tables goesOn, ?_⟩
    dsimp only
    rw [course.active]
    exact inBounds.focus
  exact ticked.of_same observed.workspace observed.focus observed.activeView

theorem InBounds.prepare (inBounds : console.InBounds) (screenRows : Nat) :
    (console.prepare screenRows).InBounds := by
  have active := inBounds.tables console.workspace.active
  have scrolled := inBounds.setView (active.scrollToCursor (Screen.tableHeight screenRows)) inBounds.focus
  exact scrolled.of_same rfl rfl rfl

theorem activeView_prepare (console : Console) (screenRows : Nat) :
    (console.prepare screenRows).workspace.activeView =
      console.workspace.activeView.select (·.scrollToCursor (Screen.tableHeight screenRows)) :=
  console.workspace.activeView_setView _

/-- On a prepared screen the cursor is seen, and rows are if there are any. -/
theorem InBounds.prepare_shows (inBounds : console.InBounds) (screenRows : Nat) :
    let view := (console.prepare screenRows).workspace.activeView
    let shown := visibleRows view (Screen.tableHeight screenRows)
    (∀ row, view.selection.cursor = some row → row ∈ shown) ∧ (0 < view.rowCount → shown ≠ []) := by
  intro view shown
  have inside : view.selection.Inside view.rowCount :=
    ((inBounds.prepare screenRows).tables (console.prepare screenRows).workspace.active).inside
  constructor
  · intro row isCursor
    have bound := inside.cursor row isCursor
    have scrolled : view.selection = console.workspace.activeView.selection.scrollToCursor _ :=
      congrArg ListView.selection (console.activeView_prepare screenRows)
    rw [scrolled, Selection.cursor_scrollToCursor] at isCursor
    obtain ⟨below, above⟩ := Selection.scrollToCursor_shows isCursor
    rw [mem_visibleRows, scrolled]
    exact ⟨below, above, bound⟩
  · intro nonempty
    -- Even without a cursor the first visible row is a row.
    have isFirst : view.selection.scrollTop ∈ shown := by
      have top := inside.top
      rw [mem_visibleRows]
      omega
    exact List.ne_nil_of_mem isFirst

theorem inBounds_start (app : AppState) (intervals : Intervals) (layout? : ViewKind → Option Layout) :
    InBounds { app, workspace := (applyLayouts layout? (.new intervals)).setActive app.activeView } where
  active := Workspace.active_setActive _ _
  tables := (inBounds_applyLayouts (Workspace.inBounds_new intervals) layout?).setActive app.activeView
  focus := columns_nonempty _

/-- The screens that come of keys, ticks and frames, the first with the stored layouts. Each tick may meet
another source. -/
inductive Reachable : Console → Prop where
  | start (app : AppState) (intervals : Intervals) (layout? : ViewKind → Option Layout) :
      Reachable { app, workspace := (applyLayouts layout? (.new intervals)).setActive app.activeView }
  | press {console after : Console} {press : KeyPress} (reachable : Reachable console)
      (goesOn : console.press? press = some after) : Reachable after
  | tick {σ : Type} [DocumentSource σ] {console : Console} {now : Nat} {source : σ} (reachable : Reachable console)
      (survived : (console.tick now source).2.2 ≠ .crashed) : Reachable (console.tick now source).1
  | expireStatus {console : Console} (reachable : Reachable console) (number : Nat) :
      Reachable (console.expireStatus number).1
  | prepare {console : Console} (reachable : Reachable console) (screenRows : Nat) :
      Reachable (console.prepare screenRows)

theorem reachable_start (intervals : Intervals) (layout? : ViewKind → Option Layout) :
    (start intervals layout?).Reachable := .start {} intervals layout?

theorem Reachable.inBounds (reachable : console.Reachable) : console.InBounds := by
  -- One case a step: bounds are all that a step asks of the screen before it.
  induction reachable with
  | start app intervals layout? => exact inBounds_start app intervals layout?
  | press _ goesOn ih => exact ih.press goesOn
  | tick _ survived ih => exact ih.tick survived
  | expireStatus _ number ih =>
    unfold Console.expireStatus
    split
    · exact ih.of_same rfl rfl rfl
    · exact ih
  | prepare _ screenRows ih => exact ih.prepare screenRows

/-- Whatever keys are pressed and whatever the sources answer, the chosen tab is the active table, selections,
cursors and the focus lie within their tables, a prepared screen shows the cursor, and a tick shows the link and
the staleness as they are. -/
theorem Reachable.stays_within_tables (reachable : console.Reachable) :
    console.app.activeView = console.workspace.active ∧
    (∀ kind, (console.workspace.view kind).selection.Inside (console.workspace.view kind).rowCount) ∧
    console.focus < console.workspace.active.schema.columns.length ∧
    (∀ screenRows,
      let view := (console.prepare screenRows).workspace.activeView
      let shown := visibleRows view (Screen.tableHeight screenRows)
      (∀ row, view.selection.cursor = some row → row ∈ shown) ∧ (0 < view.rowCount → shown ≠ [])) ∧
    ∀ {σ : Type} [DocumentSource σ] (source : σ) (now : Nat),
      let ticked := console.tick now source
      ticked.2.2 ≠ .crashed → ticked.1.app.link = ticked.1.workspace.link ∧
        ticked.1.app.stale = ticked.1.workspace.activeView.isStale := by
  have inBounds := reachable.inBounds
  refine ⟨inBounds.active.symm, fun kind => (inBounds.tables kind).inside, inBounds.focus,
    inBounds.prepare_shows, ?_⟩
  intro σ _ source now ticked survived
  have observed := (tick_observed survived).2
  constructor
  · rw [observed.link, observed.workspace]
  · rw [observed.stale, observed.workspace]
    rfl

section Shrinking

/-- A gateway of three projects, only the middle one of which is left at the second poll. -/
def shrinkingGateway : ToldGateway where
  polls := [
    { state := .ok { projects := [{ masterUrl := "a" }, { masterUrl := "b" }, { masterUrl := "c" }] }
      messages := [.ok {}] },
    { state := .ok { projects := [{ masterUrl := "b" }] }, messages := [.ok {}] }]

def shrinkingDocument : RemoteDocument ToldGateway := { fetcher := shrinkingGateway }

def pressed (console : Console) (keys : List Key) : Console :=
  keys.foldl (fun console key => (console.press? { key }).getD console) console

theorem Reachable.pressed (reachable : console.Reachable) (keys : List Key) :
    (console.pressed keys).Reachable := by
  unfold Console.pressed
  induction keys generalizing console with
  | nil => exact reachable
  | cons key rest ih =>
    apply ih
    dsimp only
    cases goesOn : console.press? { key } with
    | none => exact reachable
    | some after => exact reachable.press goesOn

def projectScreen : Console := ((start {} fun _ => none).pressed [.char '1'])

def lastRowScreen : Console :=
  ((projectScreen.tick 0 shrinkingDocument).1.pressed [.ending, .char ' ', .right]).prepare 9

def shrunkenScreen : Console :=
  (lastRowScreen.tick 5000 (projectScreen.tick 0 shrinkingDocument).2.1).1.pressed [.down]

theorem reachable_shrunkenScreen : shrunkenScreen.Reachable := by
  have projects : projectScreen.Reachable := (reachable_start {} fun _ => none).pressed _
  have polled : (projectScreen.tick 0 shrinkingDocument).1.Reachable := projects.tick (by decide +kernel)
  have last : lastRowScreen.Reachable := (polled.pressed _).prepare 9
  have shrunken : (lastRowScreen.tick 5000 (projectScreen.tick 0 shrinkingDocument).2.1).1.Reachable :=
    last.tick (by decide +kernel)
  exact shrunken.pressed _

theorem shrunken_stays_within_tables :
    let view := (shrunkenScreen.prepare 9).workspace.activeView
    shrunkenScreen.Reachable ∧ lastRowScreen.workspace.activeView.selection = ⟨.ofList [2], some 2, 2⟩ ∧
      shrunkenScreen.workspace.activeView.selection = ⟨.empty, some 0, 0⟩ ∧
      shrunkenScreen.app.activeView = .projects ∧ shrunkenScreen.focus = 1 ∧
      shrunkenScreen.app.activeView = shrunkenScreen.workspace.active ∧
      0 ∈ visibleRows view (Screen.tableHeight 9) := by
  intro view
  obtain ⟨isActive, -, -, shows, -⟩ := reachable_shrunkenScreen.stays_within_tables
  exact ⟨reachable_shrunkenScreen, by decide +kernel, by decide +kernel, by decide +kernel, by decide +kernel,
    isActive, (shows 9).1 0 (by decide +kernel)⟩

end Shrinking

end Console
end ComputeMonitor.Screen
