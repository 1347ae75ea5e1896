import ComputeMonitor.Proofs.Settings.Store
import ComputeMonitor.Proofs.Workspace.LaidOut
import ComputeMonitor.Screen.StoredLayouts
import ComputeMonitor.Simulation.Script

/-!
The layouts of the tables survive a restart of the program.

The four tables share the keys of one store. No name of a table has a point, so that what is stored for one
table is out of reach of the others, and nothing that was stored before for a table remains.
-/

set_option autoImplicit false

namespace ComputeMonitor.Screen

open ComputeMonitor.Client (ViewKind)
open ComputeMonitor.Settings
open ComputeMonitor.Table (Layout ListView)
open ComputeMonitor.Workspace (Command)

theorem plainName (kind : ViewKind) : PlainName kind.name := by
  cases kind <;> exact ⟨by decide, by decide⟩

theorem name_injective : Function.Injective ViewKind.name := by
  intro kind other same
  cases kind <;> cases other <;> first | rfl | exact absurd same (by decide)

section Saving

variable {database : Database} {settings : List Setting} {workspace : Workspace}

def Stored (settings : List Setting) (kind : ViewKind) (layout : Layout) : Prop :=
  (settings.filter (Setting.isOf kind.name)).map Setting.pair = layout.toPairs kind.name

theorem saveOne_stores (holds : Holds database settings) (now : String) (kind : ViewKind) (layout : Layout) :
    ∃ after, Holds (saveOne now database (kind, layout)) after ∧ Stored after kind layout ∧
      ∀ other ≠ kind, after.filter (Setting.isOf other.name) = settings.filter (Setting.isOf other.name) := by
  obtain ⟨saved, saves, holdsSaved⟩ := holds.saveLayout (plainName kind) now layout
  refine ⟨_, ?_, relaid_own (plainName kind) settings now layout, fun other apart => ?_⟩
  · unfold saveOne
    rw [saves]
    exact holdsSaved
  · exact relaid_other (plainName other) (plainName kind) (name_injective.ne apart) settings now layout

theorem foldl_saveOne_stores (holds : Holds database settings) (now : String)
    {entries : List (ViewKind × Layout)} (kinds : (entries.map Prod.fst).Nodup) :
    ∃ after, Holds (entries.foldl (saveOne now) database) after ∧
      (∀ entry ∈ entries, Stored after entry.1 entry.2) ∧
      ∀ other ∉ entries.map Prod.fst,
        after.filter (Setting.isOf other.name) = settings.filter (Setting.isOf other.name) := by
  induction entries generalizing database settings with
  | nil => exact ⟨settings, holds, fun entry member => (nomatch member), fun other _ => rfl⟩
  | cons entry rest ih =>
    obtain ⟨kind, layout⟩ := entry
    rw [List.map_cons, List.nodup_cons] at kinds
    obtain ⟨next, holdsNext, storesNext, keepsNext⟩ := saveOne_stores holds now kind layout
    obtain ⟨after, holdsAfter, stores, keeps⟩ := ih holdsNext kinds.2
    refine ⟨after, holdsAfter, fun entry member => ?_, fun other apart => ?_⟩
    · rcases List.mem_cons.1 member with rfl | later
      · -- The tables that follow have other names, and leave what was stored for this one.
        rw [Stored, keeps kind kinds.1]
        exact storesNext
      · exact stores entry later
    · rw [List.map_cons, List.mem_cons, not_or] at apart
      rw [keeps other apart.2, keepsNext other apart.1]

theorem storedLayout?_saveLayouts (holds : Holds database settings) (now : String) (workspace : Workspace)
    (kind : ViewKind) : storedLayout? (saveLayouts now workspace database) kind =
      some ((workspace.view kind).layout kind.schema) := by
  have kinds : (workspace.layouts.map Prod.fst).Nodup := (by decide : ViewKind.all.Nodup)
  obtain ⟨after, holdsAfter, stores, -⟩ := foldl_saveOne_stores holds now kinds
  have member : (kind, (workspace.view kind).layout kind.schema) ∈ workspace.layouts :=
    List.mem_map.2 ⟨kind, by cases kind <;> decide, rfl⟩
  unfold storedLayout? saveLayouts
  rw [holdsAfter.loadLayout (stores _ member), ListView.normalized_layout kind.wellNamed]
  rfl

end Saving

section Restoring

variable (layout? : ViewKind → Option Layout)

/-- A table as the layout that was stored for it leaves it. -/
def restoredView (kind : ViewKind) (view : ListView) : ListView :=
  match layout? kind with
  | some layout => view.applyLayout kind.schema layout
  | none => view

theorem restoredView_of_some {kind : ViewKind} {layout : Layout} (stored : layout? kind = some layout)
    (view : ListView) : restoredView layout? kind view = view.applyLayout kind.schema layout := by
  rw [restoredView, stored]

theorem applyLayouts_eq_updateAll (workspace : Workspace) :
    applyLayouts layout? workspace = workspace.updateAll (restoredView layout?) := by
  unfold applyLayouts Workspace.updateAll
  congr
  funext workspace kind
  unfold restoredView
  cases layout? kind with
  | some layout => rfl
  | none =>
    -- A table without a stored layout is put back as it is.
    cases kind <;> rfl

theorem view_applyLayouts (workspace : Workspace) (kind : ViewKind) :
    (applyLayouts layout? workspace).view kind = restoredView layout? kind (workspace.view kind) := by
  rw [applyLayouts_eq_updateAll, Workspace.view_updateAll]

end Restoring

/-- A new run of the program finds every table sorted and laid out as the run before has left it, whatever
the store held, and storing the layout of one table replaces the settings of that table and no others. -/
theorem layouts_survive_restart {σ : Type} [DocumentSource σ] (intervals nextIntervals : Intervals) (source : σ)
    {commands : List Command} (ofColumns : ∀ command ∈ commands, command.OfColumns)
    {database : Database} {settings : List Setting} (holds : Holds database settings) (now : String) :
    let workspace := (Workspace.run (Workspace.new intervals, source) commands).1
    let saved := saveLayouts now workspace database
    let restored := applyLayouts (storedLayout? saved) (Workspace.new nextIntervals)
    (∀ kind, (restored.view kind).sort = (workspace.view kind).sort ∧
      (restored.view kind).widths = (workspace.view kind).widths) ∧
    ∀ (kind : ViewKind) (layout : Layout), ∃ saved after,
      saveLayout database now kind.name layout = .ok saved ∧ Holds saved after ∧
      after.filter (!Setting.isOf kind.name ·) = settings.filter (!Setting.isOf kind.name ·) ∧
      (after.filter (Setting.isOf kind.name)).map Setting.pair = layout.toPairs kind.name := by
  intro workspace saved restored
  have laidOut : workspace.LaidOut := (Workspace.laidOut_new intervals).run ofColumns
  constructor
  · intro kind
    have stored : storedLayout? saved kind = some ((workspace.view kind).layout kind.schema) :=
      storedLayout?_saveLayouts holds now workspace kind
    have sameCount := (Workspace.laidOut_new nextIntervals kind).count
    rw [view_applyLayouts, restoredView_of_some _ stored]
    exact ListView.applyLayout_layout kind.wellNamed (laidOut kind) sameCount
  · intro kind layout
    obtain ⟨saved, saves, holdsSaved⟩ := holds.saveLayout (plainName kind) now layout
    exact ⟨saved, _, saves, holdsSaved, relaid_rest (plainName kind) settings now layout,
      relaid_own (plainName kind) settings now layout⟩

section Arranging

/-- Tasks are sorted by their progress, then the other way round, the messages get a column of no width, and
the projects a layout. -/
def arrangingCommands : List Command := [
  .adjust .tasks (.activateHeader 1), .adjust .tasks (.activateHeader 1),
  .adjust .events (.setColumnWidth 3 0), .applyLayout .projects { sortColumn := some "team" }]

def arrangedWorkspace : Workspace := (Workspace.run (Workspace.new {}, ({} : Simulation.Script)) arrangingCommands).1

/-- A setting of no table, one that the layout of the tasks replaces, and one of a column that is gone. -/
def earlierSettings : List Setting :=
  [⟨"theme", "dark", "t0"⟩, ⟨"tasks.sort_column", "name", "t0"⟩, ⟨"tasks.width.gone", "9", "t0"⟩]

def earlierStore : Database := [{ newSettings with rows := earlierSettings.map Setting.row }]

theorem arranged_layouts_survive_restart :
    let restored := applyLayouts (storedLayout? (saveLayouts "t1" arrangedWorkspace earlierStore)) (Workspace.new {})
    (∀ command ∈ arrangingCommands, command.OfColumns) ∧ Holds earlierStore earlierSettings ∧
    (restored.view .projects).sort = ⟨some 2, .ascending⟩ ∧ (restored.view .tasks).sort = ⟨some 1, .descending⟩ ∧
    (restored.view .events).widths = [6, 20, 19, 1] ∧
    ∃ saved after, saveLayout earlierStore "t1" "tasks" ((arrangedWorkspace.view .tasks).layout Client.Task.schema) =
        .ok saved ∧ Holds saved after ∧
      ⟨"theme", "dark", "t0"⟩ ∈ after ∧ "tasks.width.gone" ∉ after.map Setting.key := by
  intro restored
  have ofColumns : ∀ command ∈ arrangingCommands, command.OfColumns := by
    simp [arrangingCommands, Command.OfColumns, Table.Adjustment.OfColumns]
  have holds : Holds earlierStore earlierSettings := ⟨rfl, by decide⟩
  obtain ⟨same, saves⟩ := layouts_survive_restart {} {} ({} : Simulation.Script) ofColumns holds "t1"
  obtain ⟨saved, after, saves, holdsSaved, others, own⟩ :=
    saves .tasks ((arrangedWorkspace.view .tasks).layout Client.Task.schema)
  refine ⟨ofColumns, holds, (same .projects).1.trans (by decide), (same .tasks).1.trans (by decide),
    (same .events).2.trans (by decide), saved, after, saves, holdsSaved, ?_, fun member => ?_⟩
  · have kept : ⟨"theme", "dark", "t0"⟩ ∈ earlierSettings.filter (!Setting.isOf ViewKind.tasks.name ·) := by decide
    exact (List.mem_filter.1 (others ▸ kept)).1
  · obtain ⟨setting, isSetting, isKey⟩ := List.mem_map.1 member
    have isOf : setting.isOf ViewKind.tasks.name = true := by
      rw [Setting.isOf, isKey]
      decide
    have isPair := List.mem_map_of_mem (f := Setting.pair) (List.mem_filter.2 ⟨isSetting, isOf⟩)
    have isNew := List.mem_map_of_mem (f := Prod.fst) (own ▸ isPair)
    rw [Setting.pair, isKey] at isNew
    dsimp only at isNew
    exact absurd isNew (by decide)

end Arranging

end ComputeMonitor.Screen
