import ComputeMonitor.Gateway.ToldGateway
import ComputeMonitor.Proofs.Number.Binary64
import ComputeMonitor.Proofs.Screen.Tick
import ComputeMonitor.Proofs.Table.Cache
import ComputeMonitor.Proofs.Workspace.Tick
import ComputeMonitor.Screen.Frame

/-!
No redraw is missed.

A tick that does not ask for the screen to be drawn again has left everything alike that a frame shows. Entries
may have been formatted anew, but to the same texts and to a progress of the same value, and bars do not tell
apart the two zeros.
-/

set_option autoImplicit false

namespace ComputeMonitor.Screen

open ComputeMonitor.Client (ViewKind)
open ComputeMonitor.Gateway (RemoteDocument ToldGateway)
open ComputeMonitor.Number (Binary64)
open ComputeMonitor.Table

section Bars

theorem filledCells_zero (negative : Bool) (cells : Nat) : filledCells (.finite negative 0) cells = 0 := by
  have clamped : (Binary64.finite negative 0).clamp .zero (.ofNat 1) = .finite negative 0 := by
    cases negative <;> decide +kernel
  unfold filledCells
  rw [clamped]
  cases Binary64.ofNat cells with
  | nan => rfl
  | infinite => rfl
  | finite other units =>
    -- No part of a number of cells is a zero again, and either zero fills none of them.
    rw [Binary64.mul, Nat.zero_mul, Binary64.ofUnits_zero _ Binary64.one_pos, Binary64.round_zero]
    cases negative != other <;> simp [Binary64.toNatSaturating]

theorem filledCells_of_same {left right : Binary64} (same : left.same right = true) (cells : Nat) :
    filledCells left cells = filledCells right cells := by
  rcases Binary64.eq_or_zeros_of_same same with rfl | ⟨first, second, rfl, rfl⟩
  · rfl
  · rw [filledCells_zero, filledCells_zero]

def SameBars (before after : Option Binary64) : Prop :=
  ∀ cells, after.map (filledCells · cells) = before.map (filledCells · cells)

theorem sameBars_of_not_differs {before after : Option Binary64}
    (same : progressDiffers before after = false) : SameBars before after := by
  intro cells
  cases before with
  | none =>
    cases after with
    | none => rfl
    | some => cases same
  | some left =>
    cases after with
    | none => cases same
    | some right =>
      have isSame : left.same right = true := by simpa [progressDiffers] using same
      simp only [Option.map_some, filledCells_of_same isSame]

theorem progressBar_congr {left right : Binary64} (same : ∀ cells, filledCells left cells = filledCells right cells)
    (label : String) (width : Nat) : progressBar left label width = progressBar right label width := by
  simp only [progressBar, same]

end Bars

structure ShownAlike (before after : ListView) : Prop where
  rowCount : after.rowCount = before.rowCount
  sort : after.sort = before.sort
  selection : after.selection = before.selection
  widths : after.widths = before.widths
  cellText : ∀ row column, after.cellText row column = before.cellText row column
  bars : ∀ row, SameBars (before.progress row) (after.progress row)

namespace ShownAlike

variable {before after : ListView}

theorem trans {between : ListView} (first : ShownAlike before between) (second : ShownAlike between after) :
    ShownAlike before after where
  rowCount := second.rowCount.trans first.rowCount
  sort := second.sort.trans first.sort
  selection := second.selection.trans first.selection
  widths := second.widths.trans first.widths
  cellText row column := (second.cellText row column).trans (first.cellText row column)
  bars row cells := (second.bars row cells).trans (first.bars row cells)

theorem of_entries (permutation : after.permutation = before.permutation) (sort : after.sort = before.sort)
    (selection : after.selection = before.selection) (widths : after.widths = before.widths)
    (length : after.cache.length = before.cache.length)
    (entries : ∀ (index : Nat) (entry : Entry), before.cache[index]? = some entry →
      ∃ other, after.cache[index]? = some other ∧ other.fields = entry.fields ∧
        SameBars entry.progress other.progress) : ShownAlike before after := by
  -- A row is looked up through the permutation on both sides, so that it shows entries at one index or none.
  have rows (row : Nat) : before.entryAt? row = none ∧ after.entryAt? row = none ∨
      ∃ entry other, before.entryAt? row = some entry ∧ after.entryAt? row = some other ∧
        other.fields = entry.fields ∧ SameBars entry.progress other.progress := by
    unfold ListView.entryAt?
    rw [permutation]
    cases before.permutation.cacheIndex? row with
    | none => exact .inl ⟨rfl, rfl⟩
    | some index =>
      rw [Option.bind_some, Option.bind_some]
      cases isAt : before.cache[index]? with
      | none =>
        have beyond := List.getElem?_eq_none_iff.1 isAt
        exact .inl ⟨rfl, List.getElem?_eq_none (by omega)⟩
      | some entry =>
        obtain ⟨other, otherAt, alike⟩ := entries index entry isAt
        exact .inr ⟨entry, other, rfl, otherAt, alike⟩
  refine ⟨?_, sort, selection, widths, fun row column => ?_, fun row => ?_⟩
  · rw [ListView.rowCount, permutation]
    rfl
  · unfold ListView.cellText
    rcases rows row with ⟨none, noneAfter⟩ | ⟨entry, other, isAt, otherAt, fields, -⟩
    · rw [none, noneAfter]
    · rw [isAt, otherAt]
      dsimp only
      rw [Entry.field, fields, Entry.field]
  · unfold ListView.progress
    rcases rows row with ⟨none, noneAfter⟩ | ⟨entry, other, isAt, otherAt, -, bars⟩
    · rw [none, noneAfter]
      exact fun _ => rfl
    · rw [isAt, otherAt]
      exact bars

theorem reschedule (view : ListView) (schedule : Schedule) : ShownAlike view { view with schedule } :=
  ⟨rfl, rfl, rfl, rfl, fun _ _ => rfl, fun _ _ => rfl⟩

theorem invalidate (view : ListView) : ShownAlike view view.invalidate := by
  refine of_entries rfl rfl rfl rfl (List.length_map _) fun index entry isAt => ?_
  refine ⟨{ entry with dirty := true }, ?_, rfl, fun _ => rfl⟩
  simp [ListView.invalidate, Cache.invalidate, isAt]

variable {Item : Type} {schema : Schema Item} {view : ListView} {collection : Collection Item}

/-- A pass that asks for no repaint leaves a table that is shown alike. -/
theorem synchronize (quiet : (ListView.synchronize schema view collection).2.repaint = false) :
    ShownAlike view (ListView.synchronize schema view collection).1 := by
  unfold ListView.synchronize at quiet ⊢
  dsimp only at quiet ⊢
  simp only [Bool.or_eq_false_iff, bne_eq_false_iff_eq] at quiet
  obtain ⟨⟨needless, settled⟩, selection⟩ := quiet
  -- Without a sort the rows stay, and only the entries under them may have been formatted anew.
  rw [settled] at selection ⊢
  simp only [SyncReport.needsRepaint, Bool.or_eq_false_iff, decide_eq_false_iff_not, Nat.not_lt,
    Nat.le_zero_eq] at needless
  obtain ⟨unchanged, sameSize⟩ := needless
  refine of_entries rfl rfl selection rfl ?_ fun index entry isAt => ?_
  · exact (Cache.length_synchronize schema view.cache collection).trans
      (Cache.length_eq_of_not_sizeChanged schema view.cache collection sameSize)
  · obtain ⟨other, otherAt, fields, progress⟩ :=
      Cache.getElem?_synchronize_kept schema view.cache collection sameSize unchanged isAt
    refine ⟨other, otherAt, fields, ?_⟩
    rcases progress with same | notDiffers
    · rw [same]
      exact fun _ => rfl
    · exact sameBars_of_not_differs notDiffers

theorem fetchComplete {report : RefreshReport}
    (isReport : (view.fetchComplete schema collection).2 = some report) (quiet : report.repaint = false) :
    ShownAlike view (view.fetchComplete schema collection).1 := by
  have completed : (view.fetchComplete schema collection).2.isSome = true := by rw [isReport]; rfl
  have polling : view.schedule.phase = .polling := ListView.polling_of_completed completed
  obtain ⟨syncing, idle, isAfter, -, isSame⟩ := view.fetchComplete_of_polling schema polling collection
  cases isReport.symm.trans isSame
  rw [isAfter]
  exact (reschedule view syncing).trans ((synchronize quiet).trans (reschedule _ idle))

end ShownAlike

section Frames

variable {before after : ListView} (alike : ShownAlike before after) (columns : List Column)
include alike

theorem cellDisplay_alike (row column : Nat) :
    cellDisplay columns after row column = cellDisplay columns before row column := by
  have bars := alike.bars row
  unfold cellDisplay ListView.columnWidth
  rw [alike.cellText, alike.widths]
  -- Bars tell whether there is a progress at all, even those of no width.
  cases isBefore : before.progress row with
  | none =>
    cases isAfter : after.progress row with
    | none => rfl
    | some right => simpa [isBefore, isAfter] using bars 0
  | some left =>
    cases isAfter : after.progress row with
    | none => simpa [isBefore, isAfter] using bars 0
    | some right =>
      have same (cells : Nat) : filledCells right cells = filledCells left cells := by
        simpa [isBefore, isAfter] using bars cells
      dsimp only
      cases columns[column]? with
      | none => rfl
      | some found =>
        dsimp only
        rw [progressBar_congr same]

theorem tableLine_alike : tableLine columns after = tableLine columns before := by
  funext width row
  have cells (column : Nat) := cellDisplay_alike alike columns row column
  simp only [tableLine, rowCells, ListView.columnWidth, alike.selection, alike.widths, cells]

theorem headerLine_alike (focus : Nat) : headerLine columns after focus = headerLine columns before focus := by
  simp only [headerLine, rowCells, ListView.columnWidth, alike.sort, alike.widths]

theorem visibleRows_alike (height : Nat) : visibleRows after height = visibleRows before height := by
  simp only [visibleRows, alike.selection, alike.rowCount]

theorem tableTitle_alike (label : String) : tableTitle label after = tableTitle label before := by
  simp only [tableTitle, alike.selection, alike.rowCount]

end Frames

theorem frame_alike {console : Console} {workspace : Workspace} (active : workspace.active = console.workspace.active)
    (alike : ShownAlike console.workspace.activeView workspace.activeView) (width height : Nat) :
    Console.frame { console with workspace } width height = console.frame width height := by
  unfold Console.frame tableLines
  dsimp only
  rw [active, tableTitle_alike alike, headerLine_alike alike, visibleRows_alike alike,
    tableLine_alike alike]

section Ticks

variable {σ : Type} [DocumentSource σ] {now : Nat} {source : σ}

theorem answered_alike {workspace : Workspace} {view : ListView} (after : σ)
    (begun : workspace.activeView.tick? now (DocumentSource.link source) = some view) :
    ShownAlike workspace.activeView (workspace.answered source view after).activeView := by
  obtain ⟨schedule, rfl, -, -⟩ := ListView.tick?_keeps begun
  have polling := ShownAlike.reschedule workspace.activeView schedule
  rw [Workspace.activeView_answered]
  split
  · exact polling.trans (.invalidate _)
  · exact polling

theorem tickCourse_alike {workspace : Workspace} {ticked : Workspace × σ × TickOutcome}
    (course : workspace.TickCourse now source ticked) (quiet : ticked.2.2 = .skipped ∨
      ∃ report, ticked.2.2 = .refreshed report ∧ report.repaint = false) :
    ShownAlike workspace.activeView ticked.1.activeView := by
  cases course with
  | notDue =>
    dsimp only
    rw [Workspace.activeView_relink]
    exact .reschedule _ _
  | failed | crashed | ended => simp at quiet
  | @shown view after report begun accepted reported =>
    have noRepaint : report.repaint = false := by simpa using quiet
    rw [Workspace.activeView_setView]
    exact (answered_alike after begun).trans (.fetchComplete reported noRepaint)

/-- A tick that does not ask for the screen to be drawn again leaves every frame as it was, whatever has happened
before and whatever the source has answered. The status text is the same too, of which no frame shows anything:
its box has no row between its edges. -/
theorem Console.tick_keeps_frame (console : Console) (now : Nat) (source : σ)
    (settled : (console.tick now source).2.2 = .settled false) (width height : Nat) :
    let ticked := (console.tick now source).1
    ticked.frame width height = console.frame width height ∧ ticked.app = console.app ∧
      statusText ticked.app = statusText console.app := by
  intro ticked
  obtain ⟨(isTicked : ticked = _), quiet⟩ := Console.tick_of_settled settled
  have course := console.workspace.tick_course now source
  have sameApp : ticked.app = console.app := by rw [isTicked]
  refine ⟨?_, sameApp, congrArg statusText sameApp⟩
  rw [isTicked]
  exact frame_alike course.active (tickCourse_alike course quiet) width height

end Ticks

section Drift

/-- A gateway of a project whose average credit rises by less than its cell shows. -/
def driftingGateway : ToldGateway where
  polls := [
    { state := .ok { projects := [{ masterUrl := "a", avgCredit := .ofRatio false 1001 1000 }] }
      messages := [.ok {}] },
    { state := .ok { projects := [{ masterUrl := "a", avgCredit := .ofRatio false 1002 1000 }] }
      messages := [.ok {}] }]

def driftingDocument : RemoteDocument ToldGateway := { fetcher := driftingGateway }

def driftingScreen : Console × RemoteDocument ToldGateway × Console.TickEffect :=
  Console.tick { app := { activeView := .projects }, workspace := (Workspace.new {}).setActive .projects } 0
    driftingDocument

theorem drifting_tick_keeps_frame :
    let ticked := driftingScreen.1.tick 5000 driftingScreen.2.1
    driftingScreen.2.2 = .settled true ∧ driftingScreen.1.workspace.activeView.rowCount = 1 ∧
      (driftingScreen.1.workspace.tick 5000 driftingScreen.2.1).2.2 =
        .refreshed ⟨{ formatted := 1 }, false, false⟩ ∧
      ticked.2.2 = .settled false ∧
      ticked.1.frame 80 24 = driftingScreen.1.frame 80 24 ∧ ticked.1.app = driftingScreen.1.app ∧
        statusText ticked.1.app = statusText driftingScreen.1.app := by
  intro ticked
  have settled : ticked.2.2 = .settled false := by decide +kernel
  exact ⟨by decide +kernel, by decide +kernel, by decide +kernel, settled,
    driftingScreen.1.tick_keeps_frame 5000 driftingScreen.2.1 settled 80 24⟩

end Drift

end ComputeMonitor.Screen
