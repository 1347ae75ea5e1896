import ComputeMonitor.Proofs.Table.LaidOut
import ComputeMonitor.Proofs.Workspace.Tick

/-!
Tables whose layouts can be stored.

The four tables start with a width for every column, and every command keeps it so, also a tick that ends in
the middle of a document. Only a caller that sorts by a column that a table does not have is left out.
-/

set_option autoImplicit false

namespace ComputeMonitor

namespace Client.ViewKind

theorem wellNamed (kind : ViewKind) : Table.WellNamed kind.schema.columns := by
  cases kind <;> exact ⟨by decide, by decide⟩

theorem no_width_zero (kind : ViewKind) : 0 ∉ kind.schema.columns.map Table.Column.width := by
  cases kind <;> decide

end Client.ViewKind

namespace Workspace

open ComputeMonitor.Client (ViewKind)
open ComputeMonitor.Table (Adjustment Layout ListView)

def LaidOut (workspace : Workspace) : Prop := ∀ kind : ViewKind, (workspace.view kind).LaidOut kind.schema

def Command.OfColumns : Command → Prop
  | .adjust kind adjustment => adjustment.OfColumns kind.schema.columns
  | _ => True

section Runs

variable {σ : Type} [DocumentSource σ] {workspace : Workspace}

theorem LaidOut.setActive (laidOut : workspace.LaidOut) (kind : ViewKind) : (workspace.setActive kind).LaidOut := by
  intro other
  rw [view_setActive]
  dsimp only
  split <;> exact (laidOut other).same rfl rfl

theorem TickCourse.laidOut {now : Nat} {source : σ} {ticked : Workspace × σ × TickOutcome}
    (course : TickCourse workspace now source ticked) (laidOut : workspace.LaidOut) : ticked.1.LaidOut :=
  course.keeps laidOut (fun _ _ _ held => held.same rfl rfl) (fun _ _ held => held.same rfl rfl)
    (fun _ _ collection held => held.fetchComplete collection) fun _ _ _ _ _ held => held.same rfl rfl

theorem LaidOut.obey {state : Workspace × σ} (laidOut : state.1.LaidOut) {command : Command}
    (ofColumns : command.OfColumns) : (Workspace.obey state command).1.LaidOut := by
  cases command with
  | tick now => exact (tick_course state.1 now state.2).laidOut laidOut
  | setActive kind => exact laidOut.setActive kind
  | setIntervals intervals => exact updateAll_keeps laidOut fun _ _ held => held.same rfl rfl
  | forceRefresh => exact setView_keeps laidOut ((laidOut state.1.active).same rfl rfl)
  | applyLayout kind layout => exact setView_keeps laidOut ((laidOut kind).applyLayout layout)
  | adjust kind adjustment => exact setView_keeps laidOut ((laidOut kind).adjust ofColumns)

theorem LaidOut.run {state : Workspace × σ} (laidOut : state.1.LaidOut) {commands : List Command}
    (ofColumns : ∀ command ∈ commands, command.OfColumns) : (Workspace.run state commands).1.LaidOut := by
  induction commands generalizing state with
  | nil => exact laidOut
  | cons command rest ih =>
    rw [List.forall_mem_cons] at ofColumns
    exact ih (laidOut.obey ofColumns.1) ofColumns.2

end Runs

theorem laidOut_new (intervals : Intervals) : (Workspace.new intervals).LaidOut := by
  apply LaidOut.setActive
  intro kind
  rw [view_blank]
  exact ⟨fun _ isColumn => (nomatch isColumn), List.length_map _, kind.no_width_zero⟩

end Workspace
end ComputeMonitor
