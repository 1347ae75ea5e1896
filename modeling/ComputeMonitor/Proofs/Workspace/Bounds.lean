import ComputeMonitor.Proofs.Table.Inside
import ComputeMonitor.Proofs.Workspace.Tick

/-!
Tables that stay within their bounds.

The selections of all four tables lie within their rows, and every step but the end of the program keeps them
there.
-/

set_option autoImplicit false

namespace ComputeMonitor.Workspace

open ComputeMonitor.Client (ViewKind)
open ComputeMonitor.Table (Adjustment ListView Operation)
open ComputeMonitor.Table.ListView (RowsKept)

def InBounds (workspace : Workspace) : Prop := ∀ kind : ViewKind, (workspace.view kind).InBounds kind.schema

variable {workspace : Workspace}

namespace InBounds

variable (inBounds : workspace.InBounds)
include inBounds

theorem setView {kind : ViewKind} {view : ListView} (held : view.InBounds kind.schema) :
    (workspace.setView kind view).InBounds := setView_keeps inBounds held

theorem adjust (kind : ViewKind) (adjustment : Adjustment)
    (byKeys : (Operation.adjust adjustment : Operation kind.Item).selects = false) :
    (workspace.update kind (·.adjust kind.schema adjustment)).InBounds :=
  inBounds.setView ((inBounds kind).perform (.adjust adjustment) byKeys)

theorem setActive (kind : ViewKind) : (workspace.setActive kind).InBounds := by
  intro other
  have diagnosing := (inBounds other).perform (.adjust (.setDiagnosticsOpen kind.isDiagnostics)) rfl
  rw [view_setActive]
  dsimp only
  split
  · exact diagnosing.perform (.adjust .forceRefresh) rfl
  · exact diagnosing

end InBounds

theorem TickCourse.inBounds {σ : Type} [DocumentSource σ] {now : Nat} {source : σ}
    {ticked : Workspace × σ × TickOutcome} (course : TickCourse workspace now source ticked)
    (inBounds : workspace.InBounds) (survived : ticked.2.2 ≠ .crashed) : ticked.1.InBounds := by
  refine course.keeps inBounds (fun kind view schedule held => ?_)
    (fun _ _ held => held.perform (.adjust .invalidate) rfl)
    (fun _ _ collection held => held.perform (.fetchComplete collection) rfl)
    fun isCrashed => (survived isCrashed).elim
  exact ⟨(RowsKept.still rfl rfl rfl).ordered held.ordered, held.inside⟩

theorem inBounds_new (intervals : Intervals) : (Workspace.new intervals).InBounds := by
  apply InBounds.setActive
  intro kind
  rw [view_blank]
  exact ListView.inBounds_new _ _

end ComputeMonitor.Workspace
