import ComputeMonitor.Settings.Store
import ComputeMonitor.Workspace

/-!
The layouts of the tables between two runs of the program. A layout that cannot be read or written
does not keep the others from being so.
-/

set_option autoImplicit false

namespace ComputeMonitor.Screen

open ComputeMonitor.Client (ViewKind)
open ComputeMonitor.Settings (Database loadLayout saveLayout)
open ComputeMonitor.Table (Layout)

/-- The layout stored for a table, unless the store cannot be read. -/
def storedLayout? (database : Database) (kind : ViewKind) : Option Layout :=
  (loadLayout database kind.name).toOption

/-- Take on stored layouts; a table without one stays as it is. -/
def applyLayouts (layout? : ViewKind → Option Layout) (workspace : Workspace) : Workspace :=
  ViewKind.all.foldl (fun workspace kind =>
    match layout? kind with
    | some layout => workspace.applyLayout kind layout
    | none => workspace) workspace

def saveOne (now : String) (database : Database) (entry : ViewKind × Layout) : Database :=
  match saveLayout database now entry.1.name entry.2 with
  | .ok saved => saved
  | .error _ => database

def saveLayouts (now : String) (workspace : Workspace) (database : Database) : Database :=
  workspace.layouts.foldl (saveOne now) database

end ComputeMonitor.Screen
