/-!
The four tables of the screen, in the order of their tabs.
-/

set_option autoImplicit false

namespace ComputeMonitor.Client

inductive ViewKind where
  | projects
  | tasks
  | transfers
  | events
  deriving DecidableEq, Repr, Inhabited

namespace ViewKind

def all : List ViewKind := [.projects, .tasks, .transfers, .events]

/-- The stable name, under which layouts are stored as well. -/
def name : ViewKind → String
  | .projects => "projects"
  | .tasks => "tasks"
  | .transfers => "transfers"
  | .events => "events"

def ofName? (text : String) : Option ViewKind := all.find? (·.name == text)

def label : ViewKind → String
  | .projects => "Projects"
  | .tasks => "Tasks"
  | .transfers => "Transfers"
  | .events => "Event Log"

/-- The log serves diagnosis and is polled as often as allowed. -/
def isDiagnostics (kind : ViewKind) : Bool := kind == .events

def position : ViewKind → Nat
  | .projects => 0
  | .tasks => 1
  | .transfers => 2
  | .events => 3

def rotate (kind : ViewKind) (delta : Int) : ViewKind :=
  all.getD ((kind.position + delta) % 4).toNat .projects

end ViewKind
end ComputeMonitor.Client
