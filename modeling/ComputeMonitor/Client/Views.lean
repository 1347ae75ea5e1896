import ComputeMonitor.Client.Tables
import ComputeMonitor.Table.ListView

/-!
Which items each of the four tables shows, and how.
-/

set_option autoImplicit false

namespace ComputeMonitor.Client.ViewKind

open ComputeMonitor.Table (Collection ListView Schema)

abbrev Item : ViewKind → Type
  | .projects => Project
  | .tasks => Task
  | .transfers => Transfer
  | .events => Message

def schema : (kind : ViewKind) → Schema kind.Item
  | .projects => Project.schema
  | .tasks => Task.schema
  | .transfers => Transfer.schema
  | .events => Message.schema

def items : (kind : ViewKind) → Document → List kind.Item
  | .projects, document => document.state.projects
  | .tasks, document => document.state.tasks
  | .transfers, document => document.state.transfers
  | .events, document => document.messages

def collection (kind : ViewKind) (document : Document) : Collection kind.Item :=
  .ofList (kind.items document)

/-- Whether every cell of an item can be shown. Times can lie beyond the years of the calendar. -/
def isShowable : (kind : ViewKind) → kind.Item → Bool
  | .projects, _ => true
  | .tasks, task => task.isShowable
  | .transfers, _ => true
  | .events, message => message.isShowable

end ComputeMonitor.Client.ViewKind
