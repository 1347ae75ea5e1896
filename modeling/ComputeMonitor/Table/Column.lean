import ComputeMonitor.Cell.Order

/-!
Columns of a table: a stable name for stored layouts, a heading, the reading of the cells, and
the width at first.
-/

set_option autoImplicit false

namespace ComputeMonitor.Table

structure Column where
  id : String
  label : String
  kind : Cell.Kind
  width : UInt16
  deriving DecidableEq, Repr, Inhabited

def columnIndex? (columns : List Column) (id : String) : Option Nat :=
  columns.findIdx? (·.id == id)

end ComputeMonitor.Table
