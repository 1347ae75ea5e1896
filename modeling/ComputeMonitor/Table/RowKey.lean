import ComputeMonitor.Text.CodePointOrder

/-!
Identities of table rows: a primary text and a secondary one, which may be empty. A table says
whether both must agree for two rows to show the same item or the primary one alone.
-/

set_option autoImplicit false

namespace ComputeMonitor.Table

structure RowKey where
  primary : String
  secondary : String
  deriving DecidableEq, Repr, Inhabited

inductive KeyMatch where
  | both
  | primaryOnly
  deriving DecidableEq, Repr, Inhabited

namespace RowKey

def agrees (left : RowKey) (mode : KeyMatch) (right : RowKey) : Bool :=
  match mode with
  | .both => left == right
  | .primaryOnly => left.primary == right.primary

def order (left right : RowKey) : Ordering :=
  (Text.compareText left.primary right.primary).then (Text.compareText left.secondary right.secondary)

end RowKey
end ComputeMonitor.Table
