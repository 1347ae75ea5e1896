import ComputeMonitor.Table.Column
import ComputeMonitor.Table.RowKey

/-!
What a table shows of its items, and the collections that items come from.
-/

set_option autoImplicit false

namespace ComputeMonitor.Table

open ComputeMonitor.Number (Binary64)

/-- How the items of a collection become rows. Items with equal change tokens are shown alike, so
that a row whose token is unchanged need not be formatted again. -/
structure Schema (Item : Type) where
  columns : List Column
  keyMatch : KeyMatch := .both
  rowKey : Item → RowKey
  changeToken : Item → UInt64
  cell : Item → Nat → String
  progress : Item → Option Binary64 := fun _ => none

def Schema.cells {Item : Type} (schema : Schema Item) (item : Item) : List String :=
  (List.range schema.columns.length).map (schema.cell item)

/-- Indexed access to a remote collection. It may lack items below the count that it reports, as
when it shrinks while it is being read. -/
structure Collection (Item : Type) where
  count : Nat
  item? : Nat → Option Item

namespace Collection

variable {Item : Type}

def ofList (items : List Item) : Collection Item := ⟨items.length, (items[·]?)⟩

def itemsFrom (collection : Collection Item) (index : Nat) : Nat → List Item
  | 0 => []
  | remaining + 1 =>
    match collection.item? index with
    | some item => item :: collection.itemsFrom (index + 1) remaining
    | none => []

/-- The items below the reported count and below the first that is missing. -/
def reachable (collection : Collection Item) : List Item := collection.itemsFrom 0 collection.count

end Collection
end ComputeMonitor.Table
