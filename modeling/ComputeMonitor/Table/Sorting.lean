import ComputeMonitor.Table.Cache
import ComputeMonitor.Table.Merging

/-!
The order in which the rows of a table are shown.

Rows are shown in the order of a permutation of the cache. Sorting starts from the order shown
before, so that rows that compare equal stay as they were; rows that are new follow the others.
-/

set_option autoImplicit false

namespace ComputeMonitor.Table

open ComputeMonitor.Cell (Direction Key)

structure SortState where
  column : Option Nat := none
  direction : Direction := .ascending
  deriving DecidableEq, Repr, Inhabited

/-- Sort by a column: ascending at first, the other way round each time it is chosen again. -/
def SortState.activate (state : SortState) (column : Nat) : SortState :=
  if state.column = some column then { state with direction := state.direction.toggled }
  else ⟨some column, .ascending⟩

/-- The cache indices of the rows, from the top row on. -/
structure Permutation where
  order : List Nat
  deriving DecidableEq, Repr, Inhabited

namespace Permutation

def identity (length : Nat) : Permutation := ⟨List.range length⟩

def length (permutation : Permutation) : Nat := permutation.order.length

def cacheIndex? (permutation : Permutation) (row : Nat) : Option Nat := permutation.order[row]?

def fillRows (row : Nat) : List Nat → Array Nat → Array Nat
  | [], rows => rows
  | index :: rest, rows => fillRows (row + 1) rest (rows.setIfInBounds index row)

/-- For each cache index the row that shows it. -/
def inverse (permutation : Permutation) : Array Nat :=
  fillRows 0 permutation.order (Array.replicate permutation.length 0)

def row? (permutation : Permutation) (index : Nat) : Option Nat := permutation.inverse[index]?

/-- Whether each index below a length is shown in exactly one row, and no other index. -/
def isBijection (permutation : Permutation) (length : Nat) : Bool :=
  permutation.length == length && permutation.order.all (· < length) && permutation.order.Nodup

/-- The order shown so far without the indices that are gone, followed by the new ones. -/
def carriedOver (permutation : Permutation) (length : Nat) : List Nat :=
  let kept := permutation.order.filter (· < length)
  kept ++ (List.range length).filter fun index => !kept.contains index

end Permutation

def SortState.sortedColumn? (state : SortState) (columns : List Column) : Option (Nat × Column) :=
  state.column.bind fun index => columns[index]?.map fun column => (index, column)

def columnKeys (cache : Cache) (kind : Cell.Kind) (column : Nat) : Array Key :=
  (cache.map fun entry => Key.read kind (entry.field column)).toArray

def keyOrder (keys : Array Key) (direction : Direction) (left right : Nat) : Ordering :=
  direction.apply ((keys.getD left default).order (keys.getD right default))

def sortPermutation (cache : Cache) (columns : List Column) (state : SortState)
    (prior : Permutation) : Permutation :=
  match state.sortedColumn? columns with
  | none => .identity cache.length
  | some (index, column) =>
    let keys := columnKeys cache column.kind index
    ⟨sortBy (keyOrder keys state.direction) (prior.carriedOver cache.length)⟩

end ComputeMonitor.Table
