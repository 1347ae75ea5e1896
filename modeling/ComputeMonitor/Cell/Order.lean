import ComputeMonitor.Cell.Text
import ComputeMonitor.Text.CodePointOrder
import ComputeMonitor.Text.LowerCase

/-!
The order of cell texts.

A column says how its cells are read for ordering. Cells that cannot be read compare equal to
every other cell, so that a bad cell never stops a sort. The descending order is the ascending
one reversed.
-/

set_option autoImplicit false

namespace ComputeMonitor.Cell

open ComputeMonitor.Calendar (Moment)
open ComputeMonitor.Number (Binary64)
open ComputeMonitor.Text

inductive Direction where
  | ascending
  | descending
  deriving DecidableEq, Repr, Inhabited

namespace Direction

def name : Direction → String
  | .ascending => "asc"
  | .descending => "desc"

def ofName? (text : String) : Option Direction :=
  let trimmed := trim text
  if trimmed = "asc" then some .ascending else if trimmed = "desc" then some .descending else none

def toggled : Direction → Direction
  | .ascending => .descending
  | .descending => .ascending

def apply : Direction → Ordering → Ordering
  | .ascending, order => order
  | .descending, order => order.swap

end Direction

/-- How the cells of a column are read when rows are ordered. -/
inductive Kind where
  | text
  | textNoCase
  | number
  | duration
  | dateTime
  deriving DecidableEq, Repr, Inhabited

inductive Key where
  | chars (chars : List Char)
  | number (value : Option Binary64)
  | moment (value : Option Moment)
  deriving DecidableEq, Repr, Inhabited

namespace Key

def read (kind : Kind) (cell : String) : Key :=
  match kind with
  | .text => .chars cell.toList
  | .textNoCase => .chars (lowerCaseChars cell.toList)
  | .number => .number (readNumber? cell)
  | .duration => .number (readDuration? cell)
  | .dateTime => .moment (readMoment? cell)

/-- The order of two keys; what could not be read is equal to everything. -/
def order : Key → Key → Ordering
  | .chars left, .chars right => compareChars left right
  | .number (some left), .number (some right) => (left.compare? right).getD .eq
  | .moment (some left), .moment (some right) => left.order right
  | _, _ => .eq

def isRead : Key → Bool
  | .chars _ => true
  | .number value => value.isSome
  | .moment value => value.isSome

end Key

def order (kind : Kind) (left right : String) (direction : Direction) : Ordering :=
  direction.apply ((Key.read kind left).order (Key.read kind right))

end ComputeMonitor.Cell
