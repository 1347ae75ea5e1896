import ComputeMonitor.Number.Decimal
import ComputeMonitor.Toml.Scalar

/-!
Settling what was read: which numbers are too large, and which tables stand for points in time.

A table stands for a point in time if the first of its names in their order is a certain mark.
What such a table leaves aside is not settled, so that nothing in it is refused.
-/

set_option autoImplicit false

namespace ComputeMonitor.Toml

def maxInt64 : Int := 9223372036854775807

def fitsInt64 (number : Int) : Bool := -maxInt64 - 1 ≤ number && number ≤ maxInt64

/-- Whether a number with a point or an exponent lies beyond the format. Infinity itself is
written by its name and does not. -/
def isOverflow (text : List Char) : Bool :=
  (Number.decimal? ((splitSign text).2.filter (· ≠ '_'))).any fun decimal =>
    !(decimal.nearest false).isFinite

def dateTimeMark : String := "$__toml_private_datetime"

/-- Whether the mark is a name of a table and comes before all others in the order of characters. -/
def isMarked (entries : Entries) : Bool :=
  (entries.lookup dateTimeMark).isSome &&
    entries.all fun (name, _) => name = dateTimeMark || dateTimeMark < name

/-- The point in time that a marked table stands for: the text of its marked entry. All other
entries are left aside. -/
def momentOf? (entries : Entries) : Option Value :=
  match entries.lookup dateTimeMark with
  | some (.string text) => (DateTime.read? text.toList).map .dateTime
  | _ => none

mutual

/-- A value in which every table is either plain or has become the point in time that it stands
for, arrays of tables are plain arrays, and numbers are not too large. -/
def Value.settle? : Value → Option Value
  | .integer number => if fitsInt64 number then some (.integer number) else none
  | .float text => if isOverflow text.toList then none else some (.float text)
  | .array elements => (settleAll? elements).map .array
  | .table origin entries =>
    if isMarked entries then momentOf? entries
    else (settleEntries? entries).map (.table origin)
  | .tables elements => (settleTables? elements).map .array
  | value => some value

def settleAll? : List Value → Option (List Value)
  | [] => some []
  | value :: rest => do return (← value.settle?) :: (← settleAll? rest)

def settleEntries? : List (String × Value) → Option (List (String × Value))
  | [] => some []
  | (name, value) :: rest => do return (name, ← value.settle?) :: (← settleEntries? rest)

def settleTables? : List (List (String × Value)) → Option (List Value)
  | [] => some []
  | entries :: rest => do
    let table ← if isMarked entries then momentOf? entries
      else (settleEntries? entries).map (.table .heading)
    return table :: (← settleTables? rest)

end

def settledEntries? (entries : Entries) : Option Entries :=
  (Value.table .heading entries).settle?.map fun value =>
    match value with
    | .table _ entries => entries
    | _ => []

end ComputeMonitor.Toml
