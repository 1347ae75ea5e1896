import ComputeMonitor.Settings.Database
import ComputeMonitor.Table.Layout
import ComputeMonitor.Text.CodePointOrder

/-!
The store of settings: one table of keys and values in a database of its own.

A store is set up in a database without tables only. A database that has tables already must have
the table of settings with its columns, so that the database of another program is never taken
over. Every operation that fails leaves the database as it was.
-/

set_option autoImplicit false

namespace ComputeMonitor.Settings

open ComputeMonitor.Table (Layout)
open ComputeMonitor.Text (compareText dropLeading?)

def settingsTable : String := "settings"

def keyColumn : String := "key"

def valueColumn : String := "value"

def timeColumn : String := "updated_at"

def settingsColumns : List String := [keyColumn, valueColumn, timeColumn]

inductive StoreFault where
  | missingTable
  | missingColumns (columns : List String)
  | reading (key : String)
  | writing (key : String)
  | listing
  | clearing (table : String)
  deriving DecidableEq, Repr

def StoreFault.message : StoreFault → String
  | .missingTable =>
    "database is missing required table \x60settings\x60; point storage.db_path at a boincview database"
  | .missingColumns columns =>
    "table \x60settings\x60 is missing required columns: " ++ ", ".intercalate columns ++
      "; remove the database to recreate it"
  | .reading key => "read setting " ++ key
  | .writing key => "upsert setting " ++ key
  | .listing => "prepare settings prefix query"
  | .clearing table => "clear prefs for " ++ table

/-- Whether a table counts as one of the database itself: its name begins with `sqlite`, in any
case, and has one more character at least. -/
def isInternal (name : String) : Bool :=
  match dropLeading? "sqlite".toList (foldName name) with
  | some (_ :: _) => true
  | _ => false

/-- The columns of the store that a table does not have under exactly these names. -/
def missingColumns (table : DataTable) : List String :=
  settingsColumns.filter fun column => !table.columns.contains column

def newSettings : DataTable := { name := settingsTable, columns := settingsColumns, keyed := true }

def bootstrap (database : Database) : Except StoreFault Database :=
  if database.all fun table => isInternal table.name then .ok (database ++ [newSettings])
  else match List.find? (·.name == settingsTable) database with
    | none => .error .missingTable
    | some table =>
      match missingColumns table with
      | [] => .ok database
      | missing => .error (.missingColumns missing)

structure Opened where
  table : DataTable
  key : Nat
  value : Nat

def openSettings? (database : Database) : Option Opened := do
  let table ← database.find? settingsTable
  let key ← table.column? keyColumn
  let value ← table.column? valueColumn
  return { table, key, value }

def cellAt (row : List String) (column : Nat) : String := row.getD column ""

def Opened.pairs (opened : Opened) : List (String × String) :=
  opened.table.rows.map fun row => (cellAt row opened.key, cellAt row opened.value)

def get (database : Database) (key : String) : Except StoreFault (Option String) :=
  match openSettings? database with
  | none => .error (.reading key)
  | some opened => .ok (opened.pairs.lookup key)

/-- Put a row in the place of the one with its key, or behind all others. -/
def upsertRow (rows : List (List String)) (row : List String) : List (List String) :=
  if rows.any (·.head? == row.head?) then
    rows.map fun other => if other.head? == row.head? then row else other
  else rows ++ [row]

def put (database : Database) (now key value : String) : Except StoreFault Database :=
  match database.find? settingsTable with
  | some table =>
    if table.keyed then
      .ok (database.replace { table with rows := upsertRow table.rows [key, value, now] })
    else .error (.writing key)
  | none => .error (.writing key)

/-- Whether a key begins with a text. A text with a null character begins no key. -/
def hasBeginning (beginning key : String) : Bool :=
  !beginning.toList.contains '\x00' && (dropLeading? beginning.toList key.toList).isSome

def withBeginning (database : Database) (beginning : String) :
    Except StoreFault (List (String × String)) :=
  match openSettings? database with
  | none => .error .listing
  | some opened =>
    .ok ((opened.pairs.filter fun (key, _) => hasBeginning beginning key).mergeSort
      fun left right => compareText left.1 right.1 != .gt)

def loadLayout (database : Database) (table : String) : Except StoreFault Layout := do
  return Layout.ofPairs table (← withBeginning database (table ++ "."))

def clearBeginning? (database : Database) (beginning : String) : Option Database := do
  let table ← database.find? settingsTable
  let key ← table.column? keyColumn
  return database.replace
    { table with rows := table.rows.filter fun row => !hasBeginning beginning (cellAt row key) }

def putAll (now : String) : List (String × String) → Database → Except StoreFault Database
  | [], database => .ok database
  | (key, value) :: rest, database => do putAll now rest (← put database now key value)

/-- Put a layout in the place of all settings of its table. -/
def saveLayout (database : Database) (now table : String) (layout : Layout) :
    Except StoreFault Database :=
  match clearBeginning? database (table ++ ".") with
  | none => .error (.clearing table)
  | some cleared => putAll now (layout.toPairs table) cleared

end ComputeMonitor.Settings
