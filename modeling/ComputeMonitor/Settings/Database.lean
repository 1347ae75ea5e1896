import ComputeMonitor.Text.Blank
import ComputeMonitor.Text.Letter

/-!
Databases: tables with named columns, and rows of texts.

Names of tables and columns are the same for the database when they differ in the case of ASCII
letters only. Names that begin with `sqlite_` belong to the database itself.
-/

set_option autoImplicit false

namespace ComputeMonitor.Settings

open ComputeMonitor.Text (dropLeading? lowerAscii)

def foldName (name : String) : List Char := name.toList.map lowerAscii

def sameName (left right : String) : Bool := foldName left == foldName right

/-- A table. A keyed one holds at most one row for each text of its first column, and only there
can a row be replaced. -/
structure DataTable where
  name : String
  columns : List String
  keyed : Bool := false
  rows : List (List String) := []
  deriving DecidableEq, Repr, Inhabited

namespace DataTable

def column? (table : DataTable) (name : String) : Option Nat :=
  table.columns.findIdx? (sameName · name)

end DataTable

/-- The tables of a database, in the order of their making. -/
abbrev Database := List DataTable

namespace Database

def find? (database : Database) (name : String) : Option DataTable :=
  List.find? (fun table => sameName table.name name) database

def replace (database : Database) (table : DataTable) : Database :=
  database.map fun other => if sameName other.name table.name then table else other

def isReserved (name : String) : Bool := (dropLeading? "sqlite_".toList (foldName name)).isSome

def maxColumns : Nat := 2000

/-- Make a table. A reserved name, the name of a table that exists, a name with a null character,
and columns that are none, too many or not told apart are refused. -/
def create? (database : Database) (name : String) (columns : List String) : Option Database :=
  if isReserved name || (database.find? name).isSome || columns.isEmpty ||
      maxColumns < columns.length || (name :: columns).any (·.toList.contains '\x00') ||
      !decide (columns.map foldName).Nodup then none
  else some (database ++ [{ name := name, columns := columns }])

end Database
end ComputeMonitor.Settings
