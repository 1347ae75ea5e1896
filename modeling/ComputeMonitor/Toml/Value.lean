import ComputeMonitor.Toml.DateTime

/-!
TOML values, and the tables of a document as its lines build them up.

A table remembers how it came to be, because that decides what later lines may do with it: a table
with a heading has no second one, dotted keys extend only what dotted keys have made, and an
inline table is closed.
-/

set_option autoImplicit false

namespace ComputeMonitor.Toml

/-- How a table came to be: by the heading of a table inside it, by its own heading, by a dotted
key, or written inline. -/
inductive Origin where
  | implied
  | heading
  | dotted
  | inline
  deriving DecidableEq, Repr

/-- Numbers with a point are kept as they are written. -/
inductive Value where
  | string (text : String)
  | integer (number : Int)
  | float (text : String)
  | bool (value : Bool)
  | dateTime (moment : DateTime)
  | array (elements : List Value)
  | table (origin : Origin) (entries : List (String × Value))
  | tables (elements : List (List (String × Value)))
  deriving Inhabited

abbrev Entries := List (String × Value)

namespace Entries

def put (name : String) (value : Value) : Entries → Entries
  | [] => [(name, value)]
  | entry :: rest => if entry.1 = name then (name, value) :: rest else entry :: put name value rest

/-- Change the table that a heading names. Tables on the way are made where there are none, and of
an array of tables the last one is meant. -/
def descend (change : Entries → Option Entries) : List String → Entries → Option Entries
  | [], entries => change entries
  | name :: path, entries =>
    match entries.lookup name with
    | none => (descend change path []).map fun inner => put name (.table .implied inner) entries
    | some (.table .inline _) => none
    | some (.table origin inner) =>
      (descend change path inner).map fun inner => put name (.table origin inner) entries
    | some (.tables elements) =>
      match elements.getLast? with
      | some last =>
        (descend change path last).map fun last =>
          put name (.tables (elements.dropLast ++ [last])) entries
      | none => none
    | some _ => none

def openTable (name : String) (entries : Entries) : Option Entries :=
  match entries.lookup name with
  | none => some (put name (.table .heading []) entries)
  | some (.table .implied inner) => some (put name (.table .heading inner) entries)
  | some _ => none

def openElement (name : String) (entries : Entries) : Option Entries :=
  match entries.lookup name with
  | none => some (put name (.tables [[]]) entries)
  | some (.tables elements) => some (put name (.tables (elements ++ [[]])) entries)
  | some _ => none

def insertNew (name : String) (value : Value) (entries : Entries) : Option Entries :=
  match entries.lookup name with
  | none => some (put name value entries)
  | some _ => none

/-- Put a value under a dotted key. The table that takes it in must be one of dotted keys. On the
way to it there may also be tables that headings imply, and the last tables of arrays. -/
def assign (value : Value) : List String → Entries → Option Entries
  | [], _ => none
  | [name], entries => insertNew name value entries
  | name :: next :: path, entries =>
    match entries.lookup name with
    | none => (assign value (next :: path) []).map fun inner => put name (.table .dotted inner) entries
    | some (.table .dotted inner) =>
      (assign value (next :: path) inner).map fun inner => put name (.table .dotted inner) entries
    | some (.table .implied inner) =>
      if path.isEmpty then none
      else (assign value (next :: path) inner).map fun inner => put name (.table .implied inner) entries
    | some (.tables elements) =>
      match elements.getLast? with
      | some last =>
        if path.isEmpty then none
        else (assign value (next :: path) last).map fun last =>
          put name (.tables (elements.dropLast ++ [last])) entries
      | none => none
    | some _ => none

end Entries

inductive Statement where
  | assign (key : List String) (value : Value)
  | openTable (key : List String)
  | openElement (key : List String)

/-- A document as far as it has been built: all entries, and the table that the lines belong to. -/
structure Building where
  entries : Entries := []
  current : List String := []

def Building.open? (building : Building) (key : List String)
    (make : String → Entries → Option Entries) : Option Building := do
  let name ← key.getLast?
  let entries ← building.entries.descend (make name) key.dropLast
  return { entries, current := key }

def Building.add? (building : Building) : Statement → Option Building
  | .assign key value => do
    let entries ← building.entries.descend (Entries.assign value key) building.current
    return { building with entries }
  | .openTable key => building.open? key Entries.openTable
  | .openElement key => building.open? key Entries.openElement

def build? (statements : List Statement) : Option Entries :=
  (statements.foldlM Building.add? {}).map Building.entries

def inlineTable? (pairs : List (List String × Value)) : Option Value := do
  let entries ← pairs.foldlM (fun entries (key, value) => Entries.assign value key entries) []
  return .table .inline entries

end ComputeMonitor.Toml
