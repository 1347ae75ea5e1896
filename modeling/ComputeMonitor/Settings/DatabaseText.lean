import ComputeMonitor.Json.Access
import ComputeMonitor.Json.Writer
import ComputeMonitor.Settings.Database

/-!
Databases as texts, to keep them in files. An empty text is an empty database.
-/

set_option autoImplicit false

namespace ComputeMonitor.Settings

open ComputeMonitor.Json
open Value (listOf record text)

def DataTable.toJson (table : DataTable) : Value :=
  record [("name", text table.name), ("columns", listOf text table.columns),
    ("keyed", .bool table.keyed), ("rows", listOf (listOf text) table.rows)]

def DataTable.ofJson (value : Value) : Access DataTable := do
  return { name := ← value.textAt "name"
           columns := ← value.listAt "columns" Value.asText
           keyed := ← value.get "keyed" Value.asBool
           rows := ← value.listAt "rows" (Value.asListOf Value.asText) }

namespace Database

def toText (database : Database) : String := (listOf DataTable.toJson database).write ""

def ofText? (content : String) : Option Database :=
  if content.isEmpty then some []
  else (read? content).bind fun value => (value.asListOf DataTable.ofJson).toOption

end Database
end ComputeMonitor.Settings
