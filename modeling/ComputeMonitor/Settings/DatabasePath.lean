import ComputeMonitor.Text.Letter
import ComputeMonitor.Text.Quoted

/-!
Which texts are taken as the path of a database. A path names a file, or the database in memory;
addresses with a scheme and queries are refused.
-/

set_option autoImplicit false

namespace ComputeMonitor.Settings

open ComputeMonitor.Text

inductive PathFault where
  | empty
  | address (scheme : String)
  | fileAddress
  | query
  deriving DecidableEq, Repr

def memoryPath : String := ":memory:"

/-- What stands before the first mark of an address, if it is letters only. -/
def addressScheme? (path : List Char) : Option (List Char) :=
  match splitAtText? "://".toList path with
  | some (c :: scheme, _) => if (c :: scheme).all isLetter then some (c :: scheme) else none
  | _ => none

def pathFault? (path : String) : Option PathFault :=
  let chars := path.toList
  if chars.isEmpty then some .empty
  else if path = memoryPath then none
  else match addressScheme? chars with
    | some scheme => some (.address (String.ofList scheme))
    | none =>
      if (dropLeading? "file:".toList chars).isSome then some .fileAddress
      else if chars.contains '?' then some .query
      else none

def PathFault.message (path : String) : PathFault → String
  | .empty => "database path must not be empty"
  | .address scheme =>
    "database path " ++ quoted path ++ " looks like a URI (" ++ scheme ++
      "://); pass a filesystem path instead"
  | .fileAddress =>
    "database path " ++ quoted path ++ " uses file: URI syntax; pass a plain filesystem path"
  | .query =>
    "database path " ++ quoted path ++
      " contains '?'; remove query parameters and use a plain file path"

end ComputeMonitor.Settings
