import ComputeMonitor.Config.Configuration
import ComputeMonitor.Program.Machine

/-!
Where the program looks for its configuration and keeps its files: in the places named by
variables, and else in the user's directories for configurations and for data.
-/

set_option autoImplicit false

namespace ComputeMonitor.Program

variable {m : Type → Type} [Monad m] [Machine m]

def applicationName : String := "boincview"

def configPathVariable : String := "BOINCVIEW_CONFIG_PATH"

def databasePathVariable : String := "BOINCVIEW_DB_PATH"

def isAbsolute (path : String) : Bool := path.toList.head? == some '/'

def below (path name : String) : String :=
  if path.isEmpty || isAbsolute name then name
  else if path.toList.getLast? == some '/' then path ++ name
  else path ++ "/" ++ name

/-- A directory of the user: named by a variable with an absolute path, or below the home. -/
def userDirectory? (variableName standard : String) : m (Option String) := do
  match (← Machine.valueOf? variableName).filter isAbsolute with
  | some path => return some path
  | none =>
    return ((← Machine.valueOf? "HOME").filter (· ≠ "")).map fun home => below home standard

def configDirectory? : m (Option String) := userDirectory? "XDG_CONFIG_HOME" ".config"

def dataDirectory? : m (Option String) := userDirectory? "XDG_DATA_HOME" ".local/share"

/-- The path of a file in the program's own directory below a directory of the user. The directory
is made if it is not there. -/
def ownFile (directory : Option String) (what unresolved file : String) :
    m (Except Failure String) := do
  match directory with
  | none => return .error (.ofText unresolved)
  | some directory =>
    let own := below directory applicationName
    match ← Machine.makeDirectories own with
    | .ok () => return .ok (below own file)
    | .error fault => return .error (fault.failure.during ("create " ++ what ++ " directory " ++ own))

def defaultConfigPath : m (Except Failure String) := do
  match ← Machine.valueOf? configPathVariable with
  | some path => return .ok path
  | none =>
    ownFile (← configDirectory?) "config"
      ("cannot resolve config directory; set " ++ configPathVariable ++ " to the config file")
      "config.toml"

def defaultDatabasePath : m (Except Failure String) := do
  match ← Machine.valueOf? databasePathVariable with
  | some path => return .ok path
  | none =>
    ownFile (← dataDirectory?) "data"
      ("cannot resolve data directory; set " ++ databasePathVariable ++ " to a writable database path")
      "boincview.db"

def databasePath (configuration : Configuration) : m (Except Failure String) :=
  match configuration.databasePath with
  | some path => return .ok path
  | none => defaultDatabasePath

def logPath (configuration : Configuration) : m (Except Failure String) := do
  match configuration.logFile with
  | some path => return .ok path
  | none =>
    ownFile (← dataDirectory?) "log"
      "cannot resolve data directory; set [log].file to a writable path" "boincview.log"

end ComputeMonitor.Program
