import ComputeMonitor.Config.Loading
import ComputeMonitor.Program.Arguments
import ComputeMonitor.Program.Places
import ComputeMonitor.Settings.Store

/-!
The course of the program from its arguments up to the terminal.

The path of the configuration is resolved before the arguments are looked at. Of several things
to print the first one of help, path of the configuration, example and path of the database is
printed, and only the last one needs a configuration.
-/

set_option autoImplicit false

namespace ComputeMonitor.Program

variable {m : Type → Type} [Monad m] [Machine m]

abbrev Run (m : Type → Type) := ExceptT Stop m

/-- What a run leaves behind: its code, and what it printed. What the machine reports of a crash is
not the program's. -/
structure Outcome where
  code : Nat
  output : String
  errors : String
  deriving DecidableEq, Repr

def Outcome.ofResult : Except Stop String → Outcome
  | .ok output => ⟨0, output, ""⟩
  | .error (.failed failure) => ⟨1, "", failure.message ++ "\n"⟩
  | .error .crashed => ⟨101, "", ""⟩

def attempted {α : Type} (attempt : m (Except Failure α)) : Run m α :=
  ExceptT.mk do return (← attempt).mapError .failed

def lineOf (text : String) : String := text ++ "\n"

def during {α : Type} (undertaking : String) (run : Run m α) : Run m α :=
  ExceptT.mk do return (← run.run).mapError (·.during undertaking)

/-- The configuration at a path, or the default one where nothing is. -/
def readConfiguration (path : String) : Run m Configuration := do
  match ← (Machine.readText? path : m _) with
  | none => return {}
  | some (.error fault) => throw ((Configuration.Fault.unreadable fault.message).stop path)
  | some (.ok text) => ExceptT.mk (pure ((Configuration.load text).mapError (·.stop path)))

def nullPlace? (path : String) : Option Nat :=
  (Text.splitFirst? '\x00' path.toList).map fun (front, _) => (String.ofList front).utf8ByteSize

def openAt (path : String) : Run m Settings.Database := do
  match Settings.pathFault? path, nullPlace? path with
  | some fault, _ => throw (.ofText (fault.message path))
  | none, some place => throw (.failed ((OpenFault.nullCharacter place).failure path))
  | none, none =>
    if path = Settings.memoryPath then return []
    else attempted do return (← Machine.openDatabase path).mapError (·.failure path)

def prepareStore (path : String) (database : Settings.Database) : Run m Unit := do
  match Settings.bootstrap database with
  | .error fault => throw (.ofText fault.message)
  | .ok prepared =>
    if path = Settings.memoryPath then return ()
    else ExceptT.lift (Machine.saveDatabase path prepared)

def checkGateway (configuration : Configuration) : Run m Unit := do
  let endpoint ← ExceptT.mk (pure configuration.endpoint)
  attempted (Machine.ping endpoint)

def prepareLog (configuration : Configuration) : Run m Unit := do
  let path ← attempted (logPath configuration)
  attempted do return (← Machine.openLog path).mapError (·.failure.during ("open log file " ++ path))

def showTables : Run m Unit :=
  attempted do return (← Machine.enterTerminal).mapError (·.failure.during "enable raw mode")

def runMonitor (options : Options) (configuration : Configuration) (path : String) :
    Run m String := do
  let database ← during ("open database " ++ path ++
    " -- if this path is wrong, set [storage].db_path or " ++ databasePathVariable) (openAt path)
  prepareStore path database
  if options.checkOnly then
    if !options.demo then
      during ("gateway check failed; verify [client].base_url in " ++ options.configPath)
        (checkGateway configuration)
    return lineOf "ok"
  else
    prepareLog configuration
    if !options.demo then
      let _ ← ExceptT.mk (pure configuration.endpoint)
    showTables
    return ""

def runOptions (options : Options) : Run m String := do
  if options.showHelp then return helpText
  else if options.printConfigPath then return lineOf options.configPath
  else if options.printExample then return Configuration.exampleText options.configPath
  else
    let configuration ← during ("load config " ++ options.configPath ++
      "; run \x60boincview --print-example-config\x60 to generate a v1 template")
      (readConfiguration options.configPath)
    let path ← if options.demo then pure Settings.memoryPath else attempted (databasePath configuration)
    if options.printDatabasePath then return lineOf path
    else runMonitor options configuration path

def runArguments (arguments : List String) : Run m String := do
  let path ← attempted defaultConfigPath
  let options ← attempted (pure ((Options.ofArguments path arguments).mapError (·.failure)))
  runOptions options

def launch (arguments : List String) : m Outcome := do
  return .ofResult (← (runArguments arguments).run)

end ComputeMonitor.Program
