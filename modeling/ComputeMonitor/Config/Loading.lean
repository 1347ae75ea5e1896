import ComputeMonitor.Config.Configuration
import ComputeMonitor.Config.LogFilter
import ComputeMonitor.Settings.DatabasePath
import ComputeMonitor.Toml.Reader

/-!
Loading a configuration: its text is read, its version is checked, its sections are decoded, and
at last everything in it is checked for sense. The first fault is the one that is told.
-/

set_option autoImplicit false

namespace ComputeMonitor.Configuration

open ComputeMonitor.Config
open ComputeMonitor.Settings (PathFault pathFault?)
open ComputeMonitor.Text (quoted signedNumeral)
open ComputeMonitor.Toml (Entries Value)

inductive Fault where
  | unreadable (cause : String)
  | noToml
  | unversioned
  | version (number : Int)
  | undecodable
  | databasePath (path : String) (fault : PathFault)
  | emptyAddress
  | timeout (fault : DurationFault)
  | zeroTimeout
  | zeroFailures
  | zeroMessages
  | interval (fault : DurationFault)
  | zeroInterval (name : String)
  | logLevel (level : String) (fault : FilterFault)
  deriving DecidableEq, Repr

def Fault.stop (path : String) : Fault → Stop
  | .unreadable cause => .failed ⟨["read config file " ++ path, cause]⟩
  | .noToml => .ofText ("parse TOML config " ++ path)
  | .unversioned =>
    .ofText ("config file " ++ path ++
      " is not versioned. Add \x60version = 1\x60 and put values under " ++
      "[client], [refresh], [storage], and [log]")
  | .version number =>
    .ofText ("unsupported config version " ++ signedNumeral number ++ " in " ++ path ++
      "; expected version = 1")
  | .undecodable => .ofText ("decode config " ++ path)
  | .databasePath text fault => .ofText (fault.message text)
  | .emptyAddress => .ofText ("client.base_url in " ++ path ++ " must not be empty")
  | .timeout fault => fault.stop.during ("client.timeout in " ++ path)
  | .zeroTimeout => .ofText ("client.timeout in " ++ path ++ " must be positive")
  | .zeroFailures => .ofText ("client.max_failures in " ++ path ++ " must be at least 1")
  | .zeroMessages => .ofText ("client.message_cap in " ++ path ++ " must be at least 1")
  | .interval fault => fault.stop.during ("invalid [refresh] section in " ++ path)
  | .zeroInterval name => .ofText ("refresh." ++ name ++ " in " ++ path ++ " must be positive")
  | .logLevel level fault =>
    fault.stop.during ("log.level " ++ quoted level ++ " in " ++ path ++
      " is not a valid filter; use error, warn, info, debug, or trace")

/-! ## Sections -/

/-- The values of the named fields of a section. A section may also be an array of all its values
in their order. A missing section has no values. -/
def sectionFields? (entries : Entries) (name : String) (fields : List String) :
    Option (List (Option Value)) :=
  match entries.lookup name with
  | none => some (fields.map fun _ => none)
  | some (.table _ inner) => some (fields.map fun field => inner.lookup field)
  | some (.array elements) =>
    if elements.length = fields.length then some (elements.map some) else none
  | some _ => none

/-- A text that may be missing. A point in time can stand for its text. -/
def text? : Option Value → Option (Option String)
  | none => some none
  | some (.string text) => some (some text)
  | some (.dateTime moment) => some (some moment.text)
  | some _ => none

def count? (limit : Nat) : Option Value → Option (Option Nat)
  | none => some none
  | some (.integer number) =>
    if 0 ≤ number ∧ number ≤ limit then some (some number.toNat) else none
  | some _ => none

def maxFailureCount : Nat := 4294967295

def maxMessageCount : Nat := 18446744073709551615

/-- Decode the sections of a document. What is unknown is left aside. -/
def decode? (entries : Entries) : Option Configuration := do
  match ← sectionFields? entries "client" ["base_url", "timeout", "max_failures", "message_cap"],
    ← sectionFields? entries "refresh" ["floor", "retry", "projects", "tasks", "transfers", "events"],
    ← sectionFields? entries "storage" ["db_path"],
    ← sectionFields? entries "log" ["level", "file"] with
  | [address, timeout, maxFailures, messageLimit], [floor, retry, projects, tasks, transfers, events],
    [databasePath], [logLevel, logFile] =>
    return {
      address := ← text? address
      timeout := ← text? timeout
      maxFailures := ← count? maxFailureCount maxFailures
      messageLimit := ← count? maxMessageCount messageLimit
      refresh := {
        floor := ← text? floor
        retry := ← text? retry
        projects := ← text? projects
        tasks := ← text? tasks
        transfers := ← text? transfers
        events := ← text? events }
      databasePath := ← text? databasePath
      logLevel := ← text? logLevel
      logFile := ← text? logFile }
  | _, _, _, _ => none

/-! ## Checks -/

def require (condition : Bool) (fault : Fault) : Except Fault Unit :=
  if condition then .ok () else .error fault

/-- The intervals with their names, in the order in which they are checked. -/
def namedIntervals (intervals : Intervals) : List (String × Nat) :=
  [("floor", intervals.floor), ("retry", intervals.retry), ("projects", intervals.projects),
   ("tasks", intervals.tasks), ("transfers", intervals.transfers), ("events", intervals.events)]

def checkDatabasePath (configuration : Configuration) : Except Fault Unit :=
  match configuration.databasePath with
  | none => .ok ()
  | some path =>
    match pathFault? path with
    | some fault => .error (.databasePath path fault)
    | none => .ok ()

def validate (configuration : Configuration) : Except Fault Unit := do
  configuration.checkDatabasePath
  require (configuration.base ≠ "") .emptyAddress
  let timeout ← configuration.timeoutMilliseconds.mapError Fault.timeout
  require (timeout ≠ 0) .zeroTimeout
  require (configuration.maxFailures ≠ some 0) .zeroFailures
  require (configuration.messageLimit ≠ some 0) .zeroMessages
  let intervals ← configuration.intervals.mapError Fault.interval
  (namedIntervals intervals).forM fun (name, interval) =>
    require (interval ≠ 0) (.zeroInterval name)
  (checkLogFilter configuration.level).mapError (.logLevel configuration.level)

def version? (entries : Entries) : Option Int :=
  match entries.lookup "version" with
  | some (.integer number) => some number
  | _ => none

def load (text : String) : Except Fault Configuration :=
  match Toml.read? text with
  | none => .error .noToml
  | some entries =>
    match version? entries with
    | none => .error .unversioned
    | some version =>
      if version ≠ currentVersion then .error (.version version)
      else match decode? entries with
        | none => .error .undecodable
        | some configuration => do
          configuration.validate
          return configuration

end ComputeMonitor.Configuration
