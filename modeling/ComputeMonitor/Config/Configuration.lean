import ComputeMonitor.Config.Duration
import ComputeMonitor.Gateway.Endpoint
import ComputeMonitor.Gateway.RemoteDocument
import ComputeMonitor.Workspace

/-!
What the program can be told by its configuration, and the example of a configuration.
-/

set_option autoImplicit false

namespace ComputeMonitor

structure WrittenIntervals where
  floor : Option String := none
  retry : Option String := none
  projects : Option String := none
  tasks : Option String := none
  transfers : Option String := none
  events : Option String := none
  deriving DecidableEq, Repr, Inhabited

structure Configuration where
  address : Option String := none
  timeout : Option String := none
  maxFailures : Option Nat := none
  messageLimit : Option Nat := none
  refresh : WrittenIntervals := {}
  databasePath : Option String := none
  logLevel : Option String := none
  logFile : Option String := none
  deriving DecidableEq, Repr, Inhabited

namespace Configuration

open ComputeMonitor.Config (DurationFault readDuration)
open ComputeMonitor.Gateway (Endpoint EndpointFault normalizedBase defaultMaxFailures defaultMessageLimit)
open ComputeMonitor.Text (numeral)

def currentVersion : Int := 1

def defaultAddress : String := "http://127.0.0.1:31417"

def defaultTimeout : String := "2s"

def defaultLogLevel : String := "info"

def base (configuration : Configuration) : String :=
  normalizedBase (configuration.address.getD defaultAddress)

def timeoutMilliseconds (configuration : Configuration) : Except DurationFault Nat :=
  readDuration (configuration.timeout.getD defaultTimeout)

def failureLimit (configuration : Configuration) : Nat :=
  configuration.maxFailures.getD defaultMaxFailures

def messageCount (configuration : Configuration) : Nat :=
  configuration.messageLimit.getD defaultMessageLimit

def intervalOr (default : Nat) (written : Option String) : Except DurationFault Nat :=
  match written with
  | some text => readDuration text
  | none => .ok default

def intervals (configuration : Configuration) : Except DurationFault Intervals := do
  let written := configuration.refresh
  let default : Intervals := {}
  return { floor := ← intervalOr default.floor written.floor
           retry := ← intervalOr default.retry written.retry
           projects := ← intervalOr default.projects written.projects
           tasks := ← intervalOr default.tasks written.tasks
           transfers := ← intervalOr default.transfers written.transfers
           events := ← intervalOr default.events written.events }

def level (configuration : Configuration) : String := configuration.logLevel.getD defaultLogLevel

def endpoint (configuration : Configuration) : Except Stop Endpoint :=
  match configuration.timeoutMilliseconds with
  | .error fault => .error fault.stop
  | .ok timeout =>
    (Endpoint.ofAddress configuration.base timeout).mapError fun fault =>
      .failed (fault.failure.during
        ("invalid [client] config for " ++ configuration.base ++ "; fix base_url/timeout values"))

/-- The lines of the example of a configuration, behind the one that says where it belongs. -/
def exampleLines : List String :=
  ["",
    "version = 1",
    "",
    "[client]",
    "# JSON gateway in front of the compute client",
    "base_url = \"" ++ defaultAddress ++ "\"",
    "timeout = \"" ++ defaultTimeout ++ "\"",
    "# Consecutive failures before the link is reported as disconnected",
    "max_failures = " ++ numeral defaultMaxFailures,
    "message_cap = " ++ numeral defaultMessageLimit,
    "",
    "[refresh]",
    "floor = \"1s\"",
    "retry = \"5s\"",
    "projects = \"5s\"",
    "tasks = \"1s\"",
    "transfers = \"1s\"",
    "events = \"1s\"",
    "",
    "[storage]",
    "# Optional. Default is platform data dir (for example ~/.local/share/boincview/boincview.db)",
    "# db_path = \"/absolute/path/to/boincview.db\"",
    "",
    "[log]",
    "level = \"" ++ defaultLogLevel ++ "\"",
    "# file = \"/absolute/path/to/boincview.log\"",
    ""]

def exampleText (path : String) : String :=
  "\n".intercalate ("# boincview config" :: ("# Place this file at: " ++ path) :: exampleLines)

end Configuration
end ComputeMonitor
