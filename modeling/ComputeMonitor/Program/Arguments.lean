import ComputeMonitor.DocumentSource
import ComputeMonitor.Text.Quoted

/-!
The arguments of the program.
-/

set_option autoImplicit false

namespace ComputeMonitor.Program

open ComputeMonitor.Text (quoted)

structure Options where
  configPath : String
  printConfigPath : Bool := false
  printDatabasePath : Bool := false
  demo : Bool := false
  printExample : Bool := false
  checkOnly : Bool := false
  showHelp : Bool := false
  deriving DecidableEq, Repr

inductive ArgumentFault where
  | missingPath
  | unknown (argument : String)
  deriving DecidableEq, Repr

def ArgumentFault.failure : ArgumentFault → Failure
  | .missingPath => .ofText "--config requires a file path"
  | .unknown argument =>
    .ofText ("unknown argument " ++ quoted argument ++ "; run with --help to see supported options")

def Options.withFlag? (options : Options) : String → Option Options
  | "--print-config-path" => some { options with printConfigPath := true }
  | "--print-path" => some { options with printDatabasePath := true }
  | "--print-example-config" => some { options with printExample := true }
  | "--demo" => some { options with demo := true }
  | "--check" => some { options with checkOnly := true }
  | "--help" => some { options with showHelp := true }
  | "-h" => some { options with showHelp := true }
  | _ => none

/-- Take arguments from left to right; of two paths the later one counts. -/
def Options.take (options : Options) : List String → Except ArgumentFault Options
  | [] => .ok options
  | ["--config"] => .error .missingPath
  | "--config" :: path :: rest => { options with configPath := path }.take rest
  | argument :: rest =>
    match options.withFlag? argument with
    | some options => options.take rest
    | none => .error (.unknown argument)

def Options.ofArguments (defaultPath : String) (arguments : List String) :
    Except ArgumentFault Options := Options.take { configPath := defaultPath } arguments

def helpText : String :=
  "\n".intercalate [
    "boincview: terminal monitor for a volunteer-computing client",
    "  --config <path>          Use a specific config path",
    "  --print-config-path      Print resolved config path",
    "  --print-path             Print resolved database path",
    "  --print-example-config   Print a v1 config template",
    "  --demo                   Run against a simulated client (in-memory prefs)",
    "  --check                  Validate config + DB + gateway reachability",
    "  --help                   Show this help",
    ""]

end ComputeMonitor.Program
