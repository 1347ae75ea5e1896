import ComputeMonitor.Program.Launch
import ComputeMonitor.Settings.DatabaseText

/-!
The program on a real machine: its variables, its files, and what it prints. It has no access to
a network and to a terminal, so that nobody answers it and it ends where the tables would be shown.
-/

set_option autoImplicit false

namespace ComputeMonitor.Program

def faultOfError (error : IO.Error) : MachineFault :=
  match error with
  | .noFileOrDirectory .. => .notFound
  | .alreadyExists .. => .exists
  | .inappropriateType _ 20 _ => .notDirectory
  | .inappropriateType _ 21 _ => .isDirectory
  | error => .other (toString error)

def guarded {α : Type} (action : IO α) : IO (Except MachineFault α) := do
  match ← action.toBaseIO with
  | .ok value => return .ok value
  | .error error => return .error (faultOfError error)

def fileText? (path : String) : IO (Option (Except MachineFault String)) := do
  match ← guarded (IO.FS.readBinFile path) with
  | .ok bytes =>
    match String.fromUTF8? bytes with
    | some content => return some (.ok content)
    | none => return some (.error .notUtf8)
  | .error .notFound => return none
  | .error .notDirectory => return none
  | .error fault => return some (.error fault)

/-- Make an empty file, or leave the one that is there as it is. -/
def touch (path : String) : IO (Except MachineFault Unit) :=
  guarded do let _ ← IO.FS.Handle.mk path .append

def openFile (path : String) : IO (Except OpenFault Settings.Database) := do
  match ← touch path with
  | .error _ => return .error .cannotOpen
  | .ok () =>
    match ← fileText? path with
    | some (.ok content) =>
      match Settings.Database.ofText? content with
      | some database => return .ok database
      | none => return .error .noDatabase
    | some (.error .notUtf8) => return .error .noDatabase
    | _ => return .error .cannotOpen

instance : Machine IO where
  valueOf? name := IO.getEnv name
  makeDirectories path := guarded (IO.FS.createDirAll path)
  readText? path := fileText? path
  openLog path := touch path
  openDatabase path := openFile path
  saveDatabase path database := IO.FS.writeFile path database.toText
  ping endpoint := return .error (endpoint.unreachable Gateway.Endpoint.statePath)
  enterTerminal := return .error .noDevice

end ComputeMonitor.Program

def main (arguments : List String) : IO UInt32 := do
  let outcome ← ComputeMonitor.Program.launch (m := IO) arguments
  IO.print outcome.output
  IO.eprint outcome.errors
  return UInt32.ofNat outcome.code
