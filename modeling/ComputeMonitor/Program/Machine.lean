import ComputeMonitor.Gateway.Endpoint
import ComputeMonitor.Settings.Database

/-!
What the program needs of the machine that it runs on: variables, files, a database, the network
and a terminal.
-/

set_option autoImplicit false

namespace ComputeMonitor.Program

inductive MachineFault where
  | notFound
  | exists
  | notDirectory
  | isDirectory
  | nameTooLong
  | nullCharacter
  | noDevice
  | notUtf8
  | other (text : String)
  deriving DecidableEq, Repr

def MachineFault.message : MachineFault → String
  | .notFound => "No such file or directory (os error 2)"
  | .exists => "File exists (os error 17)"
  | .notDirectory => "Not a directory (os error 20)"
  | .isDirectory => "Is a directory (os error 21)"
  | .nameTooLong => "File name too long (os error 36)"
  | .nullCharacter => "file name contained an unexpected NUL byte"
  | .noDevice => "No such device or address (os error 6)"
  | .notUtf8 => "stream did not contain valid UTF-8"
  | .other text => text

def MachineFault.failure (fault : MachineFault) : Failure := .ofText fault.message

inductive OpenFault where
  | nullCharacter (place : Nat)
  | cannotOpen
  | noDatabase
  | noJournal
  | notKept
  deriving DecidableEq, Repr

def OpenFault.failure (path : String) : OpenFault → Failure
  | .nullCharacter place =>
    let cause := "nul byte found in provided data at position: " ++ Text.numeral place
    ⟨["open database at " ++ path, cause, cause]⟩
  | .cannotOpen =>
    ⟨["open database at " ++ path, "unable to open database file: " ++ path,
      "Error code 14: Unable to open the database file"]⟩
  | .noDatabase =>
    ⟨["configure sqlite pragmas", "file is not a database",
      "Error code 26: File opened that is not a database file"]⟩
  | .noJournal =>
    ⟨["configure sqlite pragmas", "unable to open database file",
      "Error code 14: Unable to open the database file"]⟩
  | .notKept =>
    ⟨["configure sqlite pragmas", "disk I/O error",
      "Error code 1034: Error flushing data to persistent storage (fsync)"]⟩

/-- The machine as the program sees it. -/
class Machine (m : Type → Type) where
  valueOf? : String → m (Option String)
  /-- Make a directory with all directories above it. -/
  makeDirectories : String → m (Except MachineFault Unit)
  /-- The text of a file, if there is anything at its path. -/
  readText? : String → m (Option (Except MachineFault String))
  /-- Make ready a file to write the log to its end. -/
  openLog : String → m (Except MachineFault Unit)
  /-- The tables of a database, which is made if there is none. -/
  openDatabase : String → m (Except OpenFault Settings.Database)
  saveDatabase : String → Settings.Database → m Unit
  ping : Gateway.Endpoint → m (Except Failure Unit)
  enterTerminal : m (Except MachineFault Unit)

end ComputeMonitor.Program
