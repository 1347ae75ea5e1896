import ComputeMonitor.Client.Document
import ComputeMonitor.Simulation.Random

/-!
Plausible work of a client, made up from random numbers.

Names and addresses are built so that no two projects share an address, however many there are,
and no two tasks or files of a project share a name.
-/

set_option autoImplicit false

namespace ComputeMonitor.Simulation

open ComputeMonitor.Calendar (Moment Timestamp)
open ComputeMonitor.Client
open ComputeMonitor.Number (Binary64)
open ComputeMonitor.Text

def projectNames : List String :=
  ["Einstein@Home", "Rosetta@home", "World Community Grid", "LHC@home", "Asteroids@home",
   "MilkyWay@home", "PrimeGrid", "GPUGRID", "Universe@Home", "NumberFields@home"]

def appNames : List String :=
  ["Gamma-ray pulsar search", "Rosetta", "Mapping Cancer Markers", "SixTrack", "Period Search",
   "Separation", "Genefer", "Binary Search"]

def userNames : List String :=
  ["avery", "jordan", "taylor", "riley", "morgan", "casey", "quinn", "rowan"]

def teamNames : List String :=
  ["", "SETI.Germany", "Gridcoin", "Team China", "BOINC@Poland", "Crunching Family"]

def messageBodies : List String :=
  ["Sending scheduler request: To fetch work.", "Scheduler request completed: got 1 new tasks",
   "Started download of input file", "Finished download of input file", "Computation finished",
   "Project requested delay of 60 seconds"]

def transferRates : List Nat := [16384, 65536, 262144, 1048576]

def resourceShares : List Nat := [25, 50, 100, 200]

/-- The states of made-up tasks; running comes twice, to be drawn more often. -/
def taskStates : List TaskState :=
  [.downloading, .ready, .running, .running, .uploading, .readyToReport]

/-- The time that made-up times are counted from: the first of January 2026. -/
def referenceTime : Timestamp := ⟨Moment.ofSecondNumber (20454 * 86400) 0, 0⟩

def hundredths (n : Nat) : Binary64 := .ofRatio false n 100

def whole (n : Nat) : Binary64 := .ofNat n

/-- The name of the project of an index; past the end of the list of names, with a number. -/
def projectName (index : Nat) : String :=
  let base := projectNames.getD (index % projectNames.length) ""
  let round := index / projectNames.length
  if round = 0 then base else base ++ " " ++ numeral (round + 1)

def slug (name : String) : String :=
  String.ofList ((name.toList.filter fun c => isAsciiLetterOrDigit c).map Char.toLower)
where
  isAsciiLetterOrDigit (c : Char) : Bool := c.isAlphanum

def makeProject (index : Nat) : Draw Project := do
  let name := projectName index
  let totalCredit := (← between .zero (whole 5000000)).round
  let userName ← pick userNames
  let teamName ← pick teamNames
  let avgCredit ← between .zero (whole 20000)
  let resourceShare ← pick resourceShares
  let suspended := (← below 10) = 0
  let dontRequestMoreWork := (← below 8) = 0
  return {
    masterUrl := "https://" ++ slug name ++ ".example.org/"
    name, userName, teamName, totalCredit, avgCredit
    resourceShare := whole resourceShare
    suspended, dontRequestMoreWork }

def makeFractionDone : TaskState → Draw Binary64
  | .downloading | .ready => return .zero
  | .running => between .zero (hundredths 99)
  | _ => return whole 1

def workName (appName : String) : String :=
  String.ofList (appName.toList.map fun c => if c = ' ' then '_' else c.toLower)

def makeTask (project : Project) (index : Nat) : Draw Task := do
  let appName ← pick appNames
  let state ← pick taskStates
  let fractionDone ← makeFractionDone state
  let elapsedSecs := (fractionDone * (← between (whole 3600) (whole 36000))).round
  let remainingSecs ←
    if Binary64.zero.lt fractionDone then
      pure (elapsedSecs * (whole 1 - fractionDone) / fractionDone).round
    else do pure (← between (whole 3600) (whole 36000)).round
  let number := (← nextUInt64).toNat % 1000000
  let days := (← below 14) + 1
  return {
    projectUrl := project.masterUrl
    projectName := project.name
    name := workName appName ++ "_" ++ String.ofList (paddedDigits 6 number) ++ "_" ++ numeral index
    appName, fractionDone, elapsedSecs, remainingSecs
    deadline := referenceTime.addSeconds (days * 86400)
    state
    active := state = .running }

def eightHexDigits (n : Nat) : String :=
  let digits := hexDigitsOf n
  String.ofList (List.replicate (8 - digits.length) '0' ++ digits)

def makeTransfer (project : Project) (index : Nat) : Draw Transfer := do
  let totalBytes := (← between (whole 100000) (whole 50000000)).round
  let direction := if (← below 3) = 0 then TransferDirection.upload else .download
  let number := (← nextUInt64).toNat % 4294967296
  let bytesDone := (totalBytes * (← between .zero (.ofRatio false 9 10))).round
  let elapsedSecs := (← between .zero (whole 600)).round
  let rate ← pick transferRates
  let idle := (← below 4) = 0
  return {
    projectUrl := project.masterUrl
    projectName := project.name
    fileName := "file_" ++ String.ofList (paddedDigits 4 index) ++ "_" ++ eightHexDigits number ++ ".dat"
    bytesDone, totalBytes, elapsedSecs
    bytesPerSecond := whole rate
    direction
    active := !idle }

/-- The time of the message with a number, unless it is beyond the calendar. The number is taken for a
signed one. -/
def stamp? (seqno : UInt64) : Option Timestamp :=
  Timestamp.ofUnixSeconds? (referenceTime.unixSeconds + seqno.toInt64.toInt * 7)

/-- Without a time there is no message, and nothing is drawn for its body. -/
def makeMessage (seqno : UInt64) (projectName : String) : Draw (Option Message) := do
  let priority := if (← below 12) = 0 then Priority.userAlert else .info
  match stamp? seqno with
  | none => return none
  | some timestamp =>
    let body ← pick messageBodies
    return some { seqno, projectName, timestamp, priority, body }

/-- As many projects as asked for, the same number of tasks for each, and transfers that go round
the projects. -/
def makeState (projectCount tasksPerProject transferCount : Nat) : Draw State := do
  let projects ← (List.range projectCount).mapM makeProject
  let tasks ← projects.zipIdx.mapM fun (project, position) =>
    (List.range tasksPerProject).mapM fun index =>
      makeTask project (position * tasksPerProject + index)
  let transfers ←
    if projects.isEmpty then pure []
    else (List.range transferCount).mapM fun index =>
      makeTransfer (projects.getD (index % projects.length) default) index
  return { projects, tasks := tasks.flatten, transfers }

def normalizedSeed (seed : UInt64) : UInt64 := if seed = 0 then 1 else seed

end ComputeMonitor.Simulation
