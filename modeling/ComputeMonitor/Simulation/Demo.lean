import ComputeMonitor.DocumentSource
import ComputeMonitor.Simulation.FakeClient

/-!
A simulated client: tasks make progress, finish and are replaced, transfers complete and are
replaced, and the log grows.

A message that is later than the calendar goes crashes the simulation. What may crash gives the
simulation that goes on, or as an error the one that is left behind.
-/

set_option autoImplicit false

namespace ComputeMonitor.Simulation

open ComputeMonitor.Client
open ComputeMonitor.Number (Binary64)

structure Demo where
  random : Random
  document : Document
  nextTask : Nat
  nextTransfer : Nat
  nextSeqno : UInt64 := 1
  ticks : Nat := 0
  deriving Inhabited

namespace Demo

def runningSlots : Nat := 4

def messageLimit : Nat := 2000

def draw {α : Type} (demo : Demo) (drawn : Draw α) : α × Demo :=
  let (value, random) := drawn.run demo.random
  (value, { demo with random })

def setState (demo : Demo) (state : State) : Demo :=
  { demo with document := { demo.document with state } }

def setTasks (demo : Demo) (tasks : List Task) : Demo :=
  demo.setState { demo.document.state with tasks }

def setTransfers (demo : Demo) (transfers : List Transfer) : Demo :=
  demo.setState { demo.document.state with transfers }

/-- The simulation as it stands, whether it goes on or not. -/
def standing : Except Demo Demo → Demo
  | .ok demo => demo
  | .error demo => demo

def write (demo : Demo) (message : Message) : Demo :=
  { demo with
    nextSeqno := demo.nextSeqno + 1
    document := (demo.document.appendMessages [message] messageLimit).1 }

def log (demo : Demo) (projectName body : String) : Except Demo Demo :=
  match demo.draw (makeMessage demo.nextSeqno projectName) with
  | (none, demo) => .error demo
  | (some message, demo) => .ok (demo.write { message with body })

def start (state : State) (random : Random) : Demo :=
  let demo : Demo := {
    random, document := { state }, nextTask := state.tasks.length
    nextTransfer := state.transfers.length }
  standing (demo.log "" "Starting BOINC client (demo)")

def ofSeed (seed : UInt64) : Demo :=
  let made := (makeState 5 4 6).run (.ofSeed (normalizedSeed seed))
  start made.1 made.2

def progressTask (task : Task) : Draw Task := do
  if task.state ≠ .running || task.suspended then return task
  let step := hundredths 1 + (← between .zero (hundredths 4))
  let fractionDone := (task.fractionDone + step).min (whole 1)
  let remainingSecs := (task.remainingSecs - whole 1 - step * whole 3600).max .zero
  let task := { task with fractionDone, elapsedSecs := task.elapsedSecs + whole 1, remainingSecs }
  if (whole 1).le fractionDone then
    return { task with state := .uploading, active := false, remainingSecs := .zero }
  else return task

def startTasks : Nat → List Task → List Task
  | 0, tasks => tasks
  | _ + 1, [] => []
  | free + 1, task :: rest =>
    if task.state = .ready then { task with state := .running, active := true } :: startTasks free rest
    else task :: startTasks (free + 1) rest

def advanceTasks (demo : Demo) : Except Demo Demo := do
  let before := demo.document.state.tasks
  let (tasks, demo) := demo.draw (before.mapM progressTask)
  let finished := (before.zip tasks).filter fun (before, after) =>
    before.state = .running && after.state = .uploading
  let demo ← finished.foldlM (fun demo (_, task) =>
    demo.log task.projectName ("Computation for task " ++ task.name ++ " finished")) (demo.setTasks tasks)
  -- Free slots are taken when all messages are written, and not after a crash.
  let running := (tasks.filter (·.state = .running)).length
  return demo.setTasks (startTasks (runningSlots - running) tasks)

def nextRound (task : Task) : Task :=
  match task.state with
  | .uploading => { task with state := .readyToReport }
  | .downloading => { task with state := .ready }
  | _ => task

/-- Take in a new task, which has yet to be downloaded. -/
def takeTask (demo : Demo) (task : Task) : Demo :=
  let task := { task with
    state := .downloading, fractionDone := .zero, elapsedSecs := .zero, active := false }
  { demo.setTasks (demo.document.state.tasks ++ [task]) with nextTask := demo.nextTask + 1 }

def fetchTask (demo : Demo) (project : Project) : Demo :=
  let fetched := demo.draw (makeTask project demo.nextTask)
  fetched.2.takeTask fetched.1

/-- Report the first task that is ready for it, and fetch a new one of its project. -/
def retireAndReplace (demo : Demo) : Except Demo Demo :=
  let tasks := demo.document.state.tasks.map nextRound
  match tasks.find? (·.state = .readyToReport) with
  | none => .ok (demo.setTasks tasks)
  | some reported =>
    let demo := demo.setTasks (tasks.eraseP (·.state = .readyToReport))
    match demo.document.state.projects.find? (·.masterUrl = reported.projectUrl) with
    -- A task of no known project is taken out without another in its place.
    | none => .ok demo
    | some project =>
      (demo.fetchTask project).log reported.projectName ("Reported completed task " ++ reported.name)

def progressTransfer (transfer : Transfer) : Transfer :=
  if transfer.active then
    { transfer with
      bytesDone := (transfer.bytesDone + transfer.bytesPerSecond).min transfer.totalBytes
      elapsedSecs := transfer.elapsedSecs + whole 1 }
  else transfer

def takeTransfer (demo : Demo) (transfer : Transfer) : Demo :=
  { demo.setTransfers (demo.document.state.transfers ++ [transfer]) with
    nextTransfer := demo.nextTransfer + 1 }

def addTransfer (demo : Demo) : Demo :=
  let projects := demo.document.state.projects
  if projects.isEmpty then demo
  else
    let begun := demo.draw do
      makeTransfer (projects.getD (← below projects.length) default) demo.nextTransfer
    begun.2.takeTransfer begun.1

def advanceTransfers (demo : Demo) : Demo :=
  let before := demo.document.state.transfers
  let kept := (before.map progressTransfer).filter fun transfer =>
    transfer.bytesDone.lt transfer.totalBytes
  (before.length - kept.length).repeat addTransfer (demo.setTransfers kept)

def advance (demo : Demo) : Except Demo Demo := do
  let demo ← { demo with ticks := demo.ticks + 1 }.advanceTasks
  let demo := demo.advanceTransfers
  if demo.ticks % 5 = 0 then demo.retireAndReplace else return demo

def refresh (demo : Demo) : Except Stop Unit × Demo :=
  match demo.advance with
  | .ok demo => (.ok (), demo)
  | .error demo => (.error .crashed, demo)

instance : DocumentSource Demo where
  refresh := refresh
  document := Demo.document
  link _ := .connected
  session _ := 0

end Demo
end ComputeMonitor.Simulation
