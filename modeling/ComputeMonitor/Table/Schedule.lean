import ComputeMonitor.Link

/-!
The schedule of a table's refreshes.

A refresh goes from idle through polling and synchronizing back to idle; a failed poll leads back
to idle at once and marks the table stale. A poll begins only when the schedule is idle and the
due time has come, and fixes the next due time.

Times are milliseconds after a fixed start, intervals are milliseconds.
-/

set_option autoImplicit false

namespace ComputeMonitor.Table

inductive Phase where
  | idle
  | polling
  | synchronizing
  deriving DecidableEq, Repr, Inhabited

def Phase.name : Phase → String
  | .idle => "idle"
  | .polling => "polling"
  | .synchronizing => "synchronizing"

/-- How often a table is refreshed: while the link is up, at most, and while it is down. -/
structure Cadence where
  base : Nat := 1000
  floor : Nat := 1000
  retry : Nat := 5000
  deriving DecidableEq, Repr, Inhabited

def Cadence.interval (cadence : Cadence) (link : Link) (diagnosticsOpen : Bool) : Nat :=
  match link with
  | .connected => if diagnosticsOpen then cadence.floor else max cadence.base cadence.floor
  | .reconnecting => cadence.floor
  | .disconnected => cadence.retry

/-- The first time that a clock of 64-bit signed seconds cannot show. -/
def clockLimit : Nat := 9223372036854775808 * 1000

def laterTime? (now interval : Nat) : Option Nat :=
  if now + interval < clockLimit then some (now + interval) else none

/-- Without a due time the next poll is due at once. -/
structure Schedule where
  phase : Phase := .idle
  cadence : Cadence
  nextDue : Option Nat := none
  stale : Bool := false
  diagnosticsOpen : Bool := false
  cycles : Nat := 0
  deriving DecidableEq, Repr, Inhabited

namespace Schedule

def setCadence (schedule : Schedule) (cadence : Cadence) : Schedule := { schedule with cadence }

def setDiagnosticsOpen (schedule : Schedule) (diagnosticsOpen : Bool) : Schedule :=
  { schedule with diagnosticsOpen }

def forceDue (schedule : Schedule) : Schedule := { schedule with nextDue := none }

def isDue (schedule : Schedule) (now : Nat) : Bool :=
  match schedule.nextDue with
  | some due => due ≤ now
  | none => true

def beginPoll? (schedule : Schedule) (now : Nat) (link : Link) : Option Schedule :=
  if schedule.phase = .idle && schedule.isDue now then
    some { schedule with
      phase := .polling
      nextDue := laterTime? now (schedule.cadence.interval link schedule.diagnosticsOpen)
      cycles := schedule.cycles + 1 }
  else none

/-- End a poll without an answer. -/
def fail? (schedule : Schedule) : Option Schedule :=
  if schedule.phase = .polling then some { schedule with phase := .idle, stale := true } else none

def beginSync? (schedule : Schedule) : Option Schedule :=
  if schedule.phase = .polling then some { schedule with phase := .synchronizing } else none

def finishSync? (schedule : Schedule) : Option Schedule :=
  if schedule.phase = .synchronizing then some { schedule with phase := .idle, stale := false }
  else none

end Schedule
end ComputeMonitor.Table
