import ComputeMonitor.Proofs.Table.Operation

/-!
Runs of a schedule.

A schedule may be asked for anything at any time, and grants what its phase and its due time allow. What a
granted request changes is said here once, and a run is told by the requests that were granted in it. All
that a table does to its schedule is such a run.
-/

set_option autoImplicit false

namespace ComputeMonitor.Table

namespace Schedule

inductive Request where
  | beginPoll (now : Nat) (link : Link)
  | fail
  | beginSync
  | finishSync
  | forceDue
  | setCadence (cadence : Cadence)
  | setDiagnosticsOpen (diagnosticsOpen : Bool)
  deriving DecidableEq, Repr

namespace Request

def beginsPoll : Request → Bool
  | .beginPoll _ _ => true
  | _ => false

def endsPoll : Request → Bool
  | .fail => true
  | .finishSync => true
  | _ => false

end Request

def grant? (schedule : Schedule) : Request → Option Schedule
  | .beginPoll now link => schedule.beginPoll? now link
  | .fail => schedule.fail?
  | .beginSync => schedule.beginSync?
  | .finishSync => schedule.finishSync?
  | .forceDue => some schedule.forceDue
  | .setCadence cadence => some (schedule.setCadence cadence)
  | .setDiagnosticsOpen diagnosticsOpen => some (schedule.setDiagnosticsOpen diagnosticsOpen)

def serve (schedule : Schedule) (request : Request) : Schedule := (schedule.grant? request).getD schedule

def run (schedule : Schedule) (requests : List Request) : Schedule := requests.foldl serve schedule

def granted (schedule : Schedule) : List Request → List Request
  | [] => []
  | request :: rest =>
    match schedule.grant? request with
    | some after => request :: granted after rest
    | none => granted schedule rest

variable {schedule after : Schedule}

inductive Grants (schedule : Schedule) : Request → Schedule → Prop where
  | begun {now : Nat} {link : Link} (idle : schedule.phase = .idle) (due : schedule.isDue now = true) :
      Grants schedule (.beginPoll now link) { schedule with
        phase := .polling
        nextDue := laterTime? now (schedule.cadence.interval link schedule.diagnosticsOpen)
        cycles := schedule.cycles + 1 }
  | failed (polling : schedule.phase = .polling) :
      Grants schedule .fail { schedule with phase := .idle, stale := true }
  | synchronizing (polling : schedule.phase = .polling) :
      Grants schedule .beginSync { schedule with phase := .synchronizing }
  | finished (synchronizing : schedule.phase = .synchronizing) :
      Grants schedule .finishSync { schedule with phase := .idle, stale := false }
  | forced : Grants schedule .forceDue { schedule with nextDue := none }
  | paced (cadence : Cadence) : Grants schedule (.setCadence cadence) { schedule with cadence }
  | diagnosed (diagnosticsOpen : Bool) :
      Grants schedule (.setDiagnosticsOpen diagnosticsOpen) { schedule with diagnosticsOpen }

theorem grants_of_grant? {request : Request} (isGranted : schedule.grant? request = some after) :
    Grants schedule request after := by
  cases request with
  | beginPoll now link =>
    obtain ⟨idle, due, rfl⟩ := beginPoll?_eq_some_iff.1 isGranted
    exact .begun idle due
  | fail =>
    rw [grant?, fail?, Option.ite_none_right_eq_some] at isGranted
    obtain ⟨polling, same⟩ := isGranted
    exact Option.some.inj same ▸ .failed polling
  | beginSync =>
    rw [grant?, beginSync?, Option.ite_none_right_eq_some] at isGranted
    obtain ⟨polling, same⟩ := isGranted
    exact Option.some.inj same ▸ .synchronizing polling
  | finishSync =>
    rw [grant?, finishSync?, Option.ite_none_right_eq_some] at isGranted
    obtain ⟨synchronizing, same⟩ := isGranted
    exact Option.some.inj same ▸ .finished synchronizing
  | forceDue => exact Option.some.inj isGranted ▸ .forced
  | setCadence cadence => exact Option.some.inj isGranted ▸ .paced cadence
  | setDiagnosticsOpen diagnosticsOpen => exact Option.some.inj isGranted ▸ .diagnosed diagnosticsOpen

theorem run_append (schedule : Schedule) (requests more : List Request) :
    run schedule (requests ++ more) = run (run schedule requests) more := List.foldl_append

theorem granted_append (schedule : Schedule) (requests more : List Request) :
    granted schedule (requests ++ more) = granted schedule requests ++ granted (run schedule requests) more := by
  induction requests generalizing schedule with
  | nil => rfl
  | cons request rest ih =>
    rw [List.cons_append, granted, granted, run, List.foldl_cons, serve]
    cases schedule.grant? request with
    | none => exact ih schedule
    | some after => exact congrArg (request :: ·) (ih after)

theorem run_of_refused {request : Request} (refused : schedule.grant? request = none) :
    run schedule [request] = schedule := by
  rw [run, List.foldl_cons, serve, refused]
  rfl

theorem granted_of_refused {request : Request} (refused : schedule.grant? request = none) :
    granted schedule [request] = [] := by
  rw [granted, refused]
  rfl

/-- A property of the schedule and the requests granted so far that every granted request keeps holds along
every run. -/
theorem run_keeps (Holds : List Request → Schedule → Prop)
    (step : ∀ {earlier schedule request after}, Holds earlier schedule → Grants schedule request after →
      Holds (earlier ++ [request]) after)
    (requests earlier : List Request) (holds : Holds earlier schedule) :
    Holds (earlier ++ granted schedule requests) (run schedule requests) := by
  -- By induction on the requests that are still to come; a refused one changes neither side.
  induction requests generalizing schedule earlier with
  | nil => rwa [granted, List.append_nil]
  | cons request rest ih =>
    rw [run, List.foldl_cons, serve, granted]
    cases isGranted : schedule.grant? request with
    | none => exact ih earlier holds
    | some after =>
      have next := ih _ (step holds (grants_of_grant? isGranted))
      rwa [List.append_assoc, List.singleton_append] at next

end Schedule

section Tables

variable {Item : Type}

def Operation.requests : Operation Item → List Schedule.Request
  | .tick now link => [.beginPoll now link]
  | .fetchFailed => [.fail]
  | .fetchComplete _ => [.beginSync, .finishSync]
  | .adjust .forceRefresh => [.forceDue]
  | .adjust (.setCadence cadence) => [.setCadence cadence]
  | .adjust (.setDiagnosticsOpen diagnosticsOpen) => [.setDiagnosticsOpen diagnosticsOpen]
  | .adjust _ => []

namespace ListView

variable (schema : Schema Item) {view : ListView}

/-- No operation leaves a table in the middle of showing a collection. -/
theorem perform_not_synchronizing (free : view.schedule.phase ≠ .synchronizing) (operation : Operation Item) :
    (view.perform schema operation).schedule.phase ≠ .synchronizing := by
  cases operation with
  | tick now link =>
    rw [perform]
    cases begun : view.tick? now link with
    | none => exact free
    | some after =>
      obtain ⟨schedule, rfl, -, polling⟩ := view.tick?_eq_some begun
      simp [polling]
  | fetchFailed =>
    by_cases polling : view.schedule.phase = .polling
    · simp [perform, fetchFailed_of_polling polling]
    · simpa [perform, fetchFailed, Schedule.fail?, polling] using free
  | fetchComplete collection =>
    by_cases polling : view.schedule.phase = .polling
    · simp [perform, schedule_fetchComplete schema view polling]
    · rwa [perform, view.fetchComplete_of_not_polling schema polling]
  | adjust adjustment => rwa [perform, phase_adjust]

theorem run_not_synchronizing (free : view.schedule.phase ≠ .synchronizing)
    (operations : List (Operation Item)) :
    (view.run schema operations).schedule.phase ≠ .synchronizing := by
  induction operations generalizing view with
  | nil => exact free
  | cons operation rest ih => exact ih (perform_not_synchronizing schema free operation)

theorem schedule_perform (free : view.schedule.phase ≠ .synchronizing) (operation : Operation Item) :
    (view.perform schema operation).schedule = view.schedule.run operation.requests := by
  cases operation with
  | tick now link =>
    change ((view.tick? now link).getD view).schedule = (view.schedule.beginPoll? now link).getD view.schedule
    unfold tick?
    cases view.schedule.beginPoll? now link <;> rfl
  | fetchFailed =>
    change view.fetchFailed.schedule = view.schedule.fail?.getD view.schedule
    unfold fetchFailed
    cases view.schedule.fail? <;> rfl
  | fetchComplete collection =>
    by_cases polling : view.schedule.phase = .polling
    · -- The two requests of an answer are both granted, and what lies between them is not seen outside.
      rw [perform, schedule_fetchComplete schema view polling]
      simp [Operation.requests, Schedule.run, Schedule.serve, Schedule.grant?, Schedule.beginSync?,
        Schedule.finishSync?, polling]
    · rw [perform, view.fetchComplete_of_not_polling schema polling]
      simp [Operation.requests, Schedule.run, Schedule.serve, Schedule.grant?, Schedule.beginSync?,
        Schedule.finishSync?, polling, free]
  | adjust adjustment =>
    rw [perform, schedule_adjust]
    cases adjustment <;> rfl

/-- A table takes its schedule through the requests of its operations. -/
theorem schedule_run (free : view.schedule.phase ≠ .synchronizing) (operations : List (Operation Item)) :
    (view.run schema operations).schedule = view.schedule.run (operations.flatMap Operation.requests) := by
  induction operations generalizing view with
  | nil => rfl
  | cons operation rest ih =>
    calc (view.run schema (operation :: rest)).schedule
      _ = (view.perform schema operation).schedule.run (rest.flatMap Operation.requests) :=
          ih (perform_not_synchronizing schema free operation)
      _ = view.schedule.run ((operation :: rest).flatMap Operation.requests) := by
          rw [schedule_perform schema free, List.flatMap_cons, Schedule.run_append]

end ListView
end Tables
end ComputeMonitor.Table
