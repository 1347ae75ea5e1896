import ComputeMonitor.Proofs.Table.ScheduleRun

/-!
Polls and their ends.

Requests may come in any order, twice or too late. Every poll that began has ended once, by a failure or by a
finished synchronization, apart from one that is still under way, and the phase tells which that is. A table
therefore shows a collection only when a poll waits for it, and nothing that comes without a poll, or after its
poll has ended, changes the table.
-/

set_option autoImplicit false

namespace ComputeMonitor.Table

namespace Schedule

open Request (beginsPoll endsPoll)

/-- What the requests granted in a run tell of the schedule that they lead to. -/
structure Accounts (granted : List Request) (schedule : Schedule) : Prop where
  cycles : schedule.cycles = granted.countP beginsPoll
  polls : granted.countP beginsPoll = granted.count .fail + granted.count .finishSync +
    if schedule.phase = .idle then 0 else 1
  syncs : granted.count .beginSync = granted.count .finishSync +
    if schedule.phase = .synchronizing then 1 else 0
  stale : schedule.stale = true ↔ (granted.filter endsPoll).getLast? = some .fail

theorem accounts_new (cadence : Cadence) : Accounts [] { cadence } := by
  constructor <;> simp

theorem Accounts.grant {granted : List Request} {schedule after : Schedule} {request : Request}
    (accounts : Accounts granted schedule) (grants : Grants schedule request after) :
    Accounts (granted ++ [request]) after := by
  obtain ⟨cycles, polls, syncs, stale⟩ := accounts
  -- The phase that grants the request settles which of the two last terms count before and after.
  cases grants with
  | begun idle due =>
    rw [idle] at polls syncs
    constructor <;> simp [cycles, polls, syncs, stale, beginsPoll, endsPoll]
  | failed polling =>
    rw [polling] at polls syncs
    constructor <;> simp [cycles, polls, syncs, beginsPoll, endsPoll]
    case polls => omega
  | synchronizing polling =>
    rw [polling] at polls syncs
    constructor <;> simp [cycles, polls, syncs, stale, beginsPoll, endsPoll]
  | finished synchronizing =>
    rw [synchronizing] at polls syncs
    constructor <;> simp [cycles, polls, syncs, beginsPoll, endsPoll]
    case polls => omega
  | forced | paced | diagnosed => constructor <;> simp [cycles, polls, syncs, stale, beginsPoll, endsPoll]

theorem accounts_run (cadence : Cadence) (requests : List Request) :
    Accounts (granted { cadence } requests) (run { cadence } requests) :=
  run_keeps Accounts Accounts.grant requests [] (accounts_new cadence)

def outstanding (granted : List Request) : Nat := granted.countP beginsPoll - granted.countP endsPoll

theorem countP_endsPoll (granted : List Request) :
    granted.countP endsPoll = granted.count .fail + granted.count .finishSync := by
  induction granted with
  | nil => rfl
  | cons request rest ih =>
    rw [List.countP_cons, ih]
    cases request <;> simp [endsPoll] <;> omega

theorem Accounts.outstanding_eq {granted : List Request} {schedule : Schedule}
    (accounts : Accounts granted schedule) :
    granted.countP endsPoll ≤ granted.countP beginsPoll ∧
      outstanding granted = if schedule.phase = .idle then 0 else 1 := by
  have ends := countP_endsPoll granted
  have polls := accounts.polls
  unfold outstanding
  omega

end Schedule

section Tables

variable {Item : Type}

def Operation.isAnswer : Operation Item → Bool
  | .fetchFailed => true
  | .fetchComplete _ => true
  | _ => false

namespace ListView

open Schedule (Accounts accounts_run granted outstanding)

variable {schema : Schema Item} {view : ListView} {answer again : Operation Item}

def grantedBy (cadence : Cadence) (operations : List (Operation Item)) : List Schedule.Request :=
  granted { cadence } (operations.flatMap Operation.requests)

theorem accounts_run_new (schema : Schema Item) (cadence : Cadence) (operations : List (Operation Item)) :
    Accounts (grantedBy cadence operations) (run schema (new schema cadence) operations).schedule := by
  have free : (new schema cadence).schedule.phase ≠ .synchronizing := nofun
  rw [schedule_run schema free]
  exact accounts_run cadence _

theorem perform_answer_of_not_polling (notPolling : view.schedule.phase ≠ .polling)
    (isAnswer : answer.isAnswer = true) : view.perform schema answer = view := by
  cases answer with
  | tick | adjust => cases isAnswer
  | fetchFailed => simp [perform, fetchFailed, Schedule.fail?, notPolling]
  | fetchComplete collection => rw [perform, view.fetchComplete_of_not_polling schema notPolling]

theorem perform_answer_not_polling (isAnswer : answer.isAnswer = true) :
    (view.perform schema answer).schedule.phase ≠ .polling := by
  by_cases polling : view.schedule.phase = .polling
  · cases answer with
    | tick | adjust => cases isAnswer
    | fetchFailed => simp [perform, fetchFailed_of_polling polling]
    | fetchComplete collection => simp [perform, schedule_fetchComplete schema view polling]
  · rwa [perform_answer_of_not_polling polling isAnswer]

/-- What is outstanding alone decides what an answer does to a table, and the first answer settles it. -/
structure AnswersOnce (schema : Schema Item) (granted : List Schedule.Request) (view : ListView) : Prop where
  single : outstanding granted ≤ 1
  applied : ∀ collection, (view.fetchComplete schema collection).2.isSome = true ↔ outstanding granted = 1
  unsolicited : outstanding granted ≠ 1 →
    ∀ answer : Operation Item, answer.isAnswer = true → view.perform schema answer = view
  repeated : ∀ answer again : Operation Item, answer.isAnswer = true → again.isAnswer = true →
    (view.perform schema answer).perform schema again = view.perform schema answer

theorem answersOnce_of_accounts {granted : List Schedule.Request} (accounts : Accounts granted view.schedule)
    (free : view.schedule.phase ≠ .synchronizing) : AnswersOnce schema granted view := by
  have isOutstanding := accounts.outstanding_eq.2
  -- Between operations a table is idle or polls, and what is outstanding tells the one from the other.
  have polling_iff : view.schedule.phase = .polling ↔ outstanding granted = 1 := by
    cases isPhase : view.schedule.phase with
    | synchronizing => exact (free isPhase).elim
    | idle | polling => simp [isOutstanding, isPhase]
  constructor
  · rw [isOutstanding]
    split <;> omega
  · intro collection
    rw [← polling_iff]
    refine ⟨polling_of_completed, fun polling => ?_⟩
    obtain ⟨_, _, -, -, reported⟩ := view.fetchComplete_of_polling schema polling collection
    rw [reported]
    rfl
  · intro notOne answer isAnswer
    exact perform_answer_of_not_polling (mt polling_iff.1 notOne) isAnswer
  · intro answer again isAnswer
    exact perform_answer_of_not_polling (perform_answer_not_polling isAnswer)

end ListView
end Tables

open Schedule in
/-- Whatever is asked of a schedule, its polls and their ends add up, and what it refuses leaves it as it was.
Whatever is done to a table, it takes in one answer for each poll and no other. -/
theorem polls_answered_once (cadence : Cadence) (requests : List Request) {Item : Type} (schema : Schema Item)
    (operations : List (Operation Item)) :
    Accounts (granted { cadence } requests) (run { cadence } requests) ∧
    (∀ request, (run { cadence } requests).grant? request = none →
      granted { cadence } (requests ++ [request]) = granted { cadence } requests ∧
      run { cadence } (requests ++ [request]) = run { cadence } requests) ∧
    ListView.AnswersOnce schema (ListView.grantedBy cadence operations)
      (ListView.run schema (.new schema cadence) operations) := by
  refine ⟨accounts_run cadence requests, fun request refused => ?_, ?_⟩
  · rw [granted_append, run_append, granted_of_refused refused, run_of_refused refused]
    exact ⟨List.append_nil _, rfl⟩
  · have free : (ListView.new schema cadence).schedule.phase ≠ .synchronizing := nofun
    exact ListView.answersOnce_of_accounts (ListView.accounts_run_new schema cadence operations)
      (ListView.run_not_synchronizing schema free operations)

-- A second tick, a late failure and a second end of the same synchronization are refused.
example : Schedule.granted { cadence := {} }
    [.beginPoll 0 .connected, .beginPoll 9000 .connected, .beginSync, .fail, .finishSync, .finishSync] =
      [.beginPoll 0 .connected, .beginSync, .finishSync] := by
  decide

end ComputeMonitor.Table
