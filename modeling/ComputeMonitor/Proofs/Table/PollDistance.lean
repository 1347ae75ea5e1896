import ComputeMonitor.Proofs.Table.ScheduleRun

/-!
The time between two polls.

A poll fixes the due time of the next one, and until then only a forced refresh takes it back. Where the due
time lies beyond what the clock can show there is none to fix, and no due time means at once: a table that
should wait the longest polls again with the next tick.
-/

set_option autoImplicit false

namespace ComputeMonitor.Table.Schedule

theorem granted_sublist (schedule : Schedule) (requests : List Request) :
    (granted schedule requests).Sublist requests := by
  induction requests generalizing schedule with
  | nil => exact .slnil
  | cons request rest ih =>
    rw [granted]
    cases schedule.grant? request with
    | none => exact (ih schedule).cons request
    | some after => exact (ih after).cons_cons request

/-- Of a schedule with a due time: it is kept unless a poll or a force is among the requests granted since. What
was granted is known at the end of a run only, so that it stands as a premise here. -/
def KeepsDue (due : Option Nat) (served : List Request) (reached : Schedule) : Prop :=
  (∀ request ∈ served, request.beginsPoll = false ∧ request ≠ .forceDue) → reached.nextDue = due

theorem KeepsDue.grant {due : Option Nat} {served : List Request} {before after : Schedule} {request : Request}
    (keeps : KeepsDue due served before) (grants : Grants before request after) :
    KeepsDue due (served ++ [request]) after := by
  intro still
  have untouched : before.nextDue = due :=
    keeps fun request member => still request (List.mem_append_left _ member)
  obtain ⟨begins, forces⟩ := still request (by simp)
  cases grants with
  | begun => cases begins
  | forced => exact (forces rfl).elim
  | failed | synchronizing | finished | paced | diagnosed => exact untouched

/-- Between two polls nothing but force moves the due time. -/
theorem nextDue_run {schedule : Schedule} {requests : List Request}
    (noPoll : ∀ request ∈ granted schedule requests, request.beginsPoll = false)
    (unforced : .forceDue ∉ requests) : (run schedule requests).nextDue = schedule.nextDue := by
  apply run_keeps (KeepsDue schedule.nextDue) KeepsDue.grant requests [] fun _ => rfl
  intro request member
  refine ⟨noPoll request member, ?_⟩
  rintro rfl
  exact unforced ((granted_sublist schedule requests).subset member)

theorem isDue_of_laterTime {schedule : Schedule} {first interval : Nat}
    (fixed : schedule.nextDue = laterTime? first interval) (now : Nat) :
    schedule.isDue now = true ↔ (first + interval < clockLimit → first + interval ≤ now) := by
  rw [isDue_iff, fixed, laterTime?]
  by_cases fits : first + interval < clockLimit
  · simp [fits]
  · simp [fits]

/-- After a poll, and with no force since, an idle schedule begins the next one just when the interval of that
poll has passed, or at any time if it ends beyond the clock. -/
theorem run_new_next_poll_iff (cadence : Cadence) (earlier between : List Request) (first second : Nat)
    (link link' : Link) (begun : Schedule)
    (begins : (run { cadence } earlier).grant? (.beginPoll first link) = some begun)
    (noPoll : ∀ request ∈ granted begun between, request.beginsPoll = false)
    (unforced : .forceDue ∉ between) :
    let before := run { cadence } earlier
    let due := first + before.cadence.interval link before.diagnosticsOpen
    ((run begun between).grant? (.beginPoll second link')).isSome = true ↔
      (run begun between).phase = .idle ∧ (due < clockLimit → due ≤ second) := by
  intro before due
  obtain ⟨-, -, isBegun⟩ := beginPoll?_eq_some_iff.1 begins
  have fixed : (run begun between).nextDue =
      laterTime? first (before.cadence.interval link before.diagnosticsOpen) := by
    rw [nextDue_run noPoll unforced, isBegun]
  rw [← isDue_of_laterTime fixed second, Option.isSome_iff_exists]
  constructor
  · rintro ⟨next, isNext⟩
    obtain ⟨idle, isReady, -⟩ := beginPoll?_eq_some_iff.1 isNext
    exact ⟨idle, isReady⟩
  · rintro ⟨idle, isReady⟩
    exact ⟨_, beginPoll?_eq_some_iff.2 ⟨idle, isReady, rfl⟩⟩

section Pacing

/-- What may happen between two polls: a faster pace, a tick that comes too early, and the end of the poll. -/
def pacedAnew : List Request := [.setCadence ⟨1, 1, 1⟩, .setDiagnosticsOpen true, .beginPoll 500 .connected, .fail]

theorem pacedAnew_next_poll_iff :
    ∃ begun, (run { cadence := {} } []).grant? (.beginPoll 0 .connected) = some begun ∧
      (∀ request ∈ granted begun pacedAnew, request.beginsPoll = false) ∧ .forceDue ∉ pacedAnew ∧
      ((run begun pacedAnew).grant? (.beginPoll 1000 .disconnected)).isSome = true ∧
      ¬ ((run begun pacedAnew).grant? (.beginPoll 999 .disconnected)).isSome = true := by
  have noPoll : ∀ request ∈ granted (run { cadence := {} } [.beginPoll 0 .connected]) pacedAnew,
      request.beginsPoll = false := by decide
  have unforced : .forceDue ∉ pacedAnew := by decide
  have next (second : Nat) := run_new_next_poll_iff {} [] pacedAnew 0 second .connected .disconnected _ rfl
    noPoll unforced
  refine ⟨_, rfl, noPoll, unforced, (next 1000).2 (by decide), fun early => ?_⟩
  exact absurd ((next 999).1 early) (by decide)

/-- Whatever is asked of a schedule, two consecutive polls with no force between them are apart by the interval
in force at the first of them. -/
def KeepsDistance (cadence : Cadence) : Prop :=
  ∀ (earlier between : List Request) (first second : Nat) (link link' : Link) (begun next : Schedule),
    (run { cadence } earlier).grant? (.beginPoll first link) = some begun →
    (∀ request ∈ granted begun between, request.beginsPoll = false) → .forceDue ∉ between →
    (run begun between).grant? (.beginPoll second link') = some next →
    first + (run { cadence } earlier).cadence.interval link (run { cadence } earlier).diagnosticsOpen ≤ second

def endlessCadence : Cadence where
  base := 18446744073709551615000

/-- A table that should wait the longest does not wait at all. -/
theorem endlessCadence_keeps_no_distance : ¬ KeepsDistance endlessCadence := by
  intro keeps
  -- The due time would lie beyond the clock, and without one the next tick is as good as any.
  have apart := keeps [] [.beginSync, .finishSync] 0 0 .connected .connected _ _ rfl (by decide) (by decide) rfl
  exact absurd apart (by decide)

end Pacing
end ComputeMonitor.Table.Schedule
