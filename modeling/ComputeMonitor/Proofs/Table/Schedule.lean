import ComputeMonitor.Table.ListView

/-!
The schedule of a table in the course of a poll.

A poll begins when the schedule is idle and its time has come. However it ends, with an answer or without,
the schedule is idle again and only tells whether the rows are stale.
-/

set_option autoImplicit false

namespace ComputeMonitor.Table

namespace Schedule

variable {schedule after : Schedule} {now : Nat} {link : Link}

theorem isDue_iff : schedule.isDue now = true ↔ ∀ due, schedule.nextDue = some due → due ≤ now := by
  unfold isDue
  cases schedule.nextDue with
  | none => simp
  | some due => simp

theorem beginPoll?_eq_some_iff : schedule.beginPoll? now link = some after ↔
    schedule.phase = .idle ∧ schedule.isDue now = true ∧
      after = { schedule with
        phase := .polling
        nextDue := laterTime? now (schedule.cadence.interval link schedule.diagnosticsOpen)
        cycles := schedule.cycles + 1 } := by
  unfold beginPoll?
  constructor
  · intro begun
    split at begun
    next ready =>
      simp only [Bool.and_eq_true, decide_eq_true_eq] at ready
      exact ⟨ready.1, ready.2, (Option.some.inj begun).symm⟩
    next => cases begun
  · rintro ⟨idle, due, rfl⟩
    simp [idle, due]

theorem isSome_beginPoll? (idle : schedule.phase = .idle) :
    (schedule.beginPoll? now link).isSome = schedule.isDue now := by
  cases isReady : schedule.isDue now <;> simp [beginPoll?, idle, isReady]

end Schedule

namespace ListView

variable {view after : ListView} {now : Nat} {link : Link}

theorem isSome_tick? (idle : view.schedule.phase = .idle) :
    (view.tick? now link).isSome = view.schedule.isDue now := by
  rw [tick?, Option.isSome_map, Schedule.isSome_beginPoll? idle]

theorem tick?_keeps (begun : view.tick? now link = some after) :
    ∃ schedule, after = { view with schedule } ∧ schedule.phase = .polling ∧
      schedule.diagnosticsOpen = view.schedule.diagnosticsOpen := by
  obtain ⟨schedule, begunPoll, rfl⟩ := Option.map_eq_some_iff.1 begun
  obtain ⟨-, -, rfl⟩ := Schedule.beginPoll?_eq_some_iff.1 begunPoll
  exact ⟨_, rfl, rfl, rfl⟩

theorem fetchFailed_of_polling (polling : view.schedule.phase = .polling) :
    view.fetchFailed = { view with schedule := { view.schedule with phase := .idle, stale := true } } := by
  simp [fetchFailed, Schedule.fail?, polling]

end ListView
end ComputeMonitor.Table
