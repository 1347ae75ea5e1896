import ComputeMonitor.Proofs.Simulation.Demo

/-!
The simulated client over any number of refreshes, one of them a second.

It never runs out of work and never mixes it up, and its log has no gaps. Only the calendar sets an end: the
messages get later stamps as their numbers rise, and the years that a date can have end with the year 9999. A
refresh that would write a later message crashes, but not within half a century of seconds, and what it leaves
behind is consistent as well.
-/

set_option autoImplicit false

namespace ComputeMonitor.Simulation.Demo

open ComputeMonitor.Client

/-- The answer of the last refresh and the simulation of a seed after so many. A crash ends the program, so that
no refresh follows it. -/
def after (seed : UInt64) : Nat → Except Stop Unit × Demo
  | 0 => (.ok (), ofSeed seed)
  | refreshes + 1 =>
    match after seed refreshes with
    | (.ok (), demo) => DocumentSource.refresh demo
    | (.error stop, demo) => (.error stop, demo)

section Start

theorem nodup_addresses : ((List.range 5).map projectAddress).Nodup := by decide

theorem start_state (state : State) (random : Random) : (start state random).document.state = state :=
  (log_logs ..).state

theorem start_sound {projectCount tasksPerProject transferCount : Nat} {state : State}
    (made : IsMadeState projectCount tasksPerProject transferCount state) (random : Random) :
    (start state random).Sound state.projects state.tasks.length state.transfers.length :=
  have begun : ({ random, document := { state }, nextTask := state.tasks.length
                  nextTransfer := state.transfers.length } : Demo).Sound
      state.projects state.tasks.length state.transfers.length := {
    known := rfl
    tasks := enrolled_of_range made.taskOwners made.taskNumbers
    active := made.active
    taskCount := rfl
    transfers := enrolled_of_range made.transferOwners made.transferNumbers
    transferCount := rfl }
  begun.logs (log_logs ..)

theorem start_logSound (state : State) (random : Random) :
    (start state random).LogSound ∧ (start state random).nextSeqno.toNat ≤ 2 := by
  have empty : ({ random, document := { state }, nextTask := state.tasks.length
                  nextTransfer := state.transfers.length } : Demo).LogSound := {
    length := Nat.zero_le _
    numbers := ⟨1, Nat.le_refl 1, rfl, rfl⟩
    early := by
      change (1 : UInt64).toNat ≤ _
      decide }
  obtain ⟨sound, atMost, -⟩ := (log_logs _ "" "Starting BOINC client (demo)").writes empty
  exact ⟨sound, atMost⟩

theorem ofSeed_eq_start (seed : UInt64) :
    ∃ state random, IsMadeState 5 4 6 state ∧ ofSeed seed = start state random :=
  ⟨_, _, makeState_yields 5 4 6 _, rfl⟩

end Start

/-- A simulated client of the projects it began with, with all its work and its log in order. -/
structure Consistent (projects : List Project) (demo : Demo) : Prop where
  projects : demo.document.state.projects = projects
  projectCount : demo.document.state.projects.length = 5
  addresses : (demo.document.state.projects.map (·.masterUrl)).Nodup
  taskCount : demo.document.state.tasks.length = 20
  transferCount : demo.document.state.transfers.length = 6
  taskOwners : ∀ task ∈ demo.document.state.tasks,
    task.projectUrl ∈ demo.document.state.projects.map (·.masterUrl)
  transferOwners : ∀ transfer ∈ demo.document.state.transfers,
    transfer.projectUrl ∈ demo.document.state.projects.map (·.masterUrl)
  taskKeys : (demo.document.state.tasks.map fun task => (task.projectUrl, task.name)).Nodup
  transferKeys :
    (demo.document.state.transfers.map fun transfer => (transfer.projectUrl, transfer.fileName)).Nodup
  active : ∀ task ∈ demo.document.state.tasks, task.active = true ↔ task.state = .running
  logLength : demo.document.messages.length ≤ 2000
  logNumbers : ∃ first, first + demo.document.messages.length = demo.nextSeqno.toNat ∧
    demo.document.messages.map (·.seqno.toNat) = List.range' first demo.document.messages.length

/-- What holds after some refreshes: the work and the log are in order, and few messages have been written. -/
structure InOrder (projects : List Project) (refreshes : Nat) (demo : Demo) : Prop where
  addresses : projects.map (·.masterUrl) = (List.range 5).map projectAddress
  sound : demo.Sound projects 20 6
  log : demo.LogSound
  written : demo.nextSeqno.toNat ≤ 2 + 21 * refreshes

section InOrder

variable {projects : List Project} {refreshes : Nat} {demo : Demo}

theorem InOrder.consistent (inOrder : demo.InOrder projects refreshes) : demo.Consistent projects := by
  obtain ⟨addresses, sound, log, -⟩ := inOrder
  exact {
    projects := sound.known
    projectCount := by
      rw [sound.known, ← List.length_map (·.masterUrl), addresses, List.length_map, List.length_range]
    addresses := by
      rw [sound.known, addresses]
      exact nodup_addresses
    taskCount := sound.taskCount
    transferCount := sound.transferCount
    taskOwners := fun task member => sound.known ▸ sound.tasks.owned _ (List.mem_map_of_mem member)
    transferOwners := fun transfer member =>
      sound.known ▸ sound.transfers.owned _ (List.mem_map_of_mem member)
    taskKeys := sound.tasks.nodup_keys (fun key => numberAtEnd key.2) rfl
    transferKeys := sound.transfers.nodup_keys (fun key => numberInside key.2) rfl
    active := sound.active
    logLength := log.length
    logNumbers := by
      obtain ⟨first, -, ends, numbers⟩ := log.numbers
      exact ⟨first, ends, numbers⟩ }

theorem ofSeed_inOrder (seed : UInt64) : (ofSeed seed).InOrder (ofSeed seed).document.state.projects 0 := by
  obtain ⟨state, random, made, isStart⟩ := ofSeed_eq_start seed
  obtain ⟨log, written⟩ := start_logSound state random
  have sound := start_sound made random
  rw [made.tasks_length, made.transfers_length] at sound
  rw [isStart, start_state]
  exact ⟨made.addresses, sound, log, written⟩

theorem refresh_standing (demo : Demo) : demo.refresh.2 = standing demo.advance := by
  unfold refresh
  cases demo.advance with
  | ok next => rfl
  | error left => rfl

theorem refresh_answer (demo : Demo) : demo.refresh.1 = .ok () ∨
    demo.refresh.1 = .error .crashed ∧ demo.advance = .error demo.refresh.2 := by
  unfold refresh
  cases demo.advance with
  | ok next => exact .inl rfl
  | error left => exact .inr ⟨rfl, rfl⟩

/-- A refresh keeps all in order, also if it crashes, and it only crashes at a message that cannot be dated. -/
theorem InOrder.refresh (inOrder : demo.InOrder projects refreshes) :
    demo.refresh.2.InOrder projects (refreshes + 1) ∧ (demo.refresh.1 = .ok () ∨
      demo.refresh.1 = .error .crashed ∧ stamp? demo.refresh.2.nextSeqno = none) := by
  have writes := demo.advance_writes
  rw [inOrder.sound.taskCount] at writes
  obtain ⟨log, atMost, undated⟩ := writes inOrder.log
  have written := inOrder.written
  have known : projects ≠ [] := by
    rintro rfl
    exact absurd inOrder.addresses (by simp)
  constructor
  · rw [refresh_standing]
    exact ⟨inOrder.addresses, inOrder.sound.advance known, log, by omega⟩
  · rcases demo.refresh_answer with succeeds | ⟨crashes, left⟩
    · exact .inl succeeds
    · exact .inr ⟨crashes, undated _ left⟩

theorem InOrder.later (inOrder : demo.InOrder projects refreshes) : demo.InOrder projects (refreshes + 1) := by
  have written := inOrder.written
  exact ⟨inOrder.addresses, inOrder.sound, inOrder.log, by omega⟩

end InOrder

section Runs

variable (seed : UInt64) (refreshes : Nat)

theorem after_succ : after seed (refreshes + 1) = DocumentSource.refresh (after seed refreshes).2 ∨
    after seed (refreshes + 1) = after seed refreshes := by
  rw [after]
  split
  next demo isAfter => exact .inl (by rw [isAfter])
  next stop demo isAfter => exact .inr isAfter.symm

theorem after_inOrder : (after seed refreshes).2.InOrder (ofSeed seed).document.state.projects refreshes ∧
    ((after seed refreshes).1 = .ok () ∨
      (after seed refreshes).1 = .error .crashed ∧ stamp? (after seed refreshes).2.nextSeqno = none) := by
  induction refreshes with
  | zero => exact ⟨ofSeed_inOrder seed, .inl rfl⟩
  | succ refreshes ih =>
    obtain ⟨inOrder, answer⟩ := ih
    rcases after_succ seed refreshes with refreshed | stopped
    · rw [refreshed]
      exact inOrder.refresh
    · rw [stopped]
      exact ⟨inOrder.later, answer⟩

theorem after_running : runningCount (after seed (refreshes + 1)).2.document.state.tasks ≤
    max runningSlots (runningCount (after seed refreshes).2.document.state.tasks) := by
  rcases after_succ seed refreshes with refreshed | stopped
  · rw [refreshed]
    change runningCount (refresh _).2.document.state.tasks ≤ _
    rw [refresh_standing]
    exact advance_running _
  · rw [stopped]
    exact Nat.le_max_right _ _

/-- Whatever the seed is, the simulated client is consistent after any number of refreshes, the one that crashes
included, and a refresh lets no more tasks run than there are slots, or than ran before. A crash can only come
where the next message would be later than the calendar goes, and that takes more than half a century. -/
theorem after_consistent :
    (after seed refreshes).2.Consistent (ofSeed seed).document.state.projects ∧
    runningCount (after seed (refreshes + 1)).2.document.state.tasks ≤
      max 4 (runningCount (after seed refreshes).2.document.state.tasks) ∧
    ((after seed refreshes).1 = .ok () ∨
      (after seed refreshes).1 = .error .crashed ∧ stamp? (after seed refreshes).2.nextSeqno = none) ∧
    (refreshes ≤ 1700000000 → (after seed refreshes).1 = .ok ()) := by
  obtain ⟨inOrder, answer⟩ := after_inOrder seed refreshes
  refine ⟨inOrder.consistent, after_running seed refreshes, answer, fun early => ?_⟩
  rcases answer with succeeds | ⟨-, undated⟩
  · exact succeeds
  · -- Twenty-one messages for each refresh are fewer than can be dated.
    have last := inOrder.log.stamp?_eq_none_iff.1 undated
    have written := inOrder.written
    rw [lastDated] at last
    omega

theorem nine_consistent : (after 9 10).1 = .ok () ∧
    (after 9 10).2.Consistent (ofSeed 9).document.state.projects ∧
    runningCount (after 9 (10 + 1)).2.document.state.tasks ≤
      max 4 (runningCount (after 9 10).2.document.state.tasks) := by
  obtain ⟨consistent, noMoreRun, -, succeeds⟩ := after_consistent 9 10
  exact ⟨succeeds (by decide), consistent, noMoreRun⟩

end Runs

end ComputeMonitor.Simulation.Demo
