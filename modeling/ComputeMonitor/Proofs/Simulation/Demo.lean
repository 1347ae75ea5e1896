import ComputeMonitor.Proofs.Simulation.Log
import ComputeMonitor.Proofs.Simulation.Work

/-!
What one second of the simulated client keeps.

Every pass over the tasks and the transfers lets them go on as the same work, takes some away, or adds new
ones that have the next number. A task is taken away when it is reported, and then a new one of its project
takes its place, as no task goes without a project. A crash at a message leaves all of them in order, for
messages are written when the work is done.
-/

set_option autoImplicit false

namespace ComputeMonitor.Simulation.Demo

open ComputeMonitor.Client

section Courses

/-- What becomes of the tasks while they are advanced: they make progress, messages tell which are finished,
and if all of them could be written free slots are taken. -/
inductive TaskCourse (demo : Demo) : Except Demo Demo → Prop where
  | advanced {random : Random} {progressed : List Task} {logged : Except Demo Demo}
      (progress : List.Forall₂ (fun before after => SameWork before after ∧
        (after.state = .running → before.state = .running)) demo.document.state.tasks progressed)
      (logs : Logs demo.document.state.tasks.length ({ demo with random }.setTasks progressed) logged) :
      TaskCourse demo (logged >>= fun logged =>
        .ok (logged.setTasks (startTasks (runningSlots - runningCount progressed) progressed)))

theorem advanceTasks_course (demo : Demo) : TaskCourse demo demo.advanceTasks := by
  have progress := demo.draw_yields (yields_mapM demo.document.state.tasks progressTask_yields)
  unfold advanceTasks
  dsimp only
  -- What is drawn matters no longer, only what is known of it.
  generalize demo.document.state.tasks.mapM progressTask = drawn at progress ⊢
  generalize (demo.draw drawn).1 = progressed at progress ⊢
  generalize isFinished : (demo.document.state.tasks.zip progressed).filter (fun entry =>
    decide (entry.1.state = .running) && decide (entry.2.state = .uploading)) = finished
  have noMore : finished.length ≤ demo.document.state.tasks.length := by
    rw [← isFinished]
    exact (List.length_filter_le _ _).trans (by rw [List.length_zip]; omega)
  rw [← List.countP_eq_length_filter]
  exact .advanced progress ((foldlM_logs (fun _ _ => log_logs ..) finished _).mono noMore)

/-- What becomes of the tasks when one of them may be reported: none is ready for it, or one is replaced, or
its project is not known and it is not replaced. -/
inductive RetireCourse (demo : Demo) : Except Demo Demo → Prop where
  | noneReady : RetireCourse demo (.ok (demo.setTasks (demo.document.state.tasks.map nextRound)))
  | replaced {reported : Task} {kept : List Task} {project : Project} {body : String}
      (without : kept.Sublist (demo.document.state.tasks.map nextRound))
      (oneLess : kept.length + 1 = demo.document.state.tasks.length)
      (known : project ∈ demo.document.state.projects) :
      RetireCourse demo (((demo.setTasks kept).fetchTask project).log reported.projectName body)
  | lost {reported : Task} {kept : List Task} (ready : reported ∈ demo.document.state.tasks.map nextRound)
      (without : kept.Sublist (demo.document.state.tasks.map nextRound))
      (unknown : ∀ project ∈ demo.document.state.projects, project.masterUrl ≠ reported.projectUrl) :
      RetireCourse demo (.ok (demo.setTasks kept))

theorem retireAndReplace_course (demo : Demo) : RetireCourse demo demo.retireAndReplace := by
  unfold retireAndReplace
  dsimp only
  split
  next => exact .noneReady
  next reported isReported =>
    have ready := List.mem_of_find?_eq_some isReported
    split
    next noProject =>
      exact .lost ready List.eraseP_sublist fun project member => by
        simpa using List.find?_eq_none.1 noProject project member
    next project isProject =>
      have erased := List.length_eraseP_of_mem ready (List.find?_some isReported)
      have one := List.length_pos_of_mem ready
      rw [List.length_map] at erased one
      exact .replaced List.eraseP_sublist (by omega) (List.mem_of_find?_eq_some isProject)

end Courses

section Sound

/-- The projects are known, and tasks and transfers, as many as said, are their work. -/
structure Sound (projects : List Project) (taskCount transferCount : Nat) (demo : Demo) : Prop where
  known : demo.document.state.projects = projects
  tasks : EnrolledTasks (projects.map (·.masterUrl)) demo.nextTask demo.document.state.tasks
  active : ∀ task ∈ demo.document.state.tasks, task.active = true ↔ task.state = .running
  taskCount : demo.document.state.tasks.length = taskCount
  transfers : EnrolledTransfers (projects.map (·.masterUrl)) demo.nextTransfer demo.document.state.transfers
  transferCount : demo.document.state.transfers.length = transferCount

variable {projects : List Project} {taskCount transferCount : Nat} {demo : Demo}

theorem Sound.of_same {after : Demo} (sound : demo.Sound projects taskCount transferCount)
    (state : after.document.state = demo.document.state) (nextTask : after.nextTask = demo.nextTask)
    (nextTransfer : after.nextTransfer = demo.nextTransfer) : after.Sound projects taskCount transferCount where
  known := state ▸ sound.known
  tasks := by
    rw [state, nextTask]
    exact sound.tasks
  active := state ▸ sound.active
  taskCount := state ▸ sound.taskCount
  transfers := by
    rw [state, nextTransfer]
    exact sound.transfers
  transferCount := state ▸ sound.transferCount

theorem Sound.setTasks {tasks : List Task} (sound : demo.Sound projects taskCount transferCount)
    (enrolled : EnrolledTasks (projects.map (·.masterUrl)) demo.nextTask tasks)
    (active : ∀ task ∈ tasks, task.active = true ↔ task.state = .running) :
    (demo.setTasks tasks).Sound projects tasks.length transferCount :=
  ⟨sound.known, enrolled, active, rfl, sound.transfers, sound.transferCount⟩

theorem Sound.goOn {tasks : List Task} (sound : demo.Sound projects taskCount transferCount)
    (sameWork : List.Forall₂ SameWork demo.document.state.tasks tasks) :
    (demo.setTasks tasks).Sound projects taskCount transferCount := by
  have owners := map_eq_of_forall₂ sameWork fun _ _ same => same.projectUrl
  have numbers : tasks.map (numberAtEnd ·.name) = demo.document.state.tasks.map (numberAtEnd ·.name) :=
    map_eq_of_forall₂ sameWork fun _ _ same => congrArg numberAtEnd same.name
  have active : ∀ task ∈ tasks, task.active = true ↔ task.state = .running := by
    intro task member
    obtain ⟨before, isBefore, same⟩ := exists_of_mem_right sameWork member
    exact same.active (sound.active before isBefore)
  have length : tasks.length = taskCount := sameWork.length_eq ▸ sound.taskCount
  exact length ▸ sound.setTasks (sound.tasks.of_same owners numbers) active

theorem Sound.logs {most : Nat} {after : Except Demo Demo} (sound : demo.Sound projects taskCount transferCount)
    (logs : Logs most demo after) : (standing after).Sound projects taskCount transferCount :=
  sound.of_same logs.state logs.nextTask logs.nextTransfer

theorem Sound.draw {α : Type} (sound : demo.Sound projects taskCount transferCount) (drawn : Draw α) :
    (demo.draw drawn).2.Sound projects taskCount transferCount :=
  sound.of_same rfl rfl rfl

theorem Sound.takeTask {task : Task} (sound : demo.Sound projects taskCount transferCount)
    (owned : task.projectUrl ∈ projects.map (·.masterUrl)) (number : numberAtEnd task.name = demo.nextTask) :
    (demo.takeTask task).Sound projects (taskCount + 1) transferCount where
  known := sound.known
  tasks := sound.tasks.append owned number
  active other member := by
    rcases List.mem_append.1 member with earlier | isIt
    · exact sound.active other earlier
    · simp [List.mem_singleton.1 isIt]
  taskCount := by
    rw [← sound.taskCount]
    exact List.length_append
  transfers := sound.transfers
  transferCount := sound.transferCount

/-- Whatever draws a new task, it need only be of a known project and have the next number. -/
theorem Sound.takeDrawnTask {drawn : Draw Task} (sound : demo.Sound projects taskCount transferCount)
    (yields : Yields drawn fun task =>
      task.projectUrl ∈ projects.map (·.masterUrl) ∧ numberAtEnd task.name = demo.nextTask) :
    ((demo.draw drawn).2.takeTask (demo.draw drawn).1).Sound projects (taskCount + 1) transferCount :=
  have made := demo.draw_yields yields
  (sound.draw drawn).takeTask made.1 made.2

theorem Sound.fetchTask {project : Project} (sound : demo.Sound projects taskCount transferCount)
    (known : project ∈ projects) : (demo.fetchTask project).Sound projects (taskCount + 1) transferCount :=
  sound.takeDrawnTask <| (makeTask_yields project demo.nextTask).mono fun _ made =>
    ⟨made.projectUrl ▸ List.mem_map_of_mem known, made.number⟩

theorem Sound.setTransfers {transfers : List Transfer} (sound : demo.Sound projects taskCount transferCount)
    (enrolled : EnrolledTransfers (projects.map (·.masterUrl)) demo.nextTransfer transfers) :
    (demo.setTransfers transfers).Sound projects taskCount transfers.length :=
  ⟨sound.known, sound.tasks, sound.active, sound.taskCount, enrolled, rfl⟩

theorem Sound.takeTransfer {transfer : Transfer} (sound : demo.Sound projects taskCount transferCount)
    (owned : transfer.projectUrl ∈ projects.map (·.masterUrl))
    (number : numberInside transfer.fileName = demo.nextTransfer) :
    (demo.takeTransfer transfer).Sound projects taskCount (transferCount + 1) where
  known := sound.known
  tasks := sound.tasks
  active := sound.active
  taskCount := sound.taskCount
  transfers := sound.transfers.append owned number
  transferCount := by
    rw [← sound.transferCount]
    exact List.length_append

theorem Sound.takeDrawnTransfer {drawn : Draw Transfer} (sound : demo.Sound projects taskCount transferCount)
    (yields : Yields drawn fun transfer =>
      transfer.projectUrl ∈ projects.map (·.masterUrl) ∧
        numberInside transfer.fileName = demo.nextTransfer) :
    ((demo.draw drawn).2.takeTransfer (demo.draw drawn).1).Sound projects taskCount (transferCount + 1) :=
  have made := demo.draw_yields yields
  (sound.draw drawn).takeTransfer made.1 made.2

theorem Sound.addTransfer (sound : demo.Sound projects taskCount transferCount) (known : projects ≠ []) :
    demo.addTransfer.Sound projects taskCount (transferCount + 1) := by
  unfold Demo.addTransfer
  dsimp only
  rw [sound.known, if_neg (by rwa [List.isEmpty_iff])]
  refine sound.takeDrawnTransfer <| (below_yields (List.length_pos_iff.2 known)).bind fun index inside => ?_
  refine (makeTransfer_yields _ demo.nextTransfer).mono fun transfer made => ⟨?_, made.2⟩
  rw [made.1, List.getD_eq_getElem _ _ inside]
  exact List.mem_map_of_mem (List.getElem_mem inside)

theorem Sound.repeat_addTransfer (sound : demo.Sound projects taskCount transferCount) (known : projects ≠ [])
    (count : Nat) : (count.repeat Demo.addTransfer demo).Sound projects taskCount (transferCount + count) := by
  induction count with
  | zero => exact sound
  | succ count ih => exact ih.addTransfer known

theorem progressTransfer_same (transfer : Transfer) :
    (progressTransfer transfer).projectUrl = transfer.projectUrl ∧
      (progressTransfer transfer).fileName = transfer.fileName := by
  unfold progressTransfer
  split <;> exact ⟨rfl, rfl⟩

theorem Sound.advanceTransfers (sound : demo.Sound projects taskCount transferCount) (known : projects ≠ []) :
    demo.advanceTransfers.Sound projects taskCount transferCount := by
  have progressed : EnrolledTransfers (projects.map (·.masterUrl)) demo.nextTransfer
      (demo.document.state.transfers.map progressTransfer) := by
    refine sound.transfers.of_same ?_ ?_ <;> rw [List.map_map]
    · exact List.map_congr_left fun transfer _ => (progressTransfer_same transfer).1
    · exact List.map_congr_left fun transfer _ => congrArg numberInside (progressTransfer_same transfer).2
  unfold Demo.advanceTransfers
  dsimp only
  rw [sound.transferCount]
  generalize isKept : (demo.document.state.transfers.map progressTransfer).filter (fun transfer =>
    transfer.bytesDone.lt transfer.totalBytes) = kept
  have sub : kept.Sublist (demo.document.state.transfers.map progressTransfer) := isKept ▸ List.filter_sublist
  have fewer : kept.length ≤ transferCount :=
    sub.length_le.trans_eq (by rw [List.length_map, sound.transferCount])
  have refilled := (sound.setTransfers (progressed.sublist sub)).repeat_addTransfer known
    (transferCount - kept.length)
  rwa [Nat.add_sub_cancel' fewer] at refilled

theorem TaskCourse.sound {after : Except Demo Demo} (course : TaskCourse demo after)
    (sound : demo.Sound projects taskCount transferCount) :
    (standing after).Sound projects taskCount transferCount := by
  cases course with
  | @advanced random progressed logged progress logs =>
    have begun : ({ demo with random } : Demo).Sound projects taskCount transferCount :=
      sound.of_same rfl rfl rfl
    have continued := (begun.goOn (progress.imp fun _ _ => And.left)).logs logs
    cases logged with
    | error left => exact continued
    | ok logged =>
      have sameTasks : logged.document.state.tasks = progressed := congrArg State.tasks logs.state
      exact continued.goOn (sameTasks ▸ startTasks_sameWork _ progressed)

/-- A task that is reported is replaced, as its project is known. -/
theorem RetireCourse.sound {after : Except Demo Demo} (course : RetireCourse demo after)
    (sound : demo.Sound projects taskCount transferCount) :
    (standing after).Sound projects taskCount transferCount := by
  have round : (demo.setTasks (demo.document.state.tasks.map nextRound)).Sound
      projects taskCount transferCount :=
    sound.goOn (List.forall₂_map_right_iff.2 (List.forall₂_same.2 fun task _ => nextRound_sameWork task))
  cases course with
  | noneReady => exact round
  | @replaced reported kept project body without oneLess known =>
    have fewer := sound.setTasks (round.tasks.sublist without) fun task member =>
      round.active task (without.subset member)
    have replaced := fewer.fetchTask (sound.known ▸ known)
    rw [← sound.taskCount, ← oneLess]
    exact replaced.logs (log_logs ..)
  | @lost reported kept ready without unknown =>
    -- This does not come about: a task that is ready to be reported is of a known project.
    obtain ⟨project, isProject, owner⟩ := List.mem_map.1
      (round.tasks.owned _ (List.mem_map_of_mem ready))
    exact absurd owner (unknown project (sound.known ▸ isProject))

theorem Sound.advance (sound : demo.Sound projects taskCount transferCount) (known : projects ≠ []) :
    (standing demo.advance).Sound projects taskCount transferCount := by
  have ticked : ({ demo with ticks := demo.ticks + 1 } : Demo).Sound projects taskCount transferCount :=
    sound.of_same rfl rfl rfl
  refine standing_bind ((advanceTasks_course _).sound ticked) fun advanced advancedSound => ?_
  have transferred := advancedSound.advanceTransfers known
  dsimp only
  split
  next => exact (retireAndReplace_course _).sound transferred
  next => exact transferred

end Sound

section Passes

/-- No task and no message comes or goes. -/
structure Leaves (before after : Demo) : Prop where
  tasks : after.document.state.tasks = before.document.state.tasks
  messages : after.document.messages = before.document.messages
  nextSeqno : after.nextSeqno = before.nextSeqno

theorem takeTransfer_leaves (demo : Demo) (drawn : Draw Transfer) :
    Leaves demo ((demo.draw drawn).2.takeTransfer (demo.draw drawn).1) :=
  ⟨rfl, rfl, rfl⟩

theorem addTransfer_leaves (demo : Demo) : Leaves demo demo.addTransfer := by
  unfold addTransfer
  dsimp only
  split
  next => exact ⟨rfl, rfl, rfl⟩
  next => exact takeTransfer_leaves demo _

theorem repeat_addTransfer_leaves (demo : Demo) (count : Nat) :
    Leaves demo (count.repeat addTransfer demo) := by
  induction count with
  | zero => exact ⟨rfl, rfl, rfl⟩
  | succ count ih =>
    have last := addTransfer_leaves (count.repeat addTransfer demo)
    exact ⟨last.tasks.trans ih.tasks, last.messages.trans ih.messages, last.nextSeqno.trans ih.nextSeqno⟩

theorem advanceTransfers_leaves (demo : Demo) : Leaves demo demo.advanceTransfers := by
  have refilled (kept : List Transfer) (count : Nat) :
      Leaves demo (count.repeat addTransfer (demo.setTransfers kept)) :=
    have added := repeat_addTransfer_leaves (demo.setTransfers kept) count
    ⟨added.tasks, added.messages, added.nextSeqno⟩
  exact refilled _ _

theorem setTasks_writes (demo : Demo) (tasks : List Task) : Writes 0 demo (.ok (demo.setTasks tasks)) :=
  .of_same rfl rfl

theorem TaskCourse.writes {demo : Demo} {after : Except Demo Demo} (course : TaskCourse demo after) :
    Writes demo.document.state.tasks.length demo after := by
  cases course with
  | @advanced random progressed logged progress logs =>
    have writes : Writes demo.document.state.tasks.length demo logged := logs.writes.of_begun rfl rfl
    exact writes.bind fun logged _ => setTasks_writes logged _

theorem TaskCourse.running {demo : Demo} {after : Except Demo Demo} (course : TaskCourse demo after) :
    runningCount (standing after).document.state.tasks ≤
      max runningSlots (runningCount demo.document.state.tasks) := by
  cases course with
  | @advanced random progressed logged progress logs =>
    have started := runningCount_startTasks (runningSlots - runningCount progressed) progressed
    have fewer := runningCount_le_of_forall₂ (progress.imp fun _ _ => And.right)
    cases logged with
    | error left =>
      have sameTasks : left.document.state.tasks = progressed := congrArg State.tasks logs.state
      change runningCount left.document.state.tasks ≤ _
      rw [sameTasks]
      omega
    | ok logged =>
      change runningCount (startTasks _ progressed) ≤ _
      omega

theorem takeTask_messages (demo : Demo) (drawn : Draw Task) :
    ((demo.draw drawn).2.takeTask (demo.draw drawn).1).document.messages = demo.document.messages := rfl

theorem takeTask_nextSeqno (demo : Demo) (drawn : Draw Task) :
    ((demo.draw drawn).2.takeTask (demo.draw drawn).1).nextSeqno = demo.nextSeqno := rfl

theorem takeTask_running (demo : Demo) (drawn : Draw Task) :
    runningCount ((demo.draw drawn).2.takeTask (demo.draw drawn).1).document.state.tasks =
      runningCount demo.document.state.tasks := by
  change runningCount (demo.document.state.tasks ++ [_]) = _
  simp [runningCount]

theorem RetireCourse.writes {demo : Demo} {after : Except Demo Demo} (course : RetireCourse demo after) :
    Writes 1 demo after := by
  cases course with
  | noneReady | lost => exact (setTasks_writes _ _).mono (Nat.zero_le 1)
  | @replaced reported kept project body without oneLess known =>
    exact (log_logs _ _ _).writes.of_begun (takeTask_messages (demo.setTasks kept) _)
      (takeTask_nextSeqno (demo.setTasks kept) _)

theorem RetireCourse.running {demo : Demo} {after : Except Demo Demo} (course : RetireCourse demo after) :
    runningCount (standing after).document.state.tasks ≤ runningCount demo.document.state.tasks := by
  have round : runningCount (demo.document.state.tasks.map nextRound) =
      runningCount demo.document.state.tasks := by
    rw [runningCount, List.countP_map]
    exact List.countP_congr fun task _ => by simpa using nextRound_running task
  cases course with
  | noneReady => exact Nat.le_of_eq round
  | @replaced reported kept project body without oneLess known =>
    have fetched : runningCount ((demo.setTasks kept).fetchTask project).document.state.tasks =
        runningCount kept :=
      takeTask_running (demo.setTasks kept) _
    rw [(log_logs _ _ _).state, fetched, ← round]
    exact without.countP_le
  | @lost reported kept ready without unknown =>
    rw [standing_ok, ← round]
    exact without.countP_le

/-- One second writes a message for every task at most, and one for a task that is reported. -/
theorem advance_writes (demo : Demo) : Writes (demo.document.state.tasks.length + 1) demo demo.advance := by
  have advanced : Writes demo.document.state.tasks.length demo
      ({ demo with ticks := demo.ticks + 1 } : Demo).advanceTasks :=
    (advanceTasks_course _).writes.of_begun rfl rfl
  refine advanced.bind fun middle _ => ?_
  have left := advanceTransfers_leaves middle
  dsimp only
  split
  next => exact (retireAndReplace_course _).writes.of_begun left.messages left.nextSeqno
  next => exact (Writes.of_same left.messages left.nextSeqno).mono (Nat.zero_le 1)

theorem advance_running (demo : Demo) : runningCount (standing demo.advance).document.state.tasks ≤
    max runningSlots (runningCount demo.document.state.tasks) := by
  have advanced := (advanceTasks_course { demo with ticks := demo.ticks + 1 }).running
  refine standing_bind (P := fun after => runningCount after.document.state.tasks ≤
    max runningSlots (runningCount demo.document.state.tasks)) advanced fun middle atMost => ?_
  rw [← (advanceTransfers_leaves middle).tasks] at atMost
  dsimp only
  split
  next => exact (retireAndReplace_course _).running.trans atMost
  next => exact atMost

end Passes

end ComputeMonitor.Simulation.Demo
