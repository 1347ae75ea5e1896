import ComputeMonitor.Proofs.Simulation.FakeClient
import ComputeMonitor.Simulation.Demo
import Mathlib.Data.List.Nodup

/-!
The work of the simulated client, as lists of tasks and transfers.

What is made next gets the next number, and numbers are never given twice. A task that goes on stays the same
work, whatever becomes of its state, and is active as long as it runs.
-/

set_option autoImplicit false

namespace ComputeMonitor.Simulation

open ComputeMonitor.Client

section Enrolled

variable {α : Type}

/-- Items that belong to known projects, with different numbers below the next one. -/
structure Enrolled (owner : α → String) (number : α → Nat) (addresses : List String) (next : Nat)
    (items : List α) : Prop where
  owned : ∀ address ∈ items.map owner, address ∈ addresses
  distinct : (items.map number).Nodup
  below : ∀ taken ∈ items.map number, taken < next

variable {owner : α → String} {number : α → Nat} {addresses : List String} {next : Nat} {items : List α}

theorem enrolled_of_range {count : Nat} (owned : ∀ item ∈ items, owner item ∈ addresses)
    (numbers : items.map number = List.range count) : Enrolled owner number addresses items.length items := by
  have length : items.length = count := by
    rw [← List.length_map number, numbers, List.length_range]
  exact {
    owned := List.forall_mem_map.2 owned
    distinct := numbers ▸ List.nodup_range
    below := by
      rw [numbers, length]
      exact fun taken => List.mem_range.1 }

theorem Enrolled.sublist {kept : List α} (enrolled : Enrolled owner number addresses next items)
    (sub : kept.Sublist items) : Enrolled owner number addresses next kept where
  owned address member := enrolled.owned address ((sub.map owner).subset member)
  distinct := enrolled.distinct.sublist (sub.map number)
  below taken member := enrolled.below taken ((sub.map number).subset member)

theorem Enrolled.append {item : α} (enrolled : Enrolled owner number addresses next items)
    (owned : owner item ∈ addresses) (isNext : number item = next) :
    Enrolled owner number addresses (next + 1) (items ++ [item]) where
  owned address member := by
    rw [List.map_append, List.mem_append, List.map_singleton, List.mem_singleton] at member
    rcases member with earlier | rfl
    · exact enrolled.owned address earlier
    · exact owned
  distinct := by
    rw [List.map_append, List.map_singleton, isNext]
    exact enrolled.distinct.append (List.nodup_singleton next) fun taken earlier isIt =>
      absurd (enrolled.below taken earlier) (by rw [List.mem_singleton.1 isIt]; omega)
  below taken member := by
    rw [List.map_append, List.mem_append, List.map_singleton, List.mem_singleton] at member
    rcases member with earlier | rfl
    · exact Nat.lt_succ_of_lt (enrolled.below taken earlier)
    · omega

theorem Enrolled.of_same {others : List α} (enrolled : Enrolled owner number addresses next items)
    (sameOwners : others.map owner = items.map owner) (sameNumbers : others.map number = items.map number) :
    Enrolled owner number addresses next others :=
  ⟨sameOwners ▸ enrolled.owned, sameNumbers ▸ enrolled.distinct, sameNumbers ▸ enrolled.below⟩

theorem Enrolled.nodup_keys {κ : Type} {key : α → κ}
    (enrolled : Enrolled owner number addresses next items) (numberOf : κ → Nat)
    (isPart : numberOf ∘ key = number) : (items.map key).Nodup := by
  apply List.Nodup.of_map numberOf
  rw [List.map_map, isPart]
  exact enrolled.distinct

/-- Tasks of projects with some addresses, told apart by the numbers in their names. -/
abbrev EnrolledTasks (addresses : List String) (next : Nat) (tasks : List Task) : Prop :=
  Enrolled (·.projectUrl) (numberAtEnd ·.name) addresses next tasks

abbrev EnrolledTransfers (addresses : List String) (next : Nat) (transfers : List Transfer) : Prop :=
  Enrolled (·.projectUrl) (numberInside ·.fileName) addresses next transfers

end Enrolled

section Tasks

/-- A task as it goes on: the same work, and active only when it runs if it was so before. -/
structure SameWork (before after : Task) : Prop where
  projectUrl : after.projectUrl = before.projectUrl
  name : after.name = before.name
  active : (before.active = true ↔ before.state = .running) →
    (after.active = true ↔ after.state = .running)

theorem SameWork.refl (task : Task) : SameWork task task := ⟨rfl, rfl, id⟩

def runningCount (tasks : List Task) : Nat := tasks.countP (·.state = .running)

theorem runningCount_le_of_forall₂ {before after : List Task} (noneBegins :
    List.Forall₂ (fun before after => after.state = .running → before.state = .running) before after) :
    runningCount after ≤ runningCount before := by
  unfold runningCount
  induction noneBegins with
  | nil => exact Nat.le_refl _
  | @cons first next _ _ ranBefore _ ih =>
    rw [List.countP_cons, List.countP_cons]
    by_cases runs : next.state = .running
    · rw [if_pos (by simpa using runs), if_pos (by simpa using ranBefore runs)]
      omega
    · rw [if_neg (by simpa using runs)]
      omega

namespace Demo

theorem progressTask_yields (task : Task) : Yields (progressTask task) fun after =>
    SameWork task after ∧ (after.state = .running → task.state = .running) := by
  unfold progressTask
  dsimp only
  split
  next => exact yields_pure ⟨.refl task, id⟩
  next works =>
    have runs : task.state = .running := by
      by_contra idle
      simp [idle] at works
    refine yields_bind fun drawn => ?_
    split
    next => exact yields_pure ⟨⟨rfl, rfl, fun _ => by simp⟩, fun _ => runs⟩
    next => exact yields_pure ⟨⟨rfl, rfl, id⟩, fun _ => runs⟩

theorem startTasks_sameWork (free : Nat) (tasks : List Task) :
    List.Forall₂ SameWork tasks (startTasks free tasks) := by
  fun_induction startTasks free tasks with
  | case1 tasks => exact List.forall₂_same.2 fun task _ => .refl task
  | case2 => exact .nil
  | case3 free task rest isReady ih => exact .cons ⟨rfl, rfl, fun _ => by simp⟩ ih
  | case4 free task rest notReady ih => exact .cons (.refl task) ih

theorem runningCount_startTasks (free : Nat) (tasks : List Task) :
    runningCount (startTasks free tasks) ≤ runningCount tasks + free := by
  unfold runningCount
  fun_induction startTasks free tasks with
  | case1 tasks => exact Nat.le_refl _
  | case2 => exact Nat.zero_le _
  | case3 free task rest isReady ih =>
    rw [List.countP_cons_of_pos (by simp), List.countP_cons_of_neg (by simp [isReady])]
    omega
  | case4 free task rest notReady ih =>
    rw [List.countP_cons, List.countP_cons]
    omega

theorem nextRound_sameWork (task : Task) : SameWork task (nextRound task) where
  projectUrl := by unfold nextRound; split <;> rfl
  name := by unfold nextRound; split <;> rfl
  active coherent := by
    unfold nextRound
    split
    next uploads => simpa [uploads] using coherent
    next downloads => simpa [downloads] using coherent
    next => exact coherent

theorem nextRound_running (task : Task) : (nextRound task).state = .running ↔ task.state = .running := by
  unfold nextRound
  split <;> simp_all

end Demo

end Tasks

end ComputeMonitor.Simulation
