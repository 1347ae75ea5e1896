import ComputeMonitor.Proofs.Text.Numeral
import ComputeMonitor.Simulation.FakeClient
import Mathlib.Data.List.DropRight
import Mathlib.Data.List.Forall2
import Mathlib.Data.List.GetD

/-!
What is certain of work that is made up, whatever numbers are drawn.

A task and a transfer belong to the project that they are made for. The number that they are made with can
be read back from their names, behind the last underscore or between the first two: names that are made
with different numbers are different, whatever stands in the rest of them.
-/

set_option autoImplicit false

namespace ComputeMonitor.Simulation

open ComputeMonitor.Client
open ComputeMonitor.Text

section Yields

variable {α β : Type} {P : α → Prop} {Q : β → Prop}

/-- What is drawn has a property, whatever the numbers are. -/
def Yields (drawn : Draw α) (P : α → Prop) : Prop := ∀ random, P (drawn.run random).1

theorem yields_pure {value : α} (holds : P value) : Yields (pure value) P := fun _ => holds

theorem Yields.bind {drawn : Draw α} {next : α → Draw β} (yields : Yields drawn P)
    (further : ∀ value, P value → Yields (next value) Q) : Yields (drawn >>= next) Q :=
  fun random => further _ (yields random) _

theorem yields_bind {drawn : Draw α} {next : α → Draw β} (further : ∀ value, Yields (next value) Q) :
    Yields (drawn >>= next) Q :=
  fun _ => further _ _

theorem Yields.mono {drawn : Draw α} {R : α → Prop} (yields : Yields drawn P)
    (weaker : ∀ value, P value → R value) : Yields drawn R :=
  fun random => weaker _ (yields random)

theorem yields_mapM (items : List α) {make : α → Draw β} {R : α → β → Prop}
    (yields : ∀ item, Yields (make item) (R item)) : Yields (items.mapM make) (List.Forall₂ R items) := by
  induction items with
  | nil => exact yields_pure .nil
  | cons item rest ih =>
    rw [List.mapM_cons]
    exact (yields item).bind fun _ first => ih.bind fun _ others => yields_pure (.cons first others)

theorem below_yields {bound : Nat} (positive : 0 < bound) : Yields (below bound) (· < bound) := by
  unfold below
  split
  next => exact yields_pure positive
  next => exact yields_bind fun _ => yields_pure (Nat.mod_lt _ positive)

end Yields

section Related

variable {α β γ : Type} {R : α → β → Prop} {items : List α} {values : List β}

theorem map_eq_of_forall₂ {ofItem : α → γ} {ofValue : β → γ} (related : List.Forall₂ R items values)
    (same : ∀ item value, R item value → ofValue value = ofItem item) :
    values.map ofValue = items.map ofItem := by
  induction related with
  | nil => rfl
  | cons first _ ih => rw [List.map_cons, List.map_cons, same _ _ first, ih]

theorem exists_of_mem_right (related : List.Forall₂ R items values) {value : β} (member : value ∈ values) :
    ∃ item ∈ items, R item value := by
  induction related with
  | nil => cases member
  | cons first _ ih =>
    rcases List.mem_cons.1 member with rfl | later
    · exact ⟨_, List.mem_cons_self, first⟩
    · obtain ⟨item, earlier, holds⟩ := ih later
      exact ⟨item, List.mem_cons_of_mem _ earlier, holds⟩

end Related

def numberAtEnd (name : String) : Nat := digitsValue (name.toList.rtakeWhile (· ≠ '_')) 0

def numberInside (name : String) : Nat :=
  digitsValue (((name.toList.dropWhile (· ≠ '_')).drop 1).takeWhile (· ≠ '_')) 0

theorem ne_underscore_of_isDigit {c : Char} (digit : isDigit c = true) : c ≠ '_' := by
  rintro rfl
  exact absurd digit (by decide)

theorem takeWhile_digits {digits : List Char} (areDigits : ∀ c ∈ digits, isDigit c = true)
    (rest : List Char) : (digits ++ '_' :: rest).takeWhile (· ≠ '_') = digits := by
  have noneInside : ∀ c ∈ digits, decide (c ≠ '_') = true :=
    fun c member => decide_eq_true (ne_underscore_of_isDigit (areDigits c member))
  rw [List.takeWhile_append_of_pos noneInside, List.takeWhile_cons_of_neg (by decide), List.append_nil]

theorem numberAtEnd_append (front : String) (n : Nat) : numberAtEnd (front ++ "_" ++ numeral n) = n := by
  -- The name is read from its end, where the digits stand in reverse.
  have turned : (front ++ "_" ++ numeral n).toList.reverse =
      (digitsOf n).reverse ++ '_' :: front.toList.reverse := by
    simp [numeral]
  have areDigits : ∀ c ∈ (digitsOf n).reverse, isDigit c = true :=
    fun c member => isDigit_of_mem_digitsOf (List.mem_reverse.1 member)
  rw [numberAtEnd, List.rtakeWhile, turned, takeWhile_digits areDigits, List.reverse_reverse,
    digitsValue_digitsOf]

theorem numberInside_append (width n : Nat) (rest : String) :
    numberInside ("file_" ++ String.ofList (paddedDigits width n) ++ "_" ++ rest) = n := by
  have isName : ("file_" ++ String.ofList (paddedDigits width n) ++ "_" ++ rest).toList =
      "file_".toList ++ (paddedDigits width n ++ '_' :: rest.toList) := by simp
  have behindFirst : ("file_".toList ++ (paddedDigits width n ++ '_' :: rest.toList)).dropWhile (· ≠ '_') =
    '_' :: (paddedDigits width n ++ '_' :: rest.toList) := rfl
  rw [numberInside, isName, behindFirst, List.drop_one, List.tail_cons,
    takeWhile_digits fun c => isDigit_of_mem_paddedDigits, digitsValue_paddedDigits]

def projectAddress (index : Nat) : String := "https://" ++ slug (projectName index) ++ ".example.org/"

theorem makeProject_yields (index : Nat) :
    Yields (makeProject index) fun project => project.masterUrl = projectAddress index :=
  fun _ => rfl

structure IsMadeTask (project : Project) (number : Nat) (task : Task) : Prop where
  projectUrl : task.projectUrl = project.masterUrl
  number : numberAtEnd task.name = number
  active : task.active = true ↔ task.state = .running

theorem makeTask_yields (project : Project) (index : Nat) :
    Yields (makeTask project index) (IsMadeTask project index) := by
  unfold makeTask
  refine yields_bind fun appName => yields_bind fun state => yields_bind fun fractionDone => ?_
  refine yields_bind fun elapsed => ?_
  dsimp only
  -- The time that remains is computed or drawn, which makes no difference here.
  split <;> repeat refine yields_bind fun _ => ?_
  all_goals exact yields_pure ⟨rfl, numberAtEnd_append _ index, decide_eq_true_iff⟩

theorem makeTransfer_yields (project : Project) (index : Nat) :
    Yields (makeTransfer project index) fun transfer =>
      transfer.projectUrl = project.masterUrl ∧ numberInside transfer.fileName = index := by
  unfold makeTransfer
  refine yields_bind fun totalBytes => yields_bind fun direction => yields_bind fun number => ?_
  refine yields_bind fun bytesDone => yields_bind fun elapsed => yields_bind fun rate => ?_
  refine yields_bind fun idle => yields_pure ⟨rfl, ?_⟩
  dsimp only
  rw [String.append_assoc]
  exact numberInside_append 4 index _

/-- As many blocks of numbers as asked for, one after the other. -/
theorem flatten_blocks (count width : Nat) :
    ((List.range count).map fun block => (List.range width).map (block * width + ·)).flatten =
      List.range (count * width) := by
  induction count with
  | zero => simp
  | succ count ih =>
    rw [List.range_succ, List.map_append, List.flatten_append, ih, Nat.succ_mul, List.range_add]
    simp

/-- A state that is made up: which numbers its parts were made with, and whose they are. -/
structure IsMadeState (projectCount tasksPerProject transferCount : Nat) (state : State) : Prop where
  addresses : state.projects.map (·.masterUrl) = (List.range projectCount).map projectAddress
  taskNumbers : state.tasks.map (numberAtEnd ·.name) = List.range (projectCount * tasksPerProject)
  taskOwners : ∀ task ∈ state.tasks, task.projectUrl ∈ state.projects.map (·.masterUrl)
  active : ∀ task ∈ state.tasks, task.active = true ↔ task.state = .running
  transferNumbers : state.transfers.map (numberInside ·.fileName) =
    List.range (if projectCount = 0 then 0 else transferCount)
  transferOwners : ∀ transfer ∈ state.transfers, transfer.projectUrl ∈ state.projects.map (·.masterUrl)

def IsMadeBlock (width : Nat) (entry : Project × Nat) (block : List Task) : Prop :=
  List.Forall₂ (fun index => IsMadeTask entry.1 (entry.2 * width + index)) (List.range width) block

theorem makeBlock_yields (width : Nat) (entry : Project × Nat) :
    Yields ((List.range width).mapM fun index => makeTask entry.1 (entry.2 * width + index))
      (IsMadeBlock width entry) :=
  yields_mapM _ fun _ => makeTask_yields entry.1 _

section Blocks

variable {projects : List Project} {width : Nat} {blocks : List (List Task)}

theorem taskNumbers_of_blocks (made : List.Forall₂ (IsMadeBlock width) projects.zipIdx blocks) :
    blocks.flatten.map (numberAtEnd ·.name) = List.range (projects.length * width) := by
  have positions : List.range projects.length = projects.zipIdx.map Prod.snd := by
    rw [List.zipIdx_map_snd, List.range_eq_range']
  have blockNumbers : blocks.map (·.map (numberAtEnd ·.name)) =
      projects.zipIdx.map fun entry => (List.range width).map (entry.2 * width + ·) :=
    map_eq_of_forall₂ made fun _ _ block => map_eq_of_forall₂ block fun _ _ madeTask => madeTask.number
  rw [List.map_flatten, blockNumbers, ← flatten_blocks, positions, List.map_map]
  rfl

theorem exists_of_mem_blocks (made : List.Forall₂ (IsMadeBlock width) projects.zipIdx blocks) {task : Task}
    (member : task ∈ blocks.flatten) :
    ∃ project ∈ projects, ∃ number, IsMadeTask project number task := by
  obtain ⟨block, isBlock, inBlock⟩ := List.mem_flatten.1 member
  obtain ⟨entry, isEntry, madeBlock⟩ := exists_of_mem_right made isBlock
  obtain ⟨index, -, madeTask⟩ := exists_of_mem_right madeBlock inBlock
  exact ⟨entry.1, List.fst_mem_of_mem_zipIdx isEntry, _, madeTask⟩

end Blocks

namespace IsMadeState

variable {projectCount tasksPerProject transferCount : Nat} {state : State}

theorem projects_length (made : IsMadeState projectCount tasksPerProject transferCount state) :
    state.projects.length = projectCount := by
  rw [← List.length_map (·.masterUrl), made.addresses, List.length_map, List.length_range]

theorem tasks_length (made : IsMadeState projectCount tasksPerProject transferCount state) :
    state.tasks.length = projectCount * tasksPerProject := by
  rw [← List.length_map (numberAtEnd ·.name), made.taskNumbers, List.length_range]

theorem transfers_length (made : IsMadeState projectCount tasksPerProject transferCount state) :
    state.transfers.length = if projectCount = 0 then 0 else transferCount := by
  rw [← List.length_map (numberInside ·.fileName), made.transferNumbers, List.length_range]

end IsMadeState

theorem isMadeState_of_parts {projectCount tasksPerProject transferCount : Nat} {projects : List Project}
    {blocks : List (List Task)} {transfers : List Transfer}
    (madeProjects : List.Forall₂ (fun index project => project.masterUrl = projectAddress index)
      (List.range projectCount) projects)
    (madeBlocks : List.Forall₂ (IsMadeBlock tasksPerProject) projects.zipIdx blocks)
    (numbers : transfers.map (numberInside ·.fileName) =
      List.range (if projectCount = 0 then 0 else transferCount))
    (owners : ∀ transfer ∈ transfers, ∃ project ∈ projects, transfer.projectUrl = project.masterUrl) :
    IsMadeState projectCount tasksPerProject transferCount
      { projects, tasks := blocks.flatten, transfers } where
  addresses := map_eq_of_forall₂ madeProjects fun _ _ => id
  taskNumbers := by
    rw [taskNumbers_of_blocks madeBlocks, ← madeProjects.length_eq, List.length_range]
  taskOwners task member := by
    obtain ⟨project, isProject, _, made⟩ := exists_of_mem_blocks madeBlocks member
    exact made.projectUrl ▸ List.mem_map_of_mem isProject
  active task member := by
    obtain ⟨_, _, _, made⟩ := exists_of_mem_blocks madeBlocks member
    exact made.active
  transferNumbers := numbers
  transferOwners transfer member := by
    obtain ⟨project, isProject, url⟩ := owners transfer member
    exact url ▸ List.mem_map_of_mem isProject

theorem makeState_yields (projectCount tasksPerProject transferCount : Nat) :
    Yields (makeState projectCount tasksPerProject transferCount)
      (IsMadeState projectCount tasksPerProject transferCount) := by
  unfold makeState
  refine (yields_mapM _ makeProject_yields).bind fun projects madeProjects => ?_
  refine (yields_mapM _ (makeBlock_yields tasksPerProject)).bind fun blocks madeBlocks => ?_
  have length : projects.length = projectCount := by
    rw [← madeProjects.length_eq, List.length_range]
  dsimp only
  -- Transfers go round the projects; without projects there are none.
  split
  next empty =>
    have none : projectCount = 0 := by rw [← length, List.isEmpty_iff.1 empty, List.length_nil]
    refine (yields_pure (P := (· = [])) rfl).bind fun transfers isNil =>
      yields_pure (isMadeState_of_parts madeProjects madeBlocks ?_ ?_)
    · rw [isNil, if_pos none, List.map_nil, List.range_zero]
    · rw [isNil]
      exact fun _ member => nomatch member
  next nonempty =>
    have positive : 0 < projects.length := List.length_pos_iff.2 fun isNil => nonempty (isNil ▸ rfl)
    refine (yields_mapM _ fun index => makeTransfer_yields _ index).bind fun transfers made =>
      yields_pure (isMadeState_of_parts madeProjects madeBlocks ?_ ?_)
    · rw [if_neg (by omega)]
      simpa using map_eq_of_forall₂ made fun _ _ madeTransfer => madeTransfer.2
    · intro transfer member
      obtain ⟨index, -, madeTransfer⟩ := exists_of_mem_right made member
      have inside := Nat.mod_lt index positive
      refine ⟨projects[index % projects.length], List.getElem_mem inside, ?_⟩
      rw [madeTransfer.1, List.getD_eq_getElem _ _ inside]

end ComputeMonitor.Simulation
