import ComputeMonitor.Proofs.Simulation.FakeClient
import Mathlib.Data.List.Nodup

/-!
The projects, tasks and files that are made up can be told apart.

The host of a project is the letters of a name from a list, followed from the second round through the list on by
the number of the round. No name of the list has a digit, so that the first digit is where the number begins,
and both the name and the round can be read back. Tasks and files are told apart by the numbers in their names.
-/

set_option autoImplicit false

namespace ComputeMonitor.Simulation

open ComputeMonitor.Client
open ComputeMonitor.Text

section Hosts

theorem slug_append (left right : String) : slug (left ++ right) = slug left ++ slug right := by
  simp [slug]

theorem slug_numeral (n : Nat) : slug (numeral n) = numeral n := by
  have kept : ∀ digit < 10, slug.isAsciiLetterOrDigit (Char.ofNat ('0'.toNat + digit)) = true ∧
      (Char.ofNat ('0'.toNat + digit)).toLower = Char.ofNat ('0'.toNat + digit) := by decide
  have keptDigit (c : Char) (member : c ∈ digitsOf n) : slug.isAsciiLetterOrDigit c = true ∧ c.toLower = c := by
    obtain ⟨digit, small, rfl⟩ := exists_digit_of_isDigit (isDigit_of_mem_digitsOf member)
    exact kept digit small
  have noneLost : (digitsOf n).filter slug.isAsciiLetterOrDigit = digitsOf n :=
    List.filter_eq_self.2 fun c member => (keptDigit c member).1
  have noneChanged : (digitsOf n).map Char.toLower = digitsOf n :=
    (List.map_congr_left fun c member => (keptDigit c member).2).trans (List.map_id _)
  unfold slug numeral
  rw [String.toList_ofList]
  exact congrArg String.ofList ((congrArg (List.map Char.toLower) noneLost).trans noneChanged)

def hostLetters (position : Nat) : List Char := (slug (projectNames.getD position "")).toList

/-- The part of a host that tells the round through the list; the first one is not told. -/
def hostDigits (round : Nat) : List Char := if round = 0 then [] else digitsOf (round + 1)

theorem slug_projectName (index : Nat) : (slug (projectName index)).toList =
    hostLetters (index % projectNames.length) ++ hostDigits (index / projectNames.length) := by
  unfold projectName hostLetters hostDigits
  dsimp only
  split
  next => rw [List.append_nil]
  next =>
    have noBlank : slug " " = "" := by decide
    rw [slug_append, slug_append, slug_numeral, noBlank, String.append_empty, String.toList_append, numeral,
      String.toList_ofList]

theorem isDigit_of_mem_hostDigits {round : Nat} {c : Char} (member : c ∈ hostDigits round) : isDigit c = true := by
  unfold hostDigits at member
  split at member
  · cases member
  · exact isDigit_of_mem_digitsOf member

theorem digitsValue_hostDigits (round : Nat) :
    digitsValue (hostDigits round) 0 = if round = 0 then 0 else round + 1 := by
  unfold hostDigits
  split
  · rfl
  · exact digitsValue_digitsOf (round + 1)

theorem hostDigits_injective : Function.Injective hostDigits := by
  intro round other same
  have values := congrArg (digitsValue · 0) same
  simp only [digitsValue_hostDigits] at values
  split at values <;> split at values <;> omega

theorem hostLetters_noDigit {position : Nat} (inside : position < projectNames.length) :
    ∀ c ∈ hostLetters position, isDigit c = false := by
  have everywhere : ∀ position < projectNames.length, (hostLetters position).all (!isDigit ·) = true := by
    decide +kernel
  simpa using List.all_eq_true.1 (everywhere position inside)

theorem hostLetters_injective : ∀ position < projectNames.length, ∀ other < projectNames.length,
    hostLetters position = hostLetters other → position = other := by
  decide +kernel

/-- What has no digit and what has nothing else can be told apart when one follows the other. -/
theorem eq_of_letters_digits {letters others digits numbers : List Char}
    (noDigit : ∀ c ∈ letters, isDigit c = false) (noDigitToo : ∀ c ∈ others, isDigit c = false)
    (areDigits : ∀ c ∈ digits, isDigit c = true) (areDigitsToo : ∀ c ∈ numbers, isDigit c = true)
    (same : letters ++ digits = others ++ numbers) : letters = others ∧ digits = numbers := by
  have onlyDigits {front back : List Char} (noDigit : ∀ c ∈ front, isDigit c = false)
      (areDigits : ∀ c ∈ back, isDigit c = true) : (front ++ back).filter isDigit = back := by
    rw [List.filter_append, List.filter_eq_nil_iff.2 fun c member => Bool.eq_false_iff.1 (noDigit c member),
      List.filter_eq_self.2 areDigits, List.nil_append]
  have sameDigits : digits = numbers := by
    rw [← onlyDigits noDigit areDigits, same, onlyDigits noDigitToo areDigitsToo]
  rw [sameDigits] at same
  exact ⟨List.append_cancel_right same, sameDigits⟩

theorem projectAddress_injective : Function.Injective projectAddress := by
  intro index other same
  have sameHost : (slug (projectName index)).toList = (slug (projectName other)).toList := by
    have chars := congrArg String.toList same
    simp only [projectAddress, String.toList_append] at chars
    exact List.append_cancel_left (List.append_cancel_right chars)
  rw [slug_projectName, slug_projectName] at sameHost
  have inside (index : Nat) : index % projectNames.length < projectNames.length := Nat.mod_lt _ (by decide)
  have ⟨letters, digits⟩ := eq_of_letters_digits (hostLetters_noDigit (inside index))
    (hostLetters_noDigit (inside other)) (fun _ => isDigit_of_mem_hostDigits)
    (fun _ => isDigit_of_mem_hostDigits) sameHost
  have position := hostLetters_injective _ (inside index) _ (inside other) letters
  have round := hostDigits_injective digits
  calc index
    _ = projectNames.length * (index / projectNames.length) + index % projectNames.length :=
      (Nat.div_add_mod _ _).symm
    _ = projectNames.length * (other / projectNames.length) + other % projectNames.length := by
      rw [position, round]
    _ = other := Nat.div_add_mod _ _

end Hosts

/-- Whatever the state of the random numbers, as it comes from a seed or from drawing before: as many projects,
tasks and transfers are made up as asked for, but no transfers without projects; no two projects share an
address, no two tasks their project and name, no two transfers their project and file; and all tasks and
transfers belong to one of the projects. -/
theorem makeState_tells_apart (projectCount tasksPerProject transferCount : Nat) (random : Random) :
    let state := ((makeState projectCount tasksPerProject transferCount).run random).1
    (state.projects.length = projectCount ∧ (state.projects.map (·.masterUrl)).Nodup) ∧
    (state.tasks.length = projectCount * tasksPerProject ∧
      (state.tasks.map fun task => (task.projectUrl, task.name)).Nodup) ∧
    (state.transfers.length = (if projectCount = 0 then 0 else transferCount) ∧
      (state.transfers.map fun transfer => (transfer.projectUrl, transfer.fileName)).Nodup) ∧
    (∀ task ∈ state.tasks, ∃ project ∈ state.projects, project.masterUrl = task.projectUrl) ∧
    ∀ transfer ∈ state.transfers, ∃ project ∈ state.projects, project.masterUrl = transfer.projectUrl := by
  intro state
  have made : IsMadeState projectCount tasksPerProject transferCount state :=
    makeState_yields projectCount tasksPerProject transferCount random
  refine ⟨⟨made.projects_length, ?_⟩, ⟨made.tasks_length, ?_⟩, ⟨made.transfers_length, ?_⟩,
    fun task member => List.mem_map.1 (made.taskOwners task member),
    fun transfer member => List.mem_map.1 (made.transferOwners transfer member)⟩
  · rw [made.addresses]
    exact List.nodup_range.map projectAddress_injective
  -- The numbers in the names are all different, so the names are, whatever else is in them.
  · apply List.Nodup.of_map (numberAtEnd ·.2)
    rw [List.map_map]
    exact made.taskNumbers ▸ List.nodup_range
  · apply List.Nodup.of_map (numberInside ·.2)
    rw [List.map_map]
    exact made.transferNumbers ▸ List.nodup_range

end ComputeMonitor.Simulation
