import ComputeMonitor.Text.Blank
import Mathlib.Data.List.DropRight

/-!
Trimming and cutting: a text that begins and ends without a blank stays when it is trimmed, and with it every
trimmed text; a text without a mark stays when it is cut at this mark, and the part before the first mark is
the first part; what leads a text, or ends it, is dropped from exactly the texts that are made with it.
-/

set_option autoImplicit false

namespace ComputeMonitor.Text

section Ends

variable {start ending : List Char} (startNoBlank : ∀ c ∈ start, isBlank c = false) (startNonempty : start ≠ [])
  (endingNoBlank : ∀ c ∈ ending, isBlank c = false) (endingNonempty : ending ≠ [])

include startNoBlank startNonempty in
theorem dropWhile_isBlank_append (rest : List Char) : (start ++ rest).dropWhile isBlank = start ++ rest := by
  obtain ⟨first, others, rfl⟩ := List.exists_cons_of_ne_nil startNonempty
  have notBlank : ¬ isBlank first = true := Bool.eq_false_iff.1 (startNoBlank first List.mem_cons_self)
  rw [List.cons_append, List.dropWhile_cons_of_neg notBlank]

include endingNoBlank endingNonempty in
theorem trimEndChars_append (before : List Char) : trimEndChars (before ++ ending) = before ++ ending := by
  have noBlank : ∀ c ∈ ending.reverse, isBlank c = false :=
    fun c member => endingNoBlank c (List.mem_reverse.1 member)
  have nonempty : ending.reverse ≠ [] := fun empty => endingNonempty (List.reverse_eq_nil_iff.1 empty)
  rw [trimEndChars, dropEndWhile, List.reverse_append, dropWhile_isBlank_append noBlank nonempty,
    ← List.reverse_append, List.reverse_reverse]

include startNoBlank startNonempty endingNoBlank endingNonempty in
theorem trimChars_append_append (middle : List Char) :
    trimChars (start ++ middle ++ ending) = start ++ middle ++ ending := by
  rw [trimChars, trimStartChars, List.append_assoc, dropWhile_isBlank_append startNoBlank startNonempty,
    ← List.append_assoc, trimEndChars_append endingNoBlank endingNonempty]

end Ends

section NoBlank

variable {chars : List Char} (noBlank : ∀ c ∈ chars, isBlank c = false)

include noBlank

theorem trimEndChars_of_no_blank : trimEndChars chars = chars := by
  cases chars with
  | nil => rfl
  | cons c rest => exact trimEndChars_append noBlank (List.cons_ne_nil c rest) []

theorem trimChars_of_no_blank : trimChars chars = chars := by
  cases chars with
  | nil => rfl
  | cons c rest =>
    have kept := dropWhile_isBlank_append noBlank (List.cons_ne_nil c rest) []
    rw [List.append_nil] at kept
    rw [trimChars, trimStartChars, kept, trimEndChars_of_no_blank noBlank]

end NoBlank

/-- A text that begins without a blank still does so when something of its end is taken away. -/
theorem trimStartChars_dropEndWhile (test : Char → Bool) (chars : List Char) :
    trimStartChars (dropEndWhile test (trimStartChars chars)) = dropEndWhile test (trimStartChars chars) := by
  obtain ⟨behind, whole⟩ : dropEndWhile test (trimStartChars chars) <+: trimStartChars chars :=
    List.rdropWhile_prefix test _
  have first := List.head?_dropWhile_not isBlank chars
  rw [← trimStartChars, ← whole] at first
  cases left : dropEndWhile test (trimStartChars chars) with
  | nil => rfl
  | cons c rest =>
    rw [left] at first
    exact List.dropWhile_cons_of_neg (Bool.eq_false_iff.1 first)

theorem trimChars_trimChars (chars : List Char) : trimChars (trimChars chars) = trimChars chars := by
  unfold trimChars trimEndChars
  rw [trimStartChars_dropEndWhile]
  exact List.rdropWhile_idempotent isBlank _

theorem trim_trim (text : String) : trim (trim text) = trim text := by
  rw [trim, trim, String.toList_ofList, trimChars_trimChars]

theorem dropLeading?_append (leading rest : List Char) : dropLeading? leading (leading ++ rest) = some rest := by
  induction leading with
  | nil => rfl
  | cons c leading ih => rwa [List.cons_append, dropLeading?, if_pos rfl]

theorem dropLeading?_eq_some_iff {leading chars rest : List Char} :
    dropLeading? leading chars = some rest ↔ chars = leading ++ rest := by
  constructor
  · exact dropLeading?_eq_some
  · rintro rfl
    exact dropLeading?_append leading rest

theorem dropTrailing?_eq_some_iff {closing chars rest : List Char} :
    dropTrailing? closing chars = some rest ↔ chars = rest ++ closing := by
  -- The end of a text is the beginning of the text in reverse.
  simp only [dropTrailing?, Option.map_eq_some_iff, dropLeading?_eq_some_iff]
  constructor
  · rintro ⟨turned, isTurned, rfl⟩
    rw [← List.reverse_reverse chars, isTurned, List.reverse_append, List.reverse_reverse]
  · rintro rfl
    exact ⟨rest.reverse, List.reverse_append, List.reverse_reverse rest⟩

theorem eq_of_append_mark {mark : Char} {before other rest otherRest : List Char} (absent : mark ∉ before)
    (otherAbsent : mark ∉ other) (same : before ++ mark :: rest = other ++ mark :: otherRest) : before = other := by
  have beforeMark {part : List Char} (absent : mark ∉ part) (rest : List Char) :
      (part ++ mark :: rest).takeWhile (· ≠ mark) = part := by
    have noneIsMark : ∀ c ∈ part, decide (c ≠ mark) = true :=
      fun c member => decide_eq_true fun isMark => absent (isMark ▸ member)
    rw [List.takeWhile_append_of_pos noneIsMark, List.takeWhile_cons, if_neg (by simp), List.append_nil]
  calc before
    _ = (before ++ mark :: rest).takeWhile (· ≠ mark) := (beforeMark absent rest).symm
    _ = (other ++ mark :: otherRest).takeWhile (· ≠ mark) := congrArg _ same
    _ = other := beforeMark otherAbsent otherRest

theorem splitFirst?_eq_none {mark : Char} {chars : List Char} (absent : mark ∉ chars) :
    splitFirst? mark chars = none := by
  cases found : splitFirst? mark chars with
  | none => rfl
  | some parts =>
    obtain ⟨rfl, -⟩ := splitFirst?_eq_some found
    exact absurd (List.mem_append_right _ List.mem_cons_self) absent

theorem splitAll_of_absent {mark : Char} {chars : List Char} (absent : mark ∉ chars) :
    splitAll mark chars = [chars] := by
  induction chars with
  | nil => rfl
  | cons c rest ih =>
    rw [splitAll, if_neg (Ne.symm (List.ne_of_not_mem_cons absent)), ih (List.not_mem_of_not_mem_cons absent)]

theorem splitAll_append_mark {mark : Char} {part : List Char} (absent : mark ∉ part) (rest : List Char) :
    splitAll mark (part ++ mark :: rest) = part :: splitAll mark rest := by
  induction part with
  | nil => exact if_pos rfl
  | cons c part ih =>
    rw [List.cons_append, splitAll, if_neg (Ne.symm (List.ne_of_not_mem_cons absent)),
      ih (List.not_mem_of_not_mem_cons absent)]

end ComputeMonitor.Text
