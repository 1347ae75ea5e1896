import ComputeMonitor.Proofs.Table.Layout

/-!
Pairs of texts keep layouts up to normal form.

Keys are plain texts with the name of the table in front, so that the names of tables and columns, points and
the reserved names could be taken for each other. They are not: whatever stands among the pairs of a layout and
belongs to another table changes nothing, and the order of the pairs does not either. What is read of any pairs
is in normal form already, so that it is kept as it is from then on.
-/

set_option autoImplicit false

namespace ComputeMonitor.Table.Layout

open ComputeMonitor.Text

variable {table : String}

theorem entryName?_eq_none_iff {key : String} :
    entryName? table key = none ↔ ∀ name, key ≠ table ++ "." ++ name := by
  rw [Option.eq_none_iff_forall_ne_some]
  simp only [entryName?, ne_eq, dropLeading?_eq_some_iff]
  constructor
  · rintro apart name rfl
    exact apart name.toList (by simp)
  · intro apart rest same
    apply apart (String.ofList rest)
    apply String.toList_inj.1
    simp [same]

theorem namedColumn?_eq_some_iff {written column : String} :
    namedColumn? written = some column ↔ trim written = column ∧ column ≠ "" := by
  simp only [namedColumn?, Option.ite_none_left_eq_some, String.isEmpty_iff, Option.some.injEq]
  constructor
  · rintro ⟨nonempty, rfl⟩
    exact ⟨rfl, nonempty⟩
  · rintro ⟨rfl, nonempty⟩
    exact ⟨nonempty, rfl⟩

theorem bind_namedColumn? (written : String) : (namedColumn? written).bind namedColumn? = namedColumn? written := by
  refine Option.ext fun column => ?_
  simp only [Option.bind_eq_some_iff, namedColumn?_eq_some_iff]
  constructor
  · rintro ⟨_, ⟨rfl, -⟩, same, nonempty⟩
    exact ⟨(trim_trim written).symm.trans same, nonempty⟩
  · rintro ⟨rfl, nonempty⟩
    exact ⟨_, ⟨rfl, nonempty⟩, trim_trim written, nonempty⟩

section Normal

theorem normalized_sortColumn (layout : Layout) (column : String) : layout.normalized.sortColumn = some column ↔
    ∃ written, layout.sortColumn = some written ∧ trim written = column ∧ column ≠ "" := by
  simp only [normalized, Option.bind_eq_some_iff, namedColumn?_eq_some_iff]

theorem normalized_eq_self_iff {layout : Layout} : layout.normalized = layout ↔
    layout.sortColumn.bind namedColumn? = layout.sortColumn ∧ layout.widths.withoutUnnamed = layout.widths := by
  cases layout
  simp [normalized]

theorem withoutUnnamed_insert {widths : Widths} (named : widths.withoutUnnamed = widths) {id : String}
    (isNamed : id ≠ "") (width : UInt16) : (widths.insert id width).withoutUnnamed = widths.insert id width := by
  refine Widths.ext_get? fun other => ?_
  rw [Widths.get?_withoutUnnamed, Widths.get?_insert]
  split
  next unnamed => rw [if_neg (unnamed ▸ isNamed.symm), ← named, Widths.get?_withoutUnnamed, if_pos unnamed]
  next => rfl

variable {layout : Layout} (normal : layout.normalized = layout)
include normal

/-- What an entry adds to a layout in normal form leaves it so, for the reader trims the column and refuses a
width without a name. -/
theorem normalized_setEntry (name : List Char) (value : String) :
    (layout.setEntry name value).normalized = layout.setEntry name value := by
  have ⟨column, named⟩ := normalized_eq_self_iff.1 normal
  unfold setEntry
  -- The cases are those of the reader: the column, the direction, a width, and what is passed over.
  split
  · rw [normalized_eq_self_iff]
    dsimp only
    exact ⟨bind_namedColumn? value, named⟩
  · split
    · split
      · exact normalized_eq_self_iff.2 ⟨column, named⟩
      · exact normal
    · split
      · split
        · refine normalized_eq_self_iff.2 ⟨column, withoutUnnamed_insert named ?_ _⟩
          intro empty
          simpa using congrArg String.toList empty
        · exact normal
      · exact normal

theorem normalized_setPair (pair : String × String) :
    (setPair table layout pair).normalized = setPair table layout pair := by
  unfold setPair
  split
  · exact normalized_setEntry normal _ pair.2
  · exact normal

end Normal

theorem normalized_ofPairs (table : String) (pairs : List (String × String)) :
    (ofPairs table pairs).normalized = ofPairs table pairs :=
  List.foldlRecOn (motive := fun layout : Layout => layout.normalized = layout) pairs (setPair table) rfl
    fun _ normal pair _ => normalized_setPair normal pair

theorem ofPairs_toPairs (table : String) (layout : Layout) :
    ofPairs table (layout.toPairs table) = layout.normalized :=
  ofPairs_eq_normalized (fun _ => .inl) (List.Subset.refl _)

/-- The pairs of a layout, in any order and with any pairs of other tables among them, are read back as the
layout in normal form: the direction as it is, the sort column without blanks around it or none if nothing is
left, and all widths but that of the column without a name. What is read of any pairs whatsoever is read
again when it is written. -/
theorem ofPairs_of_rearranged (table : String) (layout : Layout) (others pairs : List (String × String))
    (foreign : ∀ pair ∈ others, ∀ name, pair.1 ≠ table ++ "." ++ name)
    (rearranged : pairs.Perm (layout.toPairs table ++ others)) :
    ofPairs table pairs = layout.normalized ∧
      (layout.normalized.direction = layout.direction ∧
        (∀ column, layout.normalized.sortColumn = some column ↔
          ∃ written, layout.sortColumn = some written ∧ trim written = column ∧ column ≠ "") ∧
        ∀ id, layout.normalized.widths.get? id = if id = "" then none else layout.widths.get? id) ∧
      ∀ anyPairs, ofPairs table ((ofPairs table anyPairs).toPairs table) = ofPairs table anyPairs := by
  have own (pair : String × String) (member : pair ∈ pairs) :
      pair ∈ layout.toPairs table ∨ entryName? table pair.1 = none := by
    rcases List.mem_append.1 (rearranged.mem_iff.1 member) with isOwn | isOther
    · exact .inl isOwn
    · exact .inr (entryName?_eq_none_iff.2 (foreign pair isOther))
  have all : layout.toPairs table ⊆ pairs :=
    fun pair isOwn => rearranged.mem_iff.2 (List.mem_append_left others isOwn)
  refine ⟨ofPairs_eq_normalized own all, ⟨rfl, layout.normalized_sortColumn, ?_⟩, fun anyPairs => ?_⟩
  · exact layout.widths.get?_withoutUnnamed
  · rw [ofPairs_toPairs, normalized_ofPairs]

section Scattered

/-- A layout whose columns are named like entries, or not at all. -/
def crowdedLayout : Layout where
  sortColumn := some "\u3000width. "
  direction := .descending
  widths := ((Widths.empty.insert "" 3).insert "sort_column" 65535).insert "width." 0

/-- Pairs of tables whose names only begin or end like that of the tasks, or differ from it in a letter. -/
def otherPairs : List (String × String) :=
  [("tasksx.sort_column", "name"), ("tasks", "asc"), ("Tasks.sort_direction", "asc")]

def scatteredPairs : List (String × String) :=
  [("tasksx.sort_column", "name"), ("tasks.width.width.", "0"), ("tasks.width.", "3"), ("tasks", "asc"),
   ("tasks.sort_direction", "desc"), ("tasks.width.sort_column", "65535"),
   ("tasks.sort_column", "\u3000width. "), ("Tasks.sort_direction", "asc")]

theorem ofPairs_scatteredPairs :
    (∀ pair ∈ otherPairs, ∀ name, pair.1 ≠ "tasks" ++ "." ++ name) ∧
      scatteredPairs.Perm (crowdedLayout.toPairs "tasks" ++ otherPairs) ∧
      ofPairs "tasks" scatteredPairs =
        ⟨some "width.", .descending, (Widths.empty.insert "sort_column" 65535).insert "width." 0⟩ := by
  have unread : ∀ pair ∈ otherPairs, entryName? "tasks" pair.1 = none := by decide
  have foreign : ∀ pair ∈ otherPairs, ∀ name, pair.1 ≠ "tasks" ++ "." ++ name :=
    fun pair member => entryName?_eq_none_iff.1 (unread pair member)
  have rearranged : scatteredPairs.Perm (crowdedLayout.toPairs "tasks" ++ otherPairs) := by decide +kernel
  have read := (ofPairs_of_rearranged "tasks" crowdedLayout otherPairs scatteredPairs foreign rearranged).1
  have normal : crowdedLayout.normalized =
      ⟨some "width.", .descending, (Widths.empty.insert "sort_column" 65535).insert "width." 0⟩ := by
    decide +kernel
  exact ⟨foreign, rearranged, read.trans normal⟩

end Scattered

end ComputeMonitor.Table.Layout
