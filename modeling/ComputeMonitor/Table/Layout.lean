import ComputeMonitor.Cell.Order
import ComputeMonitor.Table.Column

/-!
Stored layouts of a table: the column it is sorted by, the direction, and the widths of columns.
Columns are named and never counted, so that a layout survives a change of the columns.

A layout is kept as pairs of texts, all keys beginning with the table's name and a point. Reading
the pairs back ignores keys of other tables and values that cannot be read; a later pair
overrides an earlier one.
-/

set_option autoImplicit false

namespace ComputeMonitor.Table

open ComputeMonitor.Cell (Direction)
open ComputeMonitor.Text

/-- Widths by column name, in the order of the names. -/
structure Widths where
  entries : List (String × UInt16)
  sorted : entries.Pairwise (fun left right => left.1 < right.1)

namespace Widths

instance : DecidableEq Widths := fun left right =>
  decidable_of_iff (left.entries = right.entries) (by cases left; cases right; simp)

def empty : Widths := ⟨[], .nil⟩

instance : Inhabited Widths := ⟨empty⟩

def insertEntry (id : String) (width : UInt16) : List (String × UInt16) → List (String × UInt16)
  | [] => [(id, width)]
  | entry :: rest =>
    if id < entry.1 then (id, width) :: entry :: rest
    else if id = entry.1 then (id, width) :: rest
    else entry :: insertEntry id width rest

theorem fst_mem_insertEntry {id : String} {width : UInt16} {entries : List (String × UInt16)}
    {entry : String × UInt16} (member : entry ∈ insertEntry id width entries) :
    entry.1 = id ∨ entry ∈ entries := by
  induction entries with
  | nil => simp [insertEntry] at member; simp [member]
  | cons head rest ih =>
    unfold insertEntry at member
    split at member
    · simp only [List.mem_cons] at member ⊢
      rcases member with rfl | rfl | member <;> simp [*]
    · split at member
      · simp only [List.mem_cons] at member ⊢
        rcases member with rfl | member <;> simp [*]
      · simp only [List.mem_cons] at member ⊢
        rcases member with rfl | member
        · simp
        · rcases ih member with equal | member <;> simp [*]

theorem insertEntry_sorted (id : String) (width : UInt16) (entries : List (String × UInt16))
    (sorted : entries.Pairwise (fun left right => left.1 < right.1)) :
    (insertEntry id width entries).Pairwise (fun left right => left.1 < right.1) := by
  induction entries with
  | nil => simp [insertEntry]
  | cons head rest ih =>
    have ⟨before, sortedRest⟩ := List.pairwise_cons.1 sorted
    unfold insertEntry
    split
    next less =>
      refine List.pairwise_cons.2 ⟨fun entry member => ?_, sorted⟩
      rcases List.mem_cons.1 member with rfl | member
      · exact less
      · exact String.lt_trans less (before entry member)
    next notLess =>
      split
      next equal =>
        exact List.pairwise_cons.2 ⟨fun entry member => by simpa [equal] using before entry member, sortedRest⟩
      next different =>
        refine List.pairwise_cons.2 ⟨fun entry member => ?_, ih sortedRest⟩
        rcases fst_mem_insertEntry member with same | member
        · rw [same]
          rcases Decidable.em (head.1 < id) with less | notGreater
          · exact less
          · exact absurd (String.le_antisymm notGreater notLess) different
        · exact before entry member

theorem lookup_insertEntry (id other : String) (width : UInt16) (entries : List (String × UInt16)) :
    (insertEntry id width entries).lookup other =
      if other = id then some width else entries.lookup other := by
  induction entries with
  | nil =>
    by_cases same : other = id
    · simp [insertEntry, same]
    · have apart : (other == id) = false := beq_eq_false_iff_ne.2 same
      simp [insertEntry, List.lookup_cons, apart, same]
  | cons head rest ih =>
    rcases head with ⟨headId, headWidth⟩
    by_cases same : other = id
    · subst other
      by_cases less : id < headId
      · simp [insertEntry, less]
      · by_cases equal : id = headId
        · simp [insertEntry, equal]
        · have apart : (id == headId) = false := beq_eq_false_iff_ne.2 equal
          simpa [insertEntry, less, equal, List.lookup_cons, apart] using ih
    · have apart : (other == id) = false := beq_eq_false_iff_ne.2 same
      by_cases less : id < headId
      · simp [insertEntry, less, List.lookup_cons, apart, same]
      · by_cases equal : id = headId
        · subst headId
          simp [insertEntry, List.lookup_cons, apart, same]
        · simp [insertEntry, less, equal, List.lookup_cons, same, ih]

def insert (widths : Widths) (id : String) (width : UInt16) : Widths :=
  ⟨insertEntry id width widths.entries, insertEntry_sorted id width widths.entries widths.sorted⟩

def get? (widths : Widths) (id : String) : Option UInt16 := widths.entries.lookup id

@[simp] theorem get?_insert (widths : Widths) (id other : String) (width : UInt16) :
    (widths.insert id width).get? other = if other = id then some width else widths.get? other :=
  lookup_insertEntry id other width widths.entries

end Widths

structure Layout where
  sortColumn : Option String := none
  direction : Direction := .ascending
  widths : Widths := .empty
  deriving DecidableEq, Inhabited

namespace Layout

def sortColumnName : String := "sort_column"

def sortDirectionName : String := "sort_direction"

def widthMark : String := "width."

def toPairs (table : String) (layout : Layout) : List (String × String) :=
  [(table ++ "." ++ sortColumnName, layout.sortColumn.getD ""),
   (table ++ "." ++ sortDirectionName, layout.direction.name)] ++
  layout.widths.entries.map fun (id, width) =>
    (table ++ "." ++ widthMark ++ id, numeral width.toNat)

/-- The name of an entry within a table, if the key belongs to the table. -/
def entryName? (table key : String) : Option (List Char) :=
  dropLeading? (table.toList ++ ['.']) key.toList

def setEntry (layout : Layout) (name : List Char) (value : String) : Layout :=
  if name = sortColumnName.toList then
    let column := trim value
    { layout with sortColumn := if column.isEmpty then none else some column }
  else if name = sortDirectionName.toList then
    match Direction.ofName? value with
    | some direction => { layout with direction }
    | none => layout
  else
    match dropLeading? widthMark.toList name with
    | some (c :: id) =>
      match readUInt16? (trimChars value.toList) with
      | some width =>
        { layout with widths := layout.widths.insert (String.ofList (c :: id)) (UInt16.ofNat width) }
      | none => layout
    | _ => layout

/-- Take one pair into a layout, unless it belongs to another table. -/
def setPair (table : String) (layout : Layout) (pair : String × String) : Layout :=
  match entryName? table pair.1 with
  | some name => layout.setEntry name pair.2
  | none => layout

def ofPairs (table : String) (pairs : List (String × String)) : Layout :=
  pairs.foldl (setPair table) {}

end Layout
end ComputeMonitor.Table
