import ComputeMonitor.Proofs.Text.Numeral
import ComputeMonitor.Table.Layout
import Mathlib.Data.List.Sort

/-!
Layouts are read back from their pairs.

Reading takes one pair after the other, each on top of what was read before. The pairs of one layout agree
with each other, so that their order does not matter, nor do pairs of other tables among them. What is lost
is what the reader refuses: blanks around the name of the sort column, and the width of a column without a
name.
-/

set_option autoImplicit false

namespace ComputeMonitor.Table

open ComputeMonitor.Cell (Direction)
open ComputeMonitor.Text

/-- What every input keeps once some input has settled it holds in the end. -/
theorem foldl_settles {State Input : Type} {step : State → Input → State} {inputs : List Input}
    {start : State} (Settled : State → Prop)
    (keeps : ∀ state, ∀ input ∈ inputs, Settled state → Settled (step state input))
    (settles : ∃ input ∈ inputs, ∀ state, Settled (step state input)) : Settled (inputs.foldl step start) := by
  obtain ⟨input, member, settled⟩ := settles
  obtain ⟨earlier, later, rfl⟩ := List.append_of_mem member
  rw [List.foldl_append, List.foldl_cons]
  refine List.foldlRecOn later step (settled _) fun state held input isLater => keeps state input ?_ held
  exact List.mem_append_right earlier (List.mem_cons_of_mem _ isLater)

namespace Widths

theorem mem_entries_iff {widths : Widths} {id : String} {width : UInt16} :
    (id, width) ∈ widths.entries ↔ widths.get? id = some width := by
  rw [get?, List.lookup_eq_some_iff]
  constructor
  · intro member
    obtain ⟨before, after, split⟩ := List.append_of_mem member
    have sorted := widths.sorted
    rw [split, List.pairwise_append] at sorted
    refine ⟨before, after, split, fun entry isBefore => ?_⟩
    have less := sorted.2.2 entry isBefore (id, width) List.mem_cons_self
    exact bne_iff_ne.2 fun same => String.lt_irrefl _ (same ▸ less)
  · rintro ⟨before, after, split, -⟩
    rw [split]
    exact List.mem_append_right before List.mem_cons_self

theorem ext_get? {left right : Widths} (same : ∀ id, left.get? id = right.get? id) : left = right := by
  have antisymm : Std.Antisymm fun left right : String × UInt16 => left.1 < right.1 :=
    ⟨fun _ _ less greater => (String.lt_irrefl _ (String.lt_trans less greater)).elim⟩
  have irrefl : Std.Irrefl fun left right : String × UInt16 => left.1 < right.1 :=
    ⟨fun _ => String.lt_irrefl _⟩
  have entries : left.entries = right.entries :=
    left.sorted.eq_of_mem_iff right.sorted fun ⟨id, width⟩ => by
      rw [mem_entries_iff, mem_entries_iff, same]
  cases left
  cases right
  simp only at entries
  subst entries
  rfl

def withoutUnnamed (widths : Widths) : Widths :=
  ⟨widths.entries.filter (·.1 ≠ ""), widths.sorted.filter _⟩

theorem get?_withoutUnnamed (widths : Widths) (id : String) :
    widths.withoutUnnamed.get? id = if id = "" then none else widths.get? id := by
  refine Option.ext fun width => ?_
  rw [← mem_entries_iff, withoutUnnamed, List.mem_filter, mem_entries_iff, decide_eq_true_iff]
  split
  next unnamed => simp [unnamed]
  next named => simp [named]

end Widths

namespace Layout

def namedColumn? (text : String) : Option String :=
  let column := trim text
  if column.isEmpty then none else some column

theorem namedColumn?_empty : namedColumn? "" = none := by decide

theorem namedColumn?_getD (column : Option String) : namedColumn? (column.getD "") = column.bind namedColumn? := by
  cases column with
  | none => exact namedColumn?_empty
  | some column => rw [Option.getD_some, Option.bind_some]

def normalized (layout : Layout) : Layout where
  sortColumn := layout.sortColumn.bind namedColumn?
  direction := layout.direction
  widths := layout.widths.withoutUnnamed

variable {table : String}

theorem entryName?_own (table name : String) : entryName? table (table ++ "." ++ name) = some name.toList := by
  rw [entryName?, String.toList_append, String.toList_append]
  exact dropLeading?_append _ _

theorem setPair_sortColumn (layout : Layout) (value : String) :
    setPair table layout (table ++ "." ++ sortColumnName, value) =
      { layout with sortColumn := namedColumn? value } := by
  rw [setPair, entryName?_own]
  rfl

theorem ofName?_name (direction : Direction) : Direction.ofName? direction.name = some direction := by
  cases direction <;> decide

theorem setPair_direction (layout : Layout) (direction : Direction) :
    setPair table layout (table ++ "." ++ sortDirectionName, direction.name) = { layout with direction } := by
  have apart : sortDirectionName.toList ≠ sortColumnName.toList := by decide
  rw [setPair, entryName?_own]
  dsimp only
  rw [setEntry, if_neg apart, if_pos rfl, ofName?_name]

theorem widthName_ne (id : String) : widthMark ++ id ≠ sortColumnName ∧ widthMark ++ id ≠ sortDirectionName := by
  have first : (widthMark ++ id).toList.head? = some 'w' := by
    rw [String.toList_append]
    rfl
  constructor
  all_goals
    intro same
    rw [same] at first
    exact absurd first (by decide)

theorem setPair_width (layout : Layout) (id : String) (width : UInt16) :
    setPair table layout (table ++ "." ++ widthMark ++ id, numeral width.toNat) =
      if id = "" then layout else { layout with widths := layout.widths.insert id width } := by
  have key : table ++ "." ++ widthMark ++ id = table ++ "." ++ (widthMark ++ id) := String.append_assoc
  have ⟨notColumn, notDirection⟩ := widthName_ne id
  rw [setPair, key, entryName?_own]
  dsimp only
  -- The name falls through to the widths, whose reader asks for at least one character of a column's name.
  rw [setEntry, if_neg (mt String.toList_inj.1 notColumn), if_neg (mt String.toList_inj.1 notDirection),
    String.toList_append, dropLeading?_append, readUInt16?_numeral]
  dsimp only
  rw [UInt16.ofNat_toNat]
  cases chars : id.toList with
  | nil => rw [if_pos (String.toList_eq_nil_iff.1 chars)]
  | cons c rest =>
    have named : id ≠ "" := fun empty => by simp [empty] at chars
    have same : String.ofList (c :: rest) = id := by rw [← chars, String.ofList_toList]
    dsimp only
    rw [if_neg named, same]

theorem setPair_foreign {pair : String × String} (foreign : entryName? table pair.1 = none) (layout : Layout) :
    setPair table layout pair = layout := by
  rw [setPair, foreign]

/-- What a pair of a layout, or of another table, adds to what was read before. -/
inductive Adds (target layout : Layout) : Layout → Prop where
  | sortColumn : Adds target layout { layout with sortColumn := target.normalized.sortColumn }
  | direction : Adds target layout { layout with direction := target.direction }
  | width {id : String} {width : UInt16} (has : target.normalized.widths.get? id = some width) :
      Adds target layout { layout with widths := layout.widths.insert id width }
  | nothing : Adds target layout layout

section Reading

variable {target : Layout} {pairs : List (String × String)}

theorem setPair_own {pair : String × String} (own : pair ∈ target.toPairs table) (layout : Layout) :
    Adds target layout (setPair table layout pair) := by
  simp only [toPairs, List.mem_append, List.mem_cons, List.not_mem_nil, or_false, List.mem_map] at own
  rcases own with (rfl | rfl) | ⟨⟨id, width⟩, member, rfl⟩
  · rw [setPair_sortColumn, namedColumn?_getD]
    exact .sortColumn
  · rw [setPair_direction]
    exact .direction
  · rw [setPair_width]
    split
    next => exact .nothing
    next named =>
      refine .width ?_
      rw [normalized, Widths.get?_withoutUnnamed, if_neg named]
      exact Widths.mem_entries_iff.1 member

/-- Whatever is right once stays right, as all that is added comes from the same layout. -/
theorem Adds.keeps {layout after : Layout} (adds : Adds target layout after) :
    (layout.sortColumn = target.normalized.sortColumn → after.sortColumn = target.normalized.sortColumn) ∧
    (layout.direction = target.direction → after.direction = target.direction) ∧
    ∀ id, layout.widths.get? id = target.normalized.widths.get? id →
      after.widths.get? id = target.normalized.widths.get? id := by
  cases adds with
  | sortColumn => exact ⟨fun _ => rfl, id, fun _ => id⟩
  | direction => exact ⟨id, fun _ => rfl, fun _ => id⟩
  | nothing => exact ⟨id, id, fun _ => id⟩
  | @width other width has =>
    refine ⟨id, id, fun id held => ?_⟩
    rw [Widths.get?_insert]
    split
    next same => rw [same, has]
    next => exact held

section Folding

variable (adds : ∀ layout, ∀ pair ∈ pairs, Adds target layout (setPair table layout pair))
  (all : target.toPairs table ⊆ pairs)
include adds all

theorem sortColumn_ofPairs : (ofPairs table pairs).sortColumn = target.normalized.sortColumn := by
  refine foldl_settles (fun layout : Layout => layout.sortColumn = target.normalized.sortColumn)
    (fun layout pair member => (adds layout pair member).keeps.1)
    ⟨_, all (List.mem_append_left _ List.mem_cons_self), fun layout => ?_⟩
  rw [setPair_sortColumn, namedColumn?_getD]
  rfl

theorem direction_ofPairs : (ofPairs table pairs).direction = target.direction := by
  refine foldl_settles (fun layout : Layout => layout.direction = target.direction)
    (fun layout pair member => (adds layout pair member).keeps.2.1)
    ⟨_, all (List.mem_append_left _ (.tail _ (.head _))), fun layout => ?_⟩
  rw [setPair_direction]

theorem get?_ofPairs (id : String) :
    (ofPairs table pairs).widths.get? id = target.normalized.widths.get? id := by
  have keeps (layout : Layout) (pair : String × String) (member : pair ∈ pairs) :=
    (adds layout pair member).keeps.2.2 id
  cases wanted : target.normalized.widths.get? id with
  | none =>
    -- No pair brings a width that the layout lacks, and there is none at the start.
    rw [wanted] at keeps
    exact List.foldlRecOn (motive := fun layout : Layout => layout.widths.get? id = none) pairs
      (setPair table) rfl fun layout held pair member => keeps layout pair member held
  | some width =>
    rw [wanted] at keeps
    rw [normalized, Widths.get?_withoutUnnamed, Option.ite_none_left_eq_some] at wanted
    obtain ⟨named, isWidth⟩ := wanted
    have isPair : (table ++ "." ++ widthMark ++ id, numeral width.toNat) ∈ target.toPairs table :=
      List.mem_append_right _ (List.mem_map.2 ⟨(id, width), Widths.mem_entries_iff.2 isWidth, rfl⟩)
    refine foldl_settles (fun layout : Layout => layout.widths.get? id = some width) keeps
      ⟨_, all isPair, fun layout => ?_⟩
    rw [setPair_width, if_neg named, Widths.get?_insert, if_pos rfl]

end Folding

/-- The pairs of a layout, in any order and with pairs of other tables among them, are read back as the
layout. -/
theorem ofPairs_eq_normalized
    (own : ∀ pair ∈ pairs, pair ∈ target.toPairs table ∨ entryName? table pair.1 = none)
    (all : target.toPairs table ⊆ pairs) : ofPairs table pairs = target.normalized := by
  have adds (layout : Layout) (pair : String × String) (member : pair ∈ pairs) :
      Adds target layout (setPair table layout pair) := by
    rcases own pair member with isOwn | foreign
    · exact setPair_own isOwn layout
    · rw [setPair_foreign foreign]
      exact .nothing
  have widths : (ofPairs table pairs).widths = target.normalized.widths := Widths.ext_get? (get?_ofPairs adds all)
  calc ofPairs table pairs
    _ = ⟨(ofPairs table pairs).sortColumn, (ofPairs table pairs).direction, (ofPairs table pairs).widths⟩ := rfl
    _ = target.normalized := by rw [sortColumn_ofPairs adds all, direction_ofPairs adds all, widths]; rfl

end Reading

section Keys

def entryNames (layout : Layout) : List String :=
  sortColumnName :: sortDirectionName :: layout.widths.entries.map fun (id, _) => widthMark ++ id

theorem toPairs_keys (table : String) (layout : Layout) :
    (layout.toPairs table).map Prod.fst = layout.entryNames.map (table ++ "." ++ ·) := by
  simp only [toPairs, entryNames, List.map_cons, List.map_map, List.cons_append, List.nil_append]
  congr 3
  funext ⟨id, width⟩
  exact String.append_assoc

theorem entryNames_nodup (layout : Layout) : layout.entryNames.Nodup := by
  have ids : (layout.widths.entries.map fun (id, _) => widthMark ++ id).Nodup := by
    refine List.Pairwise.map _ (fun left right less same => ?_) layout.widths.sorted
    exact String.lt_irrefl _ ((String.append_right_inj widthMark).1 same ▸ less)
  -- The first letter sets the widths apart from the other two, and among each other they have the names of columns.
  have isWidth {name : String} (member : name ∈ layout.widths.entries.map fun (id, _) => widthMark ++ id) :
      name ≠ sortColumnName ∧ name ≠ sortDirectionName := by
    obtain ⟨⟨id, width⟩, -, rfl⟩ := List.mem_map.1 member
    exact widthName_ne id
  refine List.nodup_cons.2 ⟨fun member => ?_, List.nodup_cons.2 ⟨fun member => ?_, ids⟩⟩
  · rcases List.mem_cons.1 member with same | member
    · exact absurd same (by decide)
    · exact (isWidth member).1 rfl
  · exact (isWidth member).2 rfl

theorem toPairs_keys_nodup (table : String) (layout : Layout) :
    ((layout.toPairs table).map Prod.fst).Nodup := by
  rw [toPairs_keys]
  exact layout.entryNames_nodup.map fun _ _ => (String.append_right_inj _).1

theorem exists_name_of_own {pair : String × String} {layout : Layout} (own : pair ∈ layout.toPairs table) :
    ∃ name, pair.1 = table ++ "." ++ name := by
  have isKey : pair.1 ∈ (layout.toPairs table).map Prod.fst := List.mem_map_of_mem own
  rw [toPairs_keys] at isKey
  obtain ⟨name, -, same⟩ := List.mem_map.1 isKey
  exact ⟨name, same.symm⟩

end Keys

end Layout
end ComputeMonitor.Table
