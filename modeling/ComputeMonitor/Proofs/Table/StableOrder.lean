import ComputeMonitor.Proofs.Table.Selection
import ComputeMonitor.Proofs.Table.Sorting

/-!
Sorting is the stable sort.

Where all cells of the sorted column can be read, one order alone of the cache has the smaller cell first and
tied rows as they were shown before, new ones behind them; and sorting yields it, whatever runs the
order shown before falls into and however many of its entries are gone or new.
-/

set_option autoImplicit false

namespace ComputeMonitor.Table

open ComputeMonitor.Cell (Direction)

namespace Permutation

/-- The orders that a table can have shown: that of a cache of any length, and what sorting any cache made
of an order shown before. -/
inductive Obtained : Permutation → Prop
  | identity (length : Nat) : Obtained (.identity length)
  | sorted (cache : Cache) (columns : List Column) (state : SortState) {prior : Permutation} :
    Obtained prior → Obtained (sortPermutation cache columns state prior)

/-- An index comes before another one in an order and what follows it: it is shown above the other, or it
alone is shown, or neither is and it is the smaller one. -/
def Puts (permutation : Permutation) (left right : Nat) : Prop :=
  match permutation.row? left, permutation.row? right with
  | some leftRow, some rightRow => leftRow < rightRow
  | some _, none => True
  | none, some _ => False
  | none, none => left < right

instance (permutation : Permutation) (left right : Nat) : Decidable (permutation.Puts left right) := by
  unfold Puts
  split <;> infer_instance

variable {permutation other : Permutation} {length : Nat}

theorem Obtained.shows (obtained : permutation.Obtained) : permutation.Shows permutation.length := by
  have exists_length : ∃ length, permutation.Shows length := by
    induction obtained with
    | identity length => exact ⟨length, shows_identity length⟩
    | sorted cache columns state obtained ih =>
      obtain ⟨length, shows⟩ := ih
      exact ⟨cache.length, sortPermutation_shows shows⟩
  obtain ⟨length, shows⟩ := exists_length
  exact shows.length_eq ▸ shows

theorem Shows.puts_iff_rank_lt (shows : permutation.Shows length) {left right : Nat} :
    permutation.Puts left right ↔ permutation.rank left < permutation.rank right := by
  have row_lt {index row : Nat} (shown : permutation.row? index = some row) : row < permutation.length :=
    shows.length_eq.symm ▸ shows.row_lt shown
  unfold Puts rank
  -- An index that is not shown ranks behind all rows, by its own size.
  cases leftRow : permutation.row? left with
  | some leftRow =>
    cases rightRow : permutation.row? right with
    | some rightRow => exact Iff.rfl
    | none =>
      have := row_lt leftRow
      simp only [Option.getD_some, Option.getD_none, true_iff]
      omega
  | none =>
    cases rightRow : permutation.row? right with
    | some rightRow =>
      have := row_lt rightRow
      simp only [Option.getD_some, Option.getD_none, false_iff]
      omega
    | none =>
      simp only [Option.getD_none]
      omega

/-- A strict relation holds down the rows just when it says of any two indices which is shown first. -/
theorem Shows.pairwise_iff_row_lt_iff (shows : permutation.Shows length) {R : Nat → Nat → Prop}
    (asymmetric : ∀ {left right}, R left right → ¬ R right left) :
    permutation.order.Pairwise R ↔ ∀ left right leftRow rightRow,
      permutation.row? left = some leftRow → permutation.row? right = some rightRow →
        (leftRow < rightRow ↔ R left right) := by
  constructor
  · intro ordered left right leftRow rightRow leftShown rightShown
    by_cases same : left = right
    · subst same
      obtain rfl : leftRow = rightRow := Option.some.inj (leftShown.symm.trans rightShown)
      exact ⟨fun less => absurd less (Nat.lt_irrefl _), fun related => (asymmetric related related).elim⟩
    · exact shows.row_lt_iff ordered asymmetric leftShown rightShown same
  · intro tells
    refine List.pairwise_iff_getElem.2 fun leftRow rightRow leftBound rightBound less => ?_
    refine (tells _ _ leftRow rightRow ?_ ?_).1 less
    · exact shows.row?_eq_some_iff.2 (List.getElem?_eq_getElem leftBound)
    · exact shows.row?_eq_some_iff.2 (List.getElem?_eq_getElem rightBound)

theorem Shows.eq_of_pairwise (shows : permutation.Shows length) (otherShows : other.Shows length)
    {R : Nat → Nat → Prop} (asymmetric : ∀ {left right}, R left right → ¬ R right left)
    (ordered : permutation.order.Pairwise R) (otherOrdered : other.order.Pairwise R) :
    permutation = other := by
  have samePlaces : permutation.order = other.order :=
    List.Perm.eq_of_pairwise (fun _ _ _ _ before after => (asymmetric before after).elim)
      ordered otherOrdered (List.Perm.trans shows (List.Perm.symm otherShows))
  cases permutation
  cases other
  exact congrArg Permutation.mk samePlaces

end Permutation

section

variable {cache : Cache} {columns : List Column} {state : SortState} {prior : Permutation}
  {index : Nat} {column : Column}

/-- Where all cells of the sorted column can be read, sorting yields the one order of the cache in which an
index stands above another one just when its cell is smaller in the direction of the sort, or the cells
compare equal and the order shown before puts it first. -/
theorem eq_sortPermutation_iff (obtained : prior.Obtained)
    (sorted : state.sortedColumn? columns = some (index, column))
    (readable : AllReadable cache column index) (permutation : Permutation) :
    permutation = sortPermutation cache columns state prior ↔
      permutation.isBijection cache.length = true ∧
      ∀ left right leftRow rightRow,
        permutation.row? left = some leftRow → permutation.row? right = some rightRow →
          let order := Cell.order column.kind (cache.cellAt index left) (cache.cellAt index right)
            state.direction
          (leftRow < rightRow ↔ order = .lt ∨ order = .eq ∧ prior.Puts left right) := by
  have priorShows := obtained.shows
  have sortedShows : (sortPermutation cache columns state prior).Shows cache.length :=
    sortPermutation_shows priorShows
  have ordered := sortPermutation_pairwise priorShows sorted readable
  simp only [priorShows.puts_iff_rank_lt]
  change _ ↔ _ ∧ ∀ left right leftRow rightRow, _ → _ → (leftRow < rightRow ↔
    Precedes cache column index state.direction prior left right)
  constructor
  · rintro rfl
    exact ⟨Permutation.isBijection_iff.2 sortedShows,
      (sortedShows.pairwise_iff_row_lt_iff Precedes.asymmetric).1 ordered⟩
  · rintro ⟨isBijection, tells⟩
    have shows := Permutation.isBijection_iff.1 isBijection
    -- One strict relation holds down both orders, and they hold the same indices.
    have alike := (shows.pairwise_iff_row_lt_iff Precedes.asymmetric).2 tells
    exact shows.eq_of_pairwise sortedShows Precedes.asymmetric alike ordered

def letterCache (letters : List (Char × Nat)) : Cache :=
  (Cache.synchronize ListView.letterSchema [] (.ofList letters)).1

/-- Three letters were sorted by letter. A letter takes the place of another one, and two are new: sorted
by group, from the largest one down, letters of one group stand as their places were shown, the new ones
behind them. -/
theorem letters_eq_sortPermutation_iff :
    let columns := ListView.letterSchema.columns
    let group : Column := ⟨"group", "Group", .number, 8⟩
    let prior := sortPermutation (letterCache [('d', 1), ('c', 7), ('b', 1)]) columns ⟨some 0, .ascending⟩
      (.identity 9)
    let cache := letterCache [('d', 1), ('a', 2), ('c', 1), ('e', 2), ('b', 1)]
    let state : SortState := ⟨some 1, .descending⟩
    let permutation : Permutation := ⟨[1, 3, 2, 0, 4]⟩
    prior.Obtained ∧ state.sortedColumn? columns = some (1, group) ∧ AllReadable cache group 1 ∧
      permutation = sortPermutation cache columns state prior ∧
      (permutation = sortPermutation cache columns state prior ↔
        permutation.isBijection cache.length = true ∧
        ∀ left right leftRow rightRow,
          permutation.row? left = some leftRow → permutation.row? right = some rightRow →
            let order := Cell.order group.kind (cache.cellAt 1 left) (cache.cellAt 1 right) state.direction
            (leftRow < rightRow ↔ order = .lt ∨ order = .eq ∧ prior.Puts left right)) := by
  intro columns group prior cache state permutation
  have obtained : prior.Obtained := .sorted _ _ _ (.identity 9)
  have readable : AllReadable cache group 1 := by decide +kernel
  exact ⟨obtained, rfl, readable, by decide +kernel, eq_sortPermutation_iff obtained rfl readable permutation⟩

end
end ComputeMonitor.Table
