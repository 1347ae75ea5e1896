import ComputeMonitor.Proofs.Cell.Order
import ComputeMonitor.Proofs.Table.Merging
import ComputeMonitor.Table.Sorting
import Mathlib.Data.List.Perm.Subperm

/-!
Laws of the order of rows.

A permutation that shows every cache index below a length once has an exact inverse. Sorting gives
such a permutation again, without a descent between neighbouring rows, readable or not; if all cells
of the column can be read, the rows are ordered by their cells and tied rows as in the order
carried over.
-/

set_option autoImplicit false

namespace ComputeMonitor.Table

open ComputeMonitor.Cell (Direction Key Kind Readable ReadableCell)

namespace Permutation

/-- Each cache index below a length is shown in exactly one row, and no other index. -/
def Shows (permutation : Permutation) (length : Nat) : Prop :=
  permutation.order.Perm (List.range length)

variable {permutation : Permutation} {length : Nat}

theorem shows_identity (length : Nat) : (identity length).Shows length := .refl _

theorem Shows.nodup (shows : permutation.Shows length) : permutation.order.Nodup :=
  shows.nodup_iff.2 List.nodup_range

theorem Shows.length_eq (shows : permutation.Shows length) : permutation.length = length := by
  simpa [Permutation.length] using List.Perm.length_eq shows

theorem Shows.mem_iff (shows : permutation.Shows length) {index : Nat} :
    index ∈ permutation.order ↔ index < length := by
  rw [List.Perm.mem_iff shows, List.mem_range]

theorem isBijection_iff : permutation.isBijection length = true ↔ permutation.Shows length := by
  simp only [isBijection, Bool.and_eq_true, beq_iff_eq, List.all_eq_true, decide_eq_true_eq]
  constructor
  · rintro ⟨⟨sameLength, below⟩, nodup⟩
    have subset : permutation.order ⊆ List.range length :=
      fun index member => List.mem_range.2 (below index member)
    exact (List.subperm_of_subset nodup subset).perm_of_length_le (by simp [← sameLength, Permutation.length])
  · intro shows
    exact ⟨⟨shows.length_eq, fun index member => shows.mem_iff.1 member⟩, shows.nodup⟩

theorem size_fillRows (row : Nat) (order : List Nat) (rows : Array Nat) :
    (fillRows row order rows).size = rows.size := by
  induction order generalizing row rows with
  | nil => rfl
  | cons index rest ih => rw [fillRows, ih, Array.size_setIfInBounds]

theorem getElem?_fillRows_of_not_mem {index : Nat} {order : List Nat} (absent : index ∉ order)
    (row : Nat) (rows : Array Nat) : (fillRows row order rows)[index]? = rows[index]? := by
  induction order generalizing row rows with
  | nil => rfl
  | cons first rest ih =>
    simp only [List.mem_cons, not_or] at absent
    rw [fillRows, ih absent.2, Array.getElem?_setIfInBounds_ne (Ne.symm absent.1)]

theorem getElem?_fillRows {order : List Nat} (nodup : order.Nodup) {index place : Nat}
    (shown : order[place]? = some index) (row : Nat) (rows : Array Nat) (bound : index < rows.size) :
    (fillRows row order rows)[index]? = some (row + place) := by
  induction order generalizing place row rows with
  | nil => simp at shown
  | cons first rest ih =>
    have ⟨absent, nodupRest⟩ := List.nodup_cons.1 nodup
    rw [fillRows]
    cases place with
    | zero =>
      obtain rfl : first = index := by simpa using shown
      rw [getElem?_fillRows_of_not_mem absent, Array.getElem?_setIfInBounds_self_of_lt bound, Nat.add_zero]
    | succ place =>
      rw [ih nodupRest (by simpa using shown) (row + 1) _ (by simpa using bound)]
      congr 1
      omega

theorem size_inverse (permutation : Permutation) :
    permutation.inverse.size = permutation.length := by
  rw [inverse, size_fillRows, Array.size_replicate]

theorem Shows.row?_eq_some_iff (shows : permutation.Shows length) {index row : Nat} :
    permutation.row? index = some row ↔ permutation.cacheIndex? row = some index := by
  have found {place : Nat} (shown : permutation.order[place]? = some index) :
      permutation.row? index = some place := by
    have bound : index < (Array.replicate permutation.length 0).size := by
      rw [Array.size_replicate, shows.length_eq]
      exact shows.mem_iff.1 (List.mem_of_getElem? shown)
    rw [row?, inverse, getElem?_fillRows shows.nodup shown 0 _ bound, Nat.zero_add]
  constructor
  · intro known
    have bound : index < length := by
      obtain ⟨bound, -⟩ := Array.getElem?_eq_some_iff.1 known
      rwa [size_inverse, shows.length_eq] at bound
    obtain ⟨place, shown⟩ := List.getElem?_of_mem (shows.mem_iff.2 bound)
    obtain rfl : place = row := Option.some.inj ((found shown).symm.trans known)
    exact shown
  · exact found

theorem Shows.exists_row (shows : permutation.Shows length) {index : Nat} (bound : index < length) :
    ∃ row, permutation.row? index = some row := by
  obtain ⟨row, shown⟩ := List.getElem?_of_mem (shows.mem_iff.2 bound)
  exact ⟨row, shows.row?_eq_some_iff.2 shown⟩

theorem Shows.row_lt (shows : permutation.Shows length) {index row : Nat}
    (known : permutation.row? index = some row) : row < length := by
  obtain ⟨bound, -⟩ := List.getElem?_eq_some_iff.1 (shows.row?_eq_some_iff.1 known)
  exact shows.length_eq ▸ bound

/-- The place of a cache index in the order carried over to the next sort: indices that are not
shown yet follow the others. -/
def rank (permutation : Permutation) (index : Nat) : Nat :=
  (permutation.row? index).getD (permutation.length + index)

theorem Shows.rank_of_shown (shows : permutation.Shows length) {index row : Nat}
    (shown : permutation.order[row]? = some index) : permutation.rank index = row := by
  rw [rank, shows.row?_eq_some_iff.2 shown, Option.getD_some]

theorem Shows.rank_of_not_shown (shows : permutation.Shows length) {index : Nat}
    (beyond : length ≤ index) : permutation.rank index = permutation.length + index := by
  have absent : permutation.row? index = none := by
    rw [row?, Array.getElem?_eq_none_iff, size_inverse, shows.length_eq]
    exact beyond
  rw [rank, absent, Option.getD_none]

theorem mem_carriedOver {target index : Nat} :
    index ∈ permutation.carriedOver target ↔ index < target := by
  simp only [carriedOver, List.mem_append, List.mem_filter, decide_eq_true_eq, List.mem_range,
    Bool.not_eq_true', List.contains_eq_mem, decide_eq_false_iff_not]
  constructor
  · rintro (⟨-, below⟩ | ⟨below, -⟩) <;> exact below
  · intro below
    by_cases shown : index ∈ permutation.order
    · exact .inl ⟨shown, below⟩
    · exact .inr ⟨below, fun kept => shown kept.1⟩

theorem Shows.order_ranked (shows : permutation.Shows length) :
    permutation.order.Pairwise fun left right => permutation.rank left < permutation.rank right := by
  refine List.pairwise_iff_getElem.2 fun left right leftBound rightBound less => ?_
  rw [shows.rank_of_shown (List.getElem?_eq_getElem leftBound),
    shows.rank_of_shown (List.getElem?_eq_getElem rightBound)]
  exact less

theorem Shows.pair_sublist (shows : permutation.Shows length) {left right : Nat} (leftBound : left < length)
    (rightBound : right < length) (ranked : permutation.rank left < permutation.rank right) :
    [left, right].Sublist permutation.order := by
  obtain ⟨leftRow, leftShown⟩ := List.getElem?_of_mem (shows.mem_iff.2 leftBound)
  obtain ⟨rightRow, rightShown⟩ := List.getElem?_of_mem (shows.mem_iff.2 rightBound)
  rw [shows.rank_of_shown leftShown, shows.rank_of_shown rightShown] at ranked
  have above : left ∈ permutation.order.take rightRow :=
    List.mem_of_getElem? (by rwa [List.getElem?_take_of_lt ranked])
  have below : right ∈ permutation.order.drop rightRow :=
    List.mem_of_getElem? (i := 0) (by rwa [List.getElem?_drop, Nat.add_zero])
  rw [← List.take_append_drop rightRow permutation.order]
  exact (List.singleton_sublist.2 above).append (List.singleton_sublist.2 below)

theorem Shows.carriedOver_ranked (shows : permutation.Shows length) (target : Nat) :
    (permutation.carriedOver target).Pairwise
      fun left right => permutation.rank left < permutation.rank right := by
  have fresh {index : Nat} (member : index ∈ (List.range target).filter
      fun index => !(permutation.order.filter (· < target)).contains index) : length ≤ index := by
    simp only [List.mem_filter, List.mem_range, Bool.not_eq_true', List.contains_eq_mem,
      decide_eq_true_eq, decide_eq_false_iff_not, not_and] at member
    exact Nat.le_of_not_lt fun below => member.2 (shows.mem_iff.2 below) member.1
  -- Indices that were shown come first and by row, new ones behind them and by index.
  refine List.pairwise_append.2 ⟨?_, ?_, ?_⟩
  · exact List.Pairwise.filter _ shows.order_ranked
  · refine List.Pairwise.imp_of_mem (fun leftMember rightMember less => ?_)
      (List.Pairwise.filter _ (List.pairwise_lt_range (n := target)))
    rw [shows.rank_of_not_shown (fresh leftMember), shows.rank_of_not_shown (fresh rightMember)]
    exact Nat.add_lt_add_left less _
  · intro left leftMember right rightMember
    obtain ⟨row, shown⟩ := List.getElem?_of_mem (List.mem_filter.1 leftMember).1
    rw [shows.rank_of_shown shown, shows.rank_of_not_shown (fresh rightMember)]
    have bound : row < permutation.length := (List.getElem?_eq_some_iff.1 shown).1
    omega

theorem Shows.carriedOver_perm (shows : permutation.Shows length) (target : Nat) :
    (permutation.carriedOver target).Perm (List.range target) := by
  have nodup : (permutation.carriedOver target).Nodup := by
    refine List.Pairwise.imp ?_ (shows.carriedOver_ranked target)
    rintro left right less rfl
    exact Nat.lt_irrefl _ less
  refine (List.perm_ext_iff_of_nodup nodup List.nodup_range).2 fun index => ?_
  rw [mem_carriedOver, List.mem_range]

theorem Shows.carriedOver_self (shows : permutation.Shows length) :
    permutation.carriedOver length = permutation.order := by
  have kept : permutation.order.filter (· < length) = permutation.order := by
    apply List.filter_eq_self.2
    intro index member
    exact decide_eq_true (shows.mem_iff.1 member)
  have noneNew : ((List.range length).filter fun index => !permutation.order.contains index) = [] := by
    apply List.filter_eq_nil_iff.2
    intro index member
    have shown : index ∈ permutation.order := shows.mem_iff.2 (List.mem_range.1 member)
    simp [shown]
  unfold carriedOver
  dsimp only
  rw [kept, noneNew, List.append_nil]

/-- Where a strict relation holds down the rows, it says which of two indices is shown first. -/
theorem Shows.row_lt_iff (shows : permutation.Shows length) {R : Nat → Nat → Prop}
    (ordered : permutation.order.Pairwise R) {left right : Nat} (asymmetric : R left right → ¬ R right left)
    {leftRow rightRow : Nat} (leftShown : permutation.row? left = some leftRow)
    (rightShown : permutation.row? right = some rightRow) (different : left ≠ right) :
    leftRow < rightRow ↔ R left right := by
  obtain ⟨leftBound, leftIs⟩ := List.getElem?_eq_some_iff.1 (shows.row?_eq_some_iff.1 leftShown)
  obtain ⟨rightBound, rightIs⟩ := List.getElem?_eq_some_iff.1 (shows.row?_eq_some_iff.1 rightShown)
  have down := List.pairwise_iff_getElem.1 ordered
  constructor
  · intro less
    exact leftIs ▸ rightIs ▸ down leftRow rightRow leftBound rightBound less
  · intro related
    rcases Nat.lt_trichotomy leftRow rightRow with less | rfl | greater
    · exact less
    · exact (different (leftIs.symm.trans rightIs)).elim
    · have reversed : R right left := leftIs ▸ rightIs ▸ down rightRow leftRow rightBound leftBound greater
      exact (asymmetric related reversed).elim

end Permutation

def Cache.cellAt (cache : Cache) (column index : Nat) : String :=
  (cache[index]?.map (·.field column)).getD ""

section Sorting

variable {cache : Cache} {columns : List Column} {state : SortState} {prior : Permutation}
  {length index : Nat} {column : Column}

theorem keyOrder_columnKeys (kind : Kind) (direction : Direction) {left right : Nat}
    (leftBound : left < cache.length) (rightBound : right < cache.length) :
    keyOrder (columnKeys cache kind index) direction left right =
      Cell.order kind (cache.cellAt index left) (cache.cellAt index right) direction := by
  simp [keyOrder, columnKeys, Cell.order, Cache.cellAt, leftBound, rightBound]

theorem sortPermutation_of_column (sorted : state.sortedColumn? columns = some (index, column)) :
    sortPermutation cache columns state prior =
      ⟨sortBy (keyOrder (columnKeys cache column.kind index) state.direction)
        (prior.carriedOver cache.length)⟩ := by
  simp only [sortPermutation, sorted]

theorem sortPermutation_of_no_column (unsorted : state.sortedColumn? columns = none) :
    sortPermutation cache columns state prior = .identity cache.length := by
  simp only [sortPermutation, unsorted]

theorem sortPermutation_shows (shows : prior.Shows length) :
    (sortPermutation cache columns state prior).Shows cache.length := by
  cases sorted : state.sortedColumn? columns with
  | none => rw [sortPermutation_of_no_column sorted]; exact Permutation.shows_identity _
  | some found =>
    rw [sortPermutation_of_column sorted]
    exact (sortBy_perm _ _).trans (shows.carriedOver_perm cache.length)

theorem sortPermutation_isChain
    (sorted : state.sortedColumn? columns = some (index, column)) :
    (sortPermutation cache columns state prior).order.IsChain fun left right =>
      Cell.order column.kind (cache.cellAt index left) (cache.cellAt index right) state.direction ≠ .gt := by
  rw [sortPermutation_of_column sorted]
  -- Turning an order round is all that is asked of it, for cells that cannot be read have no other law.
  refine isChain_sortBy (List.pairwise_of_forall_mem_list fun left leftMember right rightMember => ?_)
  rw [Permutation.mem_carriedOver] at leftMember rightMember
  rw [Decides, keyOrder_columnKeys _ _ leftMember rightMember]
  refine ⟨id, fun greater => ?_⟩
  rw [Cell.order_swap, greater]
  decide

/-- Which of two cache indices is to be shown first: the one with the smaller cell, or the one that
was before the other where the cells are equal. -/
def Precedes (cache : Cache) (column : Column) (index : Nat) (direction : Direction)
    (prior : Permutation) (left right : Nat) : Prop :=
  let order := Cell.order column.kind (cache.cellAt index left) (cache.cellAt index right) direction
  order = .lt ∨ (order = .eq ∧ prior.rank left < prior.rank right)

def AllReadable (cache : Cache) (column : Column) (index : Nat) : Prop :=
  ∀ entry ∈ cache, Readable column.kind (entry.field index)

instance : Decidable (AllReadable cache column index) :=
  inferInstanceAs (Decidable (∀ entry ∈ cache, _))

theorem AllReadable.cellAt (readable : AllReadable cache column index) {place : Nat}
    (bound : place < cache.length) : Readable column.kind (cache.cellAt index place) := by
  rw [Cache.cellAt, List.getElem?_eq_getElem bound]
  exact readable _ (List.getElem_mem bound)

theorem Precedes.asymmetric {direction : Direction} {left right : Nat}
    (before : Precedes cache column index direction prior left right) :
    ¬ Precedes cache column index direction prior right left := by
  intro after
  unfold Precedes at before after
  dsimp only at before after
  rw [Cell.order_swap] at after
  rcases before with less | ⟨equal, ranked⟩
  · simp [less] at after
  · simp only [equal, Ordering.swap_eq, reduceCtorEq, true_and, false_or] at after
    omega

/-- A cell that can be read, with the rank that decides between it and its equals. A cell that cannot be read
would tie with its neighbours on both sides, so that the order is transitive on these alone. -/
structure RankedCell (kind : Kind) where
  cell : ReadableCell kind
  rank : Nat

def RankedCell.order {kind : Kind} (direction : Direction) : RankedCell kind → RankedCell kind → Ordering :=
  compareLex (fun left right => left.cell.orderIn direction right.cell) (compareOn RankedCell.rank)

instance (kind : Kind) (direction : Direction) :
    Std.TransCmp fun left right : RankedCell kind => left.cell.orderIn direction right.cell where
  eq_swap {left right} :=
    @Std.OrientedCmp.eq_swap _ (@ReadableCell.orderIn kind direction) _ left.cell right.cell
  isLE_trans {first second third} :=
    @Std.TransCmp.isLE_trans _ (@ReadableCell.orderIn kind direction) _ first.cell second.cell third.cell

instance (kind : Kind) (direction : Direction) : Std.TransCmp (@RankedCell.order kind direction) :=
  inferInstanceAs (Std.TransCmp (compareLex _ _))

def AllReadable.rankedCell (readable : AllReadable cache column index) (prior : Permutation) {place : Nat}
    (bound : place < cache.length) : RankedCell column.kind :=
  ⟨⟨cache.cellAt index place, readable.cellAt bound⟩, prior.rank place⟩

theorem AllReadable.precedes_iff (readable : AllReadable cache column index) {direction : Direction}
    {left right : Nat} (leftBound : left < cache.length) (rightBound : right < cache.length) :
    Precedes cache column index direction prior left right ↔
      (readable.rankedCell prior leftBound).order direction (readable.rankedCell prior rightBound) = .lt := by
  have isLess : compareOn RankedCell.rank (readable.rankedCell prior leftBound)
      (readable.rankedCell prior rightBound) = .lt ↔ prior.rank left < prior.rank right := Nat.compare_eq_lt
  rw [RankedCell.order, compareLex, Ordering.then_eq_lt, isLess]
  rfl

theorem Precedes.trans (readable : AllReadable cache column index) {direction : Direction}
    {first second third : Nat} (firstBound : first < cache.length)
    (secondBound : second < cache.length) (thirdBound : third < cache.length)
    (before : Precedes cache column index direction prior first second)
    (after : Precedes cache column index direction prior second third) :
    Precedes cache column index direction prior first third := by
  rw [readable.precedes_iff firstBound secondBound] at before
  rw [readable.precedes_iff secondBound thirdBound] at after
  rw [readable.precedes_iff firstBound thirdBound]
  exact Std.TransCmp.lt_trans before after

/-- Which of two entries of the cache is to be shown first. -/
def PrecedesWithin (cache : Cache) (column : Column) (index : Nat) (direction : Direction)
    (prior : Permutation) (left right : Nat) : Prop :=
  left < cache.length ∧ right < cache.length ∧ Precedes cache column index direction prior left right

theorem PrecedesWithin.trans (readable : AllReadable cache column index) {direction : Direction}
    {first second third : Nat} (before : PrecedesWithin cache column index direction prior first second)
    (after : PrecedesWithin cache column index direction prior second third) :
    PrecedesWithin cache column index direction prior first third := by
  obtain ⟨firstBound, secondBound, before⟩ := before
  obtain ⟨-, thirdBound, after⟩ := after
  exact ⟨firstBound, thirdBound, before.trans readable firstBound secondBound thirdBound after⟩

/-- Among entries that can be read, what holds of neighbours holds down all the rows. -/
theorem Precedes.pairwise_of_isChain (readable : AllReadable cache column index) {direction : Direction}
    {order : List Nat} (inside : ∀ place ∈ order, place < cache.length)
    (chain : order.IsChain (Precedes cache column index direction prior)) :
    order.Pairwise (Precedes cache column index direction prior) := by
  have transitive : Trans (PrecedesWithin cache column index direction prior)
      (PrecedesWithin cache column index direction prior) (PrecedesWithin cache column index direction prior) :=
    ⟨fun before after => before.trans readable after⟩
  have related : order.IsChain (PrecedesWithin cache column index direction prior) := List.IsChain.imp_of_mem_imp
    (fun left right leftMember rightMember before =>
      ⟨inside left leftMember, inside right rightMember, before⟩) chain
  exact (List.isChain_iff_pairwise.1 related).imp fun related => related.2.2

/-- Where all cells can be read the rows are sorted by them, and tied rows keep the order carried
over. -/
theorem sortPermutation_pairwise (shows : prior.Shows length)
    (sorted : state.sortedColumn? columns = some (index, column))
    (readable : AllReadable cache column index) :
    (sortPermutation cache columns state prior).order.Pairwise
      (Precedes cache column index state.direction prior) := by
  refine Precedes.pairwise_of_isChain readable
    (fun place => (sortPermutation_shows shows).mem_iff.1) ?_
  rw [sortPermutation_of_column sorted]
  refine isChain_sortBy (List.Pairwise.imp_of_mem ?_ (shows.carriedOver_ranked cache.length))
  intro left right leftMember rightMember ranked
  rw [Permutation.mem_carriedOver] at leftMember rightMember
  rw [Decides, keyOrder_columnKeys _ _ leftMember rightMember]
  refine ⟨fun notGreater => ?_, fun greater => .inl ?_⟩
  · cases answer : Cell.order column.kind (cache.cellAt index left) (cache.cellAt index right)
      state.direction with
    | lt => exact .inl answer
    | eq => exact .inr ⟨answer, ranked⟩
    | gt => exact (notGreater answer).elim
  · rw [Cell.order_swap, greater]
    rfl

/-- Rows without a descent are sorted already; tied rows stand as they are shown. -/
theorem precedes_of_isChain (shows : prior.Shows cache.length)
    (readable : AllReadable cache column index) {direction : Direction}
    (chain : prior.order.IsChain fun left right =>
      Cell.order column.kind (cache.cellAt index left) (cache.cellAt index right) direction ≠ .gt) :
    prior.order.Pairwise (Precedes cache column index direction prior) := by
  refine Precedes.pairwise_of_isChain readable (fun place => shows.mem_iff.1) ?_
  have ranked := List.isChain_iff_getElem.1 shows.order_ranked.isChain
  refine List.isChain_iff_getElem.2 fun row bound => ?_
  have notGreater := List.isChain_iff_getElem.1 chain row bound
  cases answer : Cell.order column.kind (cache.cellAt index prior.order[row])
    (cache.cellAt index prior.order[row + 1]) direction with
  | lt => exact .inl answer
  | eq => exact .inr ⟨answer, ranked row bound⟩
  | gt => exact (notGreater answer).elim

end Sorting
end ComputeMonitor.Table
