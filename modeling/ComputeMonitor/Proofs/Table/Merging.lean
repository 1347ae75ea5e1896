import ComputeMonitor.Table.Merging
import Mathlib.Data.List.Chain

/-!
Laws of sorting by merging runs.

Whatever the comparison answers, and even if it answers the same question differently from call to
call, the result is a rearrangement of the input. Where the answers are those of an order, any
relation that the order decides between the elements of the input holds between neighbours of the
result; the order need not be transitive for this.
-/

set_option autoImplicit false

namespace ComputeMonitor.Table

variable {σ α : Type}

section Rearrangement

variable (comparison : Comparison σ α)

-- The state is threaded through by hand here, once, so that the laws below can speak of results and
-- states without the monad.
theorem merge_run_nil (rights : List α) (state : σ) :
    (merge comparison [] rights).run state = (rights, state) := by
  rw [merge]; rfl

theorem merge_run_cons_nil (left : α) (lefts : List α) (state : σ) :
    (merge comparison (left :: lefts) []).run state = (left :: lefts, state) := by
  rw [merge]; rfl

theorem merge_run_cons_cons (left right : α) (lefts rights : List α) (state : σ) :
    (merge comparison (left :: lefts) (right :: rights)).run state =
      let answer := (comparison left right).run state
      if answer.1 = .gt then
        let rest := (merge comparison (left :: lefts) rights).run answer.2
        (right :: rest.1, rest.2)
      else
        let rest := (merge comparison lefts (right :: rights)).run answer.2
        (left :: rest.1, rest.2) := by
  rw [merge]
  simp only [StateT.run_bind]
  dsimp only [bind]
  by_cases greater : ((comparison left right).run state).1 = .gt
  · simp only [greater, ↓reduceIte]
    rfl
  · simp only [greater, ↓reduceIte]
    rfl

theorem merge_perm (lefts rights : List α) (state : σ) :
    ((merge comparison lefts rights).run state).1.Perm (lefts ++ rights) := by
  induction lefts, rights using merge.induct generalizing state with
  | case1 rights => rw [merge_run_nil]; exact .refl _
  | case2 left lefts => rw [merge_run_cons_nil, List.append_nil]
  | case3 left lefts right rights takeRight takeLeft =>
    rw [merge_run_cons_cons]
    dsimp only
    split
    next => exact ((takeRight _).cons right).trans List.perm_middle.symm
    next => exact (takeLeft _).cons left

theorem cutRuns_run_nil (previous : α) (run : List α) (state : σ) :
    (cutRuns comparison previous run []).run state = ([(previous :: run).reverse], state) := by
  rw [cutRuns]; rfl

theorem cutRuns_run_cons (previous next : α) (run rest : List α) (state : σ) :
    (cutRuns comparison previous run (next :: rest)).run state =
      let answer := (comparison previous next).run state
      if answer.1 = .gt then
        let found := (cutRuns comparison next [] rest).run answer.2
        ((previous :: run).reverse :: found.1, found.2)
      else (cutRuns comparison next (previous :: run) rest).run answer.2 := by
  rw [cutRuns]
  simp only [StateT.run_bind]
  dsimp only [bind]
  by_cases greater : ((comparison previous next).run state).1 = .gt
  · simp only [greater, ↓reduceIte]
    rfl
  · simp only [greater, ↓reduceIte]

theorem flatten_cutRuns (previous : α) (run rest : List α) (state : σ) :
    ((cutRuns comparison previous run rest).run state).1.flatten =
      (previous :: run).reverse ++ rest := by
  induction previous, run, rest using cutRuns.induct generalizing state with
  | case1 previous run => rw [cutRuns_run_nil, List.flatten_singleton, List.append_nil]
  | case2 previous run next rest newRun sameRun =>
    rw [cutRuns_run_cons]
    dsimp only
    split
    next => rw [List.flatten_cons, newRun]; simp
    next => rw [sameRun]; simp

theorem flatten_runs (items : List α) (state : σ) :
    ((runs comparison items).run state).1.flatten = items := by
  cases items with
  | nil => rfl
  | cons first rest => exact flatten_cutRuns comparison first [] rest state

theorem mergePairs_run_cons_cons (left right : List α) (rest : List (List α)) (state : σ) :
    (mergePairs comparison (left :: right :: rest)).run state =
      let merged := (merge comparison left right).run state
      let others := (mergePairs comparison rest).run merged.2
      (merged.1 :: others.1, others.2) := by
  rw [mergePairs]; rfl

theorem mergePairs_run_single {found : List (List α)}
    (single : ∀ left right rest, found = left :: right :: rest → False) (state : σ) :
    (mergePairs comparison found).run state = (found, state) := by
  rw [mergePairs]
  · rfl
  · exact single

theorem mergePairs_perm (found : List (List α)) (state : σ) :
    ((mergePairs comparison found).run state).1.flatten.Perm found.flatten := by
  induction found using mergePairs.induct generalizing state with
  | case1 left right rest ih =>
    rw [mergePairs_run_cons_cons]
    simp only [List.flatten_cons, ← List.append_assoc]
    exact (merge_perm comparison left right state).append (ih _)
  | case2 rest single => rw [mergePairs_run_single comparison single]

theorem length_mergePairs (found : List (List α)) (state : σ) :
    ((mergePairs comparison found).run state).1.length = (found.length + 1) / 2 := by
  induction found using mergePairs.induct generalizing state with
  | case1 left right rest ih =>
    rw [mergePairs_run_cons_cons]
    simp only [List.length_cons, ih]
    omega
  | case2 rest single =>
    rw [mergePairs_run_single comparison single]
    rcases rest with _ | ⟨first, _ | ⟨second, others⟩⟩
    · simp
    · simp
    · exact (single first second others rfl).elim

theorem mergeRuns_run_single (rounds : Nat) (run : List α) (state : σ) :
    (mergeRuns comparison rounds [run]).run state = (run, state) := by
  cases rounds <;> rfl

theorem mergeRuns_run_succ (rounds : Nat) (first second : List α) (rest : List (List α))
    (state : σ) :
    (mergeRuns comparison (rounds + 1) (first :: second :: rest)).run state =
      let merged := (mergePairs comparison (first :: second :: rest)).run state
      (mergeRuns comparison rounds merged.1).run merged.2 := by
  rw [mergeRuns]
  · rfl
  · simp
  · simp

theorem mergeRuns_perm (rounds : Nat) (found : List (List α)) (state : σ) :
    ((mergeRuns comparison rounds found).run state).1.Perm found.flatten := by
  induction rounds generalizing found state with
  | zero =>
    rcases found with _ | ⟨first, _ | ⟨second, rest⟩⟩
    · exact .refl _
    · rw [mergeRuns_run_single, List.flatten_singleton]
    · exact .refl _
  | succ rounds ih =>
    rcases found with _ | ⟨first, _ | ⟨second, rest⟩⟩
    · exact .refl _
    · rw [mergeRuns_run_single, List.flatten_singleton]
    · rw [mergeRuns_run_succ]
      exact (ih _ _).trans (mergePairs_perm comparison _ _)

theorem sortWith_run (items : List α) (state : σ) :
    (sortWith comparison items).run state =
      let found := (runs comparison items).run state
      (mergeRuns comparison found.1.length found.1).run found.2 := rfl

/-- Sorting rearranges the elements and loses none, whatever is answered. -/
theorem sortWith_perm (items : List α) (state : σ) :
    ((sortWith comparison items).run state).1.Perm items := by
  rw [sortWith_run]
  refine (mergeRuns_perm comparison _ _ _).trans ?_
  rw [flatten_runs]

end Rearrangement

section Neighbours

variable {comparison : Comparison σ α} {order : α → α → Ordering} {R : α → α → Prop}

/-- The comparison answers as an order does, whatever was asked before. -/
def Comparison.Follows (comparison : Comparison σ α) (order : α → α → Ordering) : Prop :=
  ∀ left right state, ((comparison left right).run state).1 = order left right

/-- The relation holds between two elements, in the direction that the order tells. -/
def Decides (order : α → α → Ordering) (R : α → α → Prop) (left right : α) : Prop :=
  (order left right ≠ .gt → R left right) ∧ (order left right = .gt → R right left)

/-- Runs whose neighbours are related, and whose elements are related across the runs by the
order. -/
def Mergeable (order : α → α → Ordering) (R : α → α → Prop) : List (List α) → Prop
  | [] => True
  | run :: rest =>
    run.IsChain R ∧ (∀ left ∈ run, ∀ right ∈ rest.flatten, Decides order R left right) ∧
      Mergeable order R rest

theorem head_merge (lefts rights : List α) (state : σ) (first : α)
    (head : first ∈ ((merge comparison lefts rights).run state).1.head?) :
    first ∈ lefts.head? ∨ first ∈ rights.head? := by
  cases lefts with
  | nil => rw [merge_run_nil] at head; exact .inr head
  | cons left lefts =>
    cases rights with
    | nil => rw [merge_run_cons_nil] at head; exact .inl head
    | cons right rights =>
      rw [merge_run_cons_cons] at head
      dsimp only at head
      split at head
      next => exact .inr head
      next => exact .inl head

theorem isChain_merge (follows : comparison.Follows order) (lefts rights : List α) (state : σ)
    (leftChain : lefts.IsChain R) (rightChain : rights.IsChain R)
    (across : ∀ left ∈ lefts, ∀ right ∈ rights, Decides order R left right) :
    ((merge comparison lefts rights).run state).1.IsChain R := by
  induction lefts, rights using merge.induct generalizing state with
  | case1 rights => rw [merge_run_nil]; exact rightChain
  | case2 left lefts => rw [merge_run_cons_nil]; exact leftChain
  | case3 left lefts right rights takeRight takeLeft =>
    have decided := across left (by simp) right (by simp)
    have ⟨leftBefore, leftRest⟩ := List.isChain_cons.1 leftChain
    have ⟨rightBefore, rightRest⟩ := List.isChain_cons.1 rightChain
    rw [merge_run_cons_cons]
    dsimp only
    rw [follows]
    -- The head that is put down is related to the rest of its own part and to the other head.
    split
    next greater =>
      refine List.isChain_cons.2 ⟨fun next head => ?_, takeRight _ leftChain rightRest ?_⟩
      · rcases head_merge _ _ _ _ head with fromLeft | fromRight
        · simp only [List.head?_cons, Option.mem_some_iff] at fromLeft
          exact fromLeft ▸ decided.2 greater
        · exact rightBefore next fromRight
      · exact fun one member other otherMember => across one member other (by simp [otherMember])
    next notGreater =>
      refine List.isChain_cons.2 ⟨fun next head => ?_, takeLeft _ leftRest rightChain ?_⟩
      · rcases head_merge _ _ _ _ head with fromLeft | fromRight
        · exact leftBefore next fromLeft
        · simp only [List.head?_cons, Option.mem_some_iff] at fromRight
          exact fromRight ▸ decided.1 notGreater
      · exact fun one member other otherMember => across one (by simp [member]) other otherMember

theorem mergeable_mergePairs (follows : comparison.Follows order) (found : List (List α))
    (state : σ) (mergeable : Mergeable order R found) :
    Mergeable order R ((mergePairs comparison found).run state).1 := by
  induction found using mergePairs.induct generalizing state with
  | case1 left right rest ih =>
    obtain ⟨leftChain, leftAcross, rightChain, rightAcross, others⟩ := mergeable
    rw [mergePairs_run_cons_cons]
    refine ⟨isChain_merge follows left right state leftChain rightChain ?_, ?_, ih _ others⟩
    · exact fun one member other otherMember => leftAcross one member other (by simp [otherMember])
    · -- Merging moves elements about within two runs, but none from one pair to another.
      intro one member other otherMember
      have kept := (mergePairs_perm comparison rest _).mem_iff.1 otherMember
      rcases List.mem_append.1 ((merge_perm comparison left right state).mem_iff.1 member) with
        fromLeft | fromRight
      · exact leftAcross one fromLeft other (by simp only [List.flatten_cons, List.mem_append, kept, or_true])
      · exact rightAcross one fromRight other kept
  | case2 rest single => rw [mergePairs_run_single comparison single]; exact mergeable

theorem isChain_mergeRuns (follows : comparison.Follows order) (rounds : Nat)
    (found : List (List α)) (state : σ) (mergeable : Mergeable order R found)
    (enough : found.length ≤ rounds) :
    ((mergeRuns comparison rounds found).run state).1.IsChain R := by
  induction rounds generalizing found state with
  | zero =>
    rw [List.length_eq_zero_iff.1 (Nat.le_zero.1 enough)]
    exact .nil
  | succ rounds ih =>
    rcases found with _ | ⟨first, _ | ⟨second, rest⟩⟩
    · exact .nil
    · exact mergeable.1
    · rw [mergeRuns_run_succ]
      refine ih _ _ (mergeable_mergePairs follows _ state mergeable) ?_
      rw [length_mergePairs]
      simp only [List.length_cons] at enough ⊢
      omega

-- The run that is being gathered is a parameter of the recursion, so that it has to be a chain at every
-- step and not at the start alone.
theorem mergeable_cutRuns (follows : comparison.Follows order) (previous : α)
    (run rest : List α) (state : σ) (chain : (previous :: run).reverse.IsChain R)
    (decided : ((previous :: run).reverse ++ rest).Pairwise (Decides order R)) :
    Mergeable order R ((cutRuns comparison previous run rest).run state).1 := by
  induction previous, run, rest using cutRuns.induct generalizing state with
  | case1 previous run => exact ⟨chain, by simp, trivial⟩
  | case2 previous run next rest newRun sameRun =>
    have ⟨_, restDecided, across⟩ := List.pairwise_append.1 decided
    rw [cutRuns_run_cons]
    dsimp only
    rw [follows]
    split
    next greater =>
      refine ⟨chain, fun left member right rightMember => ?_, newRun _ (.singleton next) restDecided⟩
      rw [flatten_cutRuns] at rightMember
      exact across left member right rightMember
    next notGreater =>
      refine sameRun _ ?_ (by simpa using decided)
      have related : R previous next :=
        (across previous (by simp) next (by simp)).1 notGreater
      rw [List.reverse_cons]
      exact List.isChain_append.2 ⟨chain, .singleton next, by simpa using related⟩

theorem mergeable_runs (follows : comparison.Follows order) (items : List α) (state : σ)
    (decided : items.Pairwise (Decides order R)) :
    Mergeable order R ((runs comparison items).run state).1 := by
  cases items with
  | nil => exact trivial
  | cons first rest => exact mergeable_cutRuns follows first [] rest state (.singleton first) decided

/-- What an order decides for any two elements of a list holds of neighbours after sorting. -/
theorem isChain_sortWith (follows : comparison.Follows order) (items : List α) (state : σ)
    (decided : items.Pairwise (Decides order R)) :
    ((sortWith comparison items).run state).1.IsChain R := by
  rw [sortWith_run]
  exact isChain_mergeRuns follows _ _ _ (mergeable_runs follows items state decided) (Nat.le_refl _)

end Neighbours

section Ascending

variable {comparison : Comparison σ α} {order : α → α → Ordering}

theorem cutRuns_of_isChain (follows : comparison.Follows order) (previous : α) (run rest : List α)
    (state : σ) (chain : (previous :: rest).IsChain fun left right => order left right ≠ .gt) :
    ((cutRuns comparison previous run rest).run state).1 = [(previous :: run).reverse ++ rest] := by
  induction rest generalizing previous run state with
  | nil =>
    rw [List.append_nil]
    rfl
  | cons next rest ih =>
    obtain ⟨notGreater, restChain⟩ := List.isChain_cons_cons.1 chain
    rw [cutRuns_run_cons]
    dsimp only
    rw [follows, if_neg notGreater, ih next (previous :: run) _ restChain]
    simp

/-- A list without a descent is left as it is, although an order that is not transitive may allow other
lists without one. -/
theorem sortWith_of_isChain (follows : comparison.Follows order) (items : List α) (state : σ)
    (chain : items.IsChain fun left right => order left right ≠ .gt) :
    ((sortWith comparison items).run state).1 = items := by
  cases items with
  | nil => rfl
  | cons first rest =>
    have oneRun : ((runs comparison (first :: rest)).run state).1 = [first :: rest] :=
      cutRuns_of_isChain follows first [] rest state chain
    rw [sortWith_run]
    dsimp only
    rw [oneRun]
    rfl

end Ascending

theorem Comparison.follows_ofOrder (order : α → α → Ordering) : (Comparison.ofOrder order).Follows order :=
  fun _ _ _ => rfl

theorem sortBy_perm (order : α → α → Ordering) (items : List α) : (sortBy order items).Perm items :=
  sortWith_perm _ items ()

theorem isChain_sortBy {order : α → α → Ordering} {R : α → α → Prop} {items : List α}
    (decided : items.Pairwise (Decides order R)) : (sortBy order items).IsChain R :=
  isChain_sortWith (Comparison.follows_ofOrder order) items () decided

theorem sortBy_of_isChain {order : α → α → Ordering} {items : List α}
    (chain : items.IsChain fun left right => order left right ≠ .gt) : sortBy order items = items :=
  sortWith_of_isChain (Comparison.follows_ofOrder order) items () chain

end ComputeMonitor.Table
