/-!
Sorting by merging the ascending runs that a list already has.

The comparison may answer from a state of its own, so that nothing is assumed of its answers. It
is asked first about each pair of neighbours, which cuts the list into runs, and then about the
heads of runs that are merged in pairs until one is left. A list in one run is left as it is.
-/

set_option autoImplicit false

namespace ComputeMonitor.Table

/-- A comparison whose answers may depend on what was asked before. -/
abbrev Comparison (σ α : Type) := α → α → StateM σ Ordering

variable {σ α : Type}

/-- Merge two lists; the right head goes first only where it is strictly smaller. -/
def merge (comparison : Comparison σ α) : List α → List α → StateM σ (List α)
  | [], rights => pure rights
  | left :: lefts, [] => pure (left :: lefts)
  | left :: lefts, right :: rights => do
    if (← comparison left right) = .gt then
      return right :: (← merge comparison (left :: lefts) rights)
    else
      return left :: (← merge comparison lefts (right :: rights))
termination_by lefts rights => lefts.length + rights.length

/-- Cut a list before every element that is strictly smaller than the one before it. The current
run is kept in reverse. -/
def cutRuns (comparison : Comparison σ α) (previous : α) (run : List α) :
    List α → StateM σ (List (List α))
  | [] => pure [(previous :: run).reverse]
  | next :: rest => do
    if (← comparison previous next) = .gt then
      return (previous :: run).reverse :: (← cutRuns comparison next [] rest)
    else
      cutRuns comparison next (previous :: run) rest

def runs (comparison : Comparison σ α) : List α → StateM σ (List (List α))
  | [] => pure []
  | first :: rest => cutRuns comparison first [] rest

def mergePairs (comparison : Comparison σ α) : List (List α) → StateM σ (List (List α))
  | left :: right :: rest => do
    let merged ← merge comparison left right
    return merged :: (← mergePairs comparison rest)
  | rest => pure rest

/-- Merge runs until one is left. Each round halves their count, so that as many rounds as there
are runs are enough. -/
def mergeRuns (comparison : Comparison σ α) : Nat → List (List α) → StateM σ (List α)
  | _, [] => pure []
  | _, [run] => pure run
  | 0, runs => pure runs.flatten
  | rounds + 1, runs => do mergeRuns comparison rounds (← mergePairs comparison runs)

def sortWith (comparison : Comparison σ α) (items : List α) : StateM σ (List α) := do
  let found ← runs comparison items
  mergeRuns comparison found.length found

/-- The comparison that asks nothing but an order. -/
def Comparison.ofOrder (order : α → α → Ordering) : Comparison Unit α := fun left right => pure (order left right)

def sortBy (order : α → α → Ordering) (items : List α) : List α := ((sortWith (.ofOrder order) items).run ()).1

end ComputeMonitor.Table
