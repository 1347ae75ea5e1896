import ComputeMonitor.Table.Merging

/-!
Sorting by merging runs within one list of slots.

A run is known by the indices where it starts and ends. Each round merges the runs in pairs into a buffer,
which is then copied back, until no index is left between the first and the last one. An index out of
bounds ends the sort without a result, as does a round that leaves no fewer indices than before: there is
such a round among any that never end.
-/

set_option autoImplicit false

namespace ComputeMonitor.Table

variable {σ α : Type}

/-- A computation that can ask a comparison with a state, and has no result where it fails. -/
abbrev InPlace (σ : Type) := StateT σ Option

namespace InPlace

def lift (asked : StateM σ α) : InPlace σ α := fun state => some (asked.run state)

def slot (items : List α) (index : Nat) : InPlace σ α :=
  match items[index]? with
  | some item => pure item
  | none => failure

/-- The items from one index up to another one, which must not be smaller nor lie beyond the end. -/
def slice (items : List α) (start stop : Nat) : InPlace σ (List α) :=
  if start ≤ stop ∧ stop ≤ items.length then pure ((items.take stop).drop start) else failure

def fill (buffer : List α) (start stop : Nat) (items : List α) : InPlace σ (List α) :=
  if start + items.length = stop ∧ stop ≤ buffer.length then
    pure (buffer.take start ++ items ++ buffer.drop stop)
  else failure

def copy (items buffer : List α) : InPlace σ (List α) :=
  if items.length = buffer.length then pure buffer else failure

/-- Whether the next left item goes first: no right item is left, or there is a left one that is not
strictly greater. -/
def takesLeft (comparison : Comparison σ α) (lefts rights : List α) (leftIndex rightIndex : Nat) :
    InPlace σ Bool :=
  if rights.length ≤ rightIndex then pure true
  else if leftIndex < lefts.length then do
    let answer ← lift (comparison (← slot lefts leftIndex) (← slot rights rightIndex))
    return answer != .gt
  else pure false

def mergeSlots (comparison : Comparison σ α) (lefts rights : List α) :
    Nat → Nat → Nat → InPlace σ (List α)
  | 0, _, _ => pure []
  | slots + 1, leftIndex, rightIndex => do
    if ← takesLeft comparison lefts rights leftIndex rightIndex then
      let item ← slot lefts leftIndex
      return item :: (← mergeSlots comparison lefts rights slots (leftIndex + 1) rightIndex)
    else
      let item ← slot rights rightIndex
      return item :: (← mergeSlots comparison lefts rights slots leftIndex (rightIndex + 1))

/-- The indices, from one on, where an item is strictly smaller than the one before it, and the last bound
behind them. -/
def descents (comparison : Comparison σ α) (items : List α) (index : Nat) : Nat → InPlace σ (List Nat)
  | 0 => pure [items.length]
  | remaining + 1 => do
    let answer ← lift (comparison (← slot items (index - 1)) (← slot items index))
    let later ← descents comparison items (index + 1) remaining
    return if answer = .gt then index :: later else later

/-- Where a run and the next one end. The last run may be without a next one. -/
def pairEnd (bounds : List Nat) (run middle : Nat) : InPlace σ Nat :=
  if run + 2 ≤ bounds.length - 1 then slot bounds (run + 2) else pure middle

/-- Merge the runs between bounds in pairs into a buffer, from a run on. An odd one at the end is merged
with nothing. Returns the buffer and the bounds that are left. -/
def mergeBounds (comparison : Comparison σ α) (items : List α) (bounds : List Nat) (buffer : List α)
    (run : Nat) : InPlace σ (List α × List Nat) := do
  if run < bounds.length - 1 then
    let start ← slot bounds run
    let middle ← slot bounds (run + 1)
    let stop ← pairEnd bounds run middle
    let merged ← mergeSlots comparison (← slice items start middle) (← slice items middle stop)
      (stop - start) 0 0
    let rest ← mergeBounds comparison items bounds (← fill buffer start stop merged) (run + 2)
    return (rest.1, stop :: rest.2)
  else return (buffer, [])
termination_by bounds.length - run

/-- Merge pairs of runs, round after round, until the items are one run. After a round that left no fewer
bounds the rounds might never end, so it has no result. -/
def mergeRounds (comparison : Comparison σ α) (items buffer : List α) (bounds : List Nat) :
    InPlace σ (List α) := do
  if 2 < bounds.length then
    let round ← mergeBounds comparison items bounds buffer 0
    let items ← copy items round.1
    if (0 :: round.2).length < bounds.length then mergeRounds comparison items round.1 (0 :: round.2)
    else failure
  else return items
termination_by bounds.length

def sort (comparison : Comparison σ α) (items : List α) : InPlace σ (List α) := do
  if items.length < 2 then return items
  else mergeRounds comparison items items (0 :: (← descents comparison items 1 (items.length - 1)))

end InPlace
end ComputeMonitor.Table
