import ComputeMonitor.Proofs.Table.Merging
import ComputeMonitor.Table.InPlaceSorting

/-!
Sorting in place has a result, whatever the comparison answers.

The bounds of runs always are those of some way to cut the items into runs. From their shape alone every
index is within bounds, and a round leaves fewer of them until one run is left; the answers only decide which
runs there are and which item goes first. What is left in the slots is what merging the runs yields.
-/

set_option autoImplicit false

namespace ComputeMonitor.Table.InPlace

variable {σ α β : Type}

theorem lift_pure (value : α) : (lift (pure value) : InPlace σ α) = pure value := rfl

theorem lift_bind (asked : StateM σ α) (next : α → StateM σ β) :
    lift (asked >>= next) = lift asked >>= fun value => lift (next value) := rfl

/-- What follows a question need only agree on results that can come out of it. -/
theorem lift_bind_congr {asked : StateM σ α} {next other : α → InPlace σ β} {P : α → Prop}
    (holds : ∀ state, P (asked.run state).1) (agree : ∀ value, P value → next value = other value) :
    lift asked >>= next = lift asked >>= other := by
  funext state
  change next (asked.run state).1 (asked.run state).2 = other (asked.run state).1 (asked.run state).2
  rw [agree _ (holds state)]

section Slots

theorem slot_eq {items : List α} {index : Nat} {item : α} (isAt : items[index]? = some item) :
    (slot items index : InPlace σ α) = pure item := by
  rw [slot, isAt]

theorem slice_append (front middle back : List α) :
    (slice (front ++ middle ++ back) front.length (front.length + middle.length) : InPlace σ (List α)) =
      pure middle := by
  have inside : front.length ≤ front.length + middle.length ∧
      front.length + middle.length ≤ (front ++ middle ++ back).length := by
    simp only [List.length_append]
    omega
  rw [slice, if_pos inside, ← List.length_append, List.take_left, List.drop_left]

theorem fill_append (front old back items : List α) (sameLength : items.length = old.length) :
    (fill (front ++ old ++ back) front.length (front.length + old.length) items : InPlace σ (List α)) =
      pure (front ++ items ++ back) := by
  have inside : front.length + items.length = front.length + old.length ∧
      front.length + old.length ≤ (front ++ old ++ back).length := by
    simp only [List.length_append]
    omega
  rw [fill, if_pos inside, ← List.length_append, List.drop_left, List.append_assoc front old back,
    List.take_left]

theorem copy_eq {items buffer : List α} (sameLength : items.length = buffer.length) :
    (copy items buffer : InPlace σ (List α)) = pure buffer := if_pos sameLength

end Slots

variable (comparison : Comparison σ α)

section Merging

theorem takesLeft_of_no_right {lefts rights : List α} {leftIndex rightIndex : Nat}
    (ended : rights.length ≤ rightIndex) :
    takesLeft comparison lefts rights leftIndex rightIndex = pure true := if_pos ended

theorem takesLeft_of_no_left {lefts rights : List α} {leftIndex rightIndex : Nat}
    (rightInside : rightIndex < rights.length) (ended : lefts.length ≤ leftIndex) :
    takesLeft comparison lefts rights leftIndex rightIndex = pure false := by
  rw [takesLeft, if_neg (Nat.not_le_of_lt rightInside), if_neg (Nat.not_lt_of_le ended)]

theorem takesLeft_of_both {lefts rights : List α} {leftIndex rightIndex : Nat} {left right : α}
    (leftAt : lefts[leftIndex]? = some left) (rightAt : rights[rightIndex]? = some right) :
    takesLeft comparison lefts rights leftIndex rightIndex =
      lift (comparison left right) >>= fun answer => pure (answer != .gt) := by
  have leftInside := (List.getElem?_eq_some_iff.1 leftAt).1
  have rightInside := (List.getElem?_eq_some_iff.1 rightAt).1
  rw [takesLeft, if_neg (Nat.not_le_of_lt rightInside), if_pos leftInside, slot_eq leftAt, slot_eq rightAt]
  simp only [pure_bind]

theorem merge_nil_right (lefts : List α) : merge comparison lefts [] = pure lefts := by
  cases lefts <;> rw [merge]

theorem mergeSlots_eq (lefts rights : List α) (slots leftIndex rightIndex : Nat)
    (leftInside : leftIndex ≤ lefts.length) (rightInside : rightIndex ≤ rights.length)
    (asMany : slots = lefts.length - leftIndex + (rights.length - rightIndex)) :
    mergeSlots comparison lefts rights slots leftIndex rightIndex =
      lift (merge comparison (lefts.drop leftIndex) (rights.drop rightIndex)) := by
  -- By induction on the slots that are left, which are as many as the items left on both sides.
  induction slots generalizing leftIndex rightIndex with
  | zero =>
    rw [List.drop_of_length_le (by omega), List.drop_of_length_le (by omega), merge, lift_pure]
    rfl
  | succ slots ih =>
    rw [mergeSlots]
    -- The comparison is asked only where both sides have an item left.
    by_cases rightLeft : rightIndex < rights.length
    · have rightAt := List.getElem?_eq_getElem rightLeft
      have takeRight := ih leftIndex (rightIndex + 1) leftInside rightLeft (by omega)
      rw [List.drop_eq_getElem_cons rightLeft]
      by_cases leftLeft : leftIndex < lefts.length
      · have leftAt := List.getElem?_eq_getElem leftLeft
        have takeLeft := ih (leftIndex + 1) rightIndex leftLeft rightInside (by omega)
        rw [List.drop_eq_getElem_cons rightLeft] at takeLeft
        rw [List.drop_eq_getElem_cons leftLeft] at takeRight ⊢
        rw [takesLeft_of_both comparison leftAt rightAt, slot_eq leftAt, slot_eq rightAt, takeLeft, takeRight,
          merge, lift_bind]
        simp only [bind_assoc, pure_bind]
        congr 1
        funext answer
        cases answer <;> rfl
      · rw [takesLeft_of_no_left comparison rightLeft (Nat.le_of_not_lt leftLeft), slot_eq rightAt, takeRight,
          List.drop_of_length_le (Nat.le_of_not_lt leftLeft), merge, merge]
        simp only [pure_bind, lift_pure]
        rfl
    · have leftLeft : leftIndex < lefts.length := by omega
      have leftAt := List.getElem?_eq_getElem leftLeft
      have takeLeft := ih (leftIndex + 1) rightIndex leftLeft rightInside (by omega)
      rw [takesLeft_of_no_right comparison (Nat.le_of_not_lt rightLeft), slot_eq leftAt, takeLeft,
        List.drop_of_length_le (Nat.le_of_not_lt rightLeft), List.drop_eq_getElem_cons leftLeft,
        merge_nil_right, merge_nil_right]
      simp only [pure_bind, lift_pure]
      rfl

end Merging

/-- The bounds of runs that lie one behind the other from an index on. -/
def offsets (start : Nat) : List (List α) → List Nat
  | [] => [start]
  | run :: rest => start :: offsets (start + run.length) rest

theorem offsets_eq_cons (start : Nat) (found : List (List α)) :
    start :: (offsets start found).tail = offsets start found := by
  cases found <;> rfl

@[simp] theorem length_offsets (start : Nat) (found : List (List α)) :
    (offsets start found).length = found.length + 1 := by
  induction found generalizing start with
  | nil => rfl
  | cons run rest ih => rw [offsets, List.length_cons, ih, List.length_cons]

theorem descents_eq (previous : α) (run rest before : List α) :
    descents comparison (before ++ (previous :: run).reverse ++ rest) (before.length + run.length + 1)
        rest.length =
      lift (cutRuns comparison previous run rest) >>= fun found => pure (offsets before.length found).tail := by
  -- By induction on what has not been looked at. The items stay the same: the next one goes from the rest
  -- to the run, or begins a run, and then the run before goes to the items in front.
  induction rest generalizing previous run before with
  | nil =>
    rw [cutRuns, lift_pure, pure_bind, List.length_nil, descents]
    simp [offsets]
  | cons next rest ih =>
    have previousAt : (before ++ (previous :: run).reverse ++ next :: rest)[before.length + run.length]? =
        some previous := by simp
    have nextAt : (before ++ (previous :: run).reverse ++ next :: rest)[before.length + run.length + 1]? =
        some next := by simp [Nat.add_assoc]
    have newRun : descents comparison (before ++ (previous :: run).reverse ++ next :: rest)
        (before.length + run.length + 1 + 1) rest.length = lift (cutRuns comparison next [] rest) >>=
          fun found => pure (offsets (before.length + run.length + 1) found).tail := by
      simpa [Nat.add_assoc] using ih next [] (before ++ (previous :: run).reverse)
    have sameRun : descents comparison (before ++ (previous :: run).reverse ++ next :: rest)
        (before.length + run.length + 1 + 1) rest.length =
          lift (cutRuns comparison next (previous :: run) rest) >>= fun found =>
            pure (offsets before.length found).tail := by
      simpa [Nat.add_assoc] using ih next (previous :: run) before
    rw [cutRuns, lift_bind, List.length_cons, descents, Nat.add_sub_cancel, slot_eq previousAt, slot_eq nextAt]
    simp only [pure_bind, bind_assoc]
    congr 1
    funext answer
    by_cases greater : answer = .gt
    · simp only [greater, ↓reduceIte]
      rw [newRun, lift_bind]
      simp only [bind_assoc, pure_bind, lift_pure]
      congr 1
      funext found
      rw [offsets_eq_cons, offsets, List.tail_cons, List.length_reverse, List.length_cons, Nat.add_assoc]
    · simp only [greater, ↓reduceIte]
      rw [sameRun]
      simp only [bind_assoc, pure_bind]

theorem mergeBounds_of_ended {items buffer : List α} {bounds : List Nat} {run : Nat}
    (ended : bounds.length ≤ run + 1) :
    mergeBounds comparison items bounds buffer run = pure (buffer, []) := by
  rw [mergeBounds]
  exact if_neg (by omega)

theorem slot_offsets_start (before : List Nat) (start : Nat) (found : List (List α)) :
    (slot (before ++ offsets start found) before.length : InPlace σ Nat) = pure start := by
  refine slot_eq ?_
  rw [← offsets_eq_cons]
  simp

theorem slot_offsets_middle (before : List Nat) (start : Nat) (run : List α) (found : List (List α)) :
    (slot (before ++ offsets start (run :: found)) (before.length + 1) : InPlace σ Nat) =
      pure (start + run.length) := by
  have moved := slot_offsets_start (σ := σ) (before ++ [start]) (start + run.length) found
  rwa [List.append_assoc, List.length_append] at moved

theorem pairEnd_offsets_pair (before : List Nat) (start : Nat) (left right : List α) (found : List (List α)) :
    (pairEnd (before ++ offsets start (left :: right :: found)) before.length (start + left.length) :
      InPlace σ Nat) = pure (start + left.length + right.length) := by
  have moved := slot_offsets_middle (σ := σ) (before ++ [start]) (start + left.length) right found
  rw [pairEnd, if_pos (by simp)]
  rwa [List.append_assoc, List.length_append] at moved

theorem pairEnd_offsets_single (before : List Nat) (start : Nat) (run : List α) :
    (pairEnd (before ++ offsets start [run]) before.length (start + run.length) : InPlace σ Nat) =
      pure (start + run.length + ([] : List α).length) := by
  rw [pairEnd, if_neg (by simp)]
  rfl

theorem length_merge (lefts rights : List α) (state : σ) :
    ((merge comparison lefts rights).run state).1.length = lefts.length + rights.length := by
  rw [(merge_perm comparison lefts rights state).length_eq, List.length_append]

/-- Two neighbouring runs are merged into the slots that they take up, whatever stands there. The second
one is empty if there is none. -/
theorem mergeBounds_step (passed left right rest written old later : List α) (before : List Nat)
    (found : List (List α))
    (stopAt : (pairEnd (before ++ offsets passed.length (left :: found)) before.length
      (passed.length + left.length) : InPlace σ Nat) = pure (passed.length + left.length + right.length))
    (sameLength : written.length = passed.length) (oldLength : old.length = left.length + right.length) :
    let items := passed ++ left ++ right ++ rest
    let bounds := before ++ offsets passed.length (left :: found)
    mergeBounds comparison items bounds (written ++ old ++ later) before.length =
      lift (merge comparison left right) >>= fun merged => do
        let following ←
          mergeBounds comparison items bounds (written ++ merged ++ later) (before.length + 2)
        return (following.1, (passed ++ left ++ right).length :: following.2) := by
  intro items bounds
  have stop : (passed ++ left ++ right).length = passed.length + left.length + right.length := by
    rw [List.length_append, List.length_append]
  have leftSlice : (slice items passed.length (passed.length + left.length) : InPlace σ (List α)) =
      pure left := by
    simpa [items] using slice_append passed left (right ++ rest)
  have rightSlice : (slice items (passed.length + left.length) (passed.length + left.length + right.length) :
      InPlace σ (List α)) = pure right := by
    simpa [items] using slice_append (passed ++ left) right rest
  -- Both runs have as many items as there are slots from the start of the first to the end of the second.
  have merging := mergeSlots_eq comparison left right
    (passed.length + left.length + right.length - passed.length) 0 0 (Nat.zero_le _) (Nat.zero_le _) (by omega)
  have inside : before.length < bounds.length - 1 := by
    simp [bounds]
  rw [mergeBounds, if_pos inside, slot_offsets_start, stop]
  simp only [pure_bind, bounds, slot_offsets_middle, stopAt, leftSlice, rightSlice, merging, List.drop_zero]
  refine lift_bind_congr (P := fun merged : List α => merged.length = left.length + right.length)
    (length_merge comparison left right) fun merged length => ?_
  have filled := fill_append (σ := σ) written old later merged (by omega)
  rw [sameLength, oldLength, ← Nat.add_assoc] at filled
  rw [filled, pure_bind]

/-- A run without another behind it is copied into its slots, and ends the round. -/
theorem mergeBounds_of_single (passed run written old : List α) (before : List Nat)
    (sameLength : written.length = passed.length) (oldLength : old.length = run.length) :
    mergeBounds comparison (passed ++ run) (before ++ offsets passed.length [run]) (written ++ old)
        before.length =
      pure (written ++ run, [passed.length + run.length]) := by
  have step := mergeBounds_step comparison passed run [] [] written old [] before []
    (pairEnd_offsets_single before passed.length run) sameLength oldLength
  simp only [List.append_nil] at step
  rw [step, merge_nil_right, lift_pure, pure_bind, mergeBounds_of_ended comparison (by simp), pure_bind,
    List.length_append]

/-- A round over the bounds of runs merges the runs in pairs. The slots before them are not touched. -/
theorem mergeBounds_eq (found : List (List α)) (passed written old : List α) (before : List Nat)
    (sameLength : written.length = passed.length) (oldLength : old.length = found.flatten.length) :
    mergeBounds comparison (passed ++ found.flatten) (before ++ offsets passed.length found) (written ++ old)
        before.length =
      lift (mergePairs comparison found) >>= fun merged =>
        pure (written ++ merged.flatten, (offsets passed.length merged).tail) := by
  induction found using mergePairs.induct generalizing passed written old before with
  | case1 left right rest ih =>
    obtain ⟨here, later, rfl, hereLength⟩ :
        ∃ here later, old = here ++ later ∧ here.length = left.length + right.length := by
      refine ⟨_, _, (List.take_append_drop (left.length + right.length) old).symm, ?_⟩
      simp only [List.flatten_cons, List.length_append] at oldLength
      rw [List.length_take, oldLength]
      omega
    simp only [List.flatten_cons, List.length_append] at oldLength
    have step := mergeBounds_step comparison passed left right rest.flatten written here later before
      (right :: rest) (pairEnd_offsets_pair before passed.length left right rest) sameLength hereLength
    have bounds : before ++ offsets passed.length (left :: right :: rest) =
        before ++ [passed.length, passed.length + left.length] ++
          offsets (passed ++ left ++ right).length rest := by
      simp [offsets, Nat.add_assoc]
    rw [List.flatten_cons, List.flatten_cons, ← List.append_assoc, ← List.append_assoc, ← List.append_assoc,
      step, mergePairs, lift_bind, bind_assoc]
    refine lift_bind_congr (P := fun merged : List α => merged.length = left.length + right.length)
      (length_merge comparison left right) fun merged length => ?_
    -- What is left is the round over the other runs, behind one run more.
    have others := ih (passed ++ left ++ right) (written ++ merged) later
      (before ++ [passed.length, passed.length + left.length]) (by simp; omega) (by omega)
    have stop : (passed ++ left ++ right).length = passed.length + merged.length := by simp; omega
    have behind : (before ++ [passed.length, passed.length + left.length]).length = before.length + 2 :=
      List.length_append
    rw [← bounds, behind, stop] at others
    rw [stop, others, lift_bind]
    simp only [bind_assoc, pure_bind, lift_pure, offsets_eq_cons]
    congr 1
    funext found
    rw [offsets, List.tail_cons, List.flatten_cons, List.append_assoc]
  | case2 rest single =>
    rcases rest with _ | ⟨run, _ | ⟨second, others⟩⟩
    · rw [mergeBounds_of_ended comparison (by simp), mergePairs]
      · simp_all [lift_pure, offsets]
      · exact single
    · rw [List.flatten_singleton] at oldLength ⊢
      rw [mergeBounds_of_single comparison passed run written old before sameLength oldLength, mergePairs,
        lift_pure, pure_bind, List.flatten_singleton]
      · rfl
      · exact single
    · exact (single run second others rfl).elim

theorem mergeRounds_eq (rounds : Nat) (found : List (List α)) (buffer : List α)
    (sameLength : buffer.length = found.flatten.length) (enough : found.length ≤ rounds) :
    mergeRounds comparison found.flatten buffer (offsets 0 found) =
      lift (mergeRuns comparison rounds found) := by
  induction rounds generalizing found buffer with
  | zero =>
    obtain rfl : found = [] := List.length_eq_zero_iff.1 (Nat.le_zero.1 enough)
    rw [mergeRounds, mergeRuns, lift_pure]
    rfl
  | succ rounds ih =>
    rcases found with _ | ⟨first, _ | ⟨second, rest⟩⟩
    · rw [mergeRounds, mergeRuns, lift_pure]
      rfl
    · rw [mergeRounds, mergeRuns, lift_pure, List.flatten_singleton]
      rfl
    · have round := mergeBounds_eq comparison (first :: second :: rest) [] [] buffer [] rfl sameLength
      simp only [List.nil_append, List.length_nil] at round
      have several : 2 < (offsets 0 (first :: second :: rest)).length := by simp
      have unfolded : mergeRuns comparison (rounds + 1) (first :: second :: rest) =
          mergePairs comparison (first :: second :: rest) >>= mergeRuns comparison rounds := by
        rw [mergeRuns] <;> simp
      rw [mergeRounds, if_pos several, round, unfolded, lift_bind, bind_assoc]
      refine lift_bind_congr (P := fun merged =>
        merged.flatten.length = (first :: second :: rest).flatten.length ∧
          merged.length < (first :: second :: rest).length) (fun state => ⟨?_, ?_⟩) ?_
      · exact (mergePairs_perm comparison _ state).length_eq
      · rw [length_mergePairs]
        simp only [List.length_cons]
        omega
      · rintro merged ⟨length, fewer⟩
        -- A round leaves fewer runs and so fewer bounds, which is what the next round asks for.
        have fewerBounds : (offsets 0 merged).length < (offsets 0 (first :: second :: rest)).length := by
          rw [length_offsets, length_offsets]
          omega
        simp only [pure_bind]
        rw [copy_eq length.symm, pure_bind, offsets_eq_cons, if_pos fewerBounds,
          ih merged merged.flatten rfl (by omega)]

/-- Sorting in place yields what sorting by merging runs yields, after the same questions. -/
theorem sort_eq (items : List α) : sort comparison items = lift (sortWith comparison items) := by
  rcases items with _ | ⟨first, _ | ⟨second, rest⟩⟩
  · rfl
  · rfl
  · have bounds : descents comparison (first :: second :: rest) 1 ((first :: second :: rest).length - 1) =
        lift (cutRuns comparison first [] (second :: rest)) >>= fun found => pure (offsets 0 found).tail :=
      descents_eq comparison first [] (second :: rest) []
    have several : ¬ (first :: second :: rest).length < 2 := by simp
    have unfolded : sortWith comparison (first :: second :: rest) =
        cutRuns comparison first [] (second :: rest) >>= fun found =>
          mergeRuns comparison found.length found := rfl
    rw [sort, if_neg several, bounds, unfolded, lift_bind, bind_assoc]
    simp only [pure_bind]
    refine lift_bind_congr (P := fun found => found.flatten = first :: second :: rest)
      (flatten_cutRuns comparison first [] (second :: rest)) fun found whole => ?_
    rw [offsets_eq_cons, ← whole, mergeRounds_eq comparison _ found _ rfl (Nat.le_refl _)]

/-- Sorting in place has a result for any comparison, whatever it answers and whatever its answers depend
on: every index is within bounds and every loop ends. It holds each item as often as before. -/
theorem sort_rearranges (items : List α) (state : σ) :
    ∃ sorted after, (sort comparison items).run state = some (sorted, after) ∧
      (sortWith comparison items).run state = (sorted, after) ∧ sorted.Perm items := by
  refine ⟨_, _, ?_, rfl, sortWith_perm comparison items state⟩
  rw [sort_eq]
  rfl

end ComputeMonitor.Table.InPlace
