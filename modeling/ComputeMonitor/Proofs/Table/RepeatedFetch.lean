import ComputeMonitor.Proofs.Table.Inside
import ComputeMonitor.Proofs.Table.Mirror
import ComputeMonitor.Proofs.Table.SteadyRows

/-!
The same answer taken twice.

After a pass every entry is up to date with its item, so that a second pass over the same collection formats
nothing; entries that it adds for items that are not there are gone at its end and count on neither side.
Rows stay, and a selection whose rows can be told apart is found again at its place.

Rows are told apart by the keys of entries. An entry whose token is the one of its item keeps the key of the
item it was formatted from, so that unique keys of the items are those of the entries only where tokens tell
items of different keys apart.
-/

set_option autoImplicit false

namespace ComputeMonitor.Table

variable {Item : Type}

theorem Entry.remoteIndex_synchronize (schema : Schema Item) (entry : Entry) (index : Nat) (item : Item) :
    (entry.synchronize schema index item).1.remoteIndex = index := by
  unfold synchronize
  split <;> rfl

theorem Entry.synchronize_of_settled (schema : Schema Item) (entry : Entry) {index : Nat} {item : Item}
    (atIndex : entry.remoteIndex = index) (current : entry.needsFormat schema item = false) :
    entry.synchronize schema index item = (entry, .skipped) := by
  subst atIndex
  exact synchronize_of_current schema entry _ item current

theorem SyncReport.foldl_count_skipped (outcomes : List EntrySync) (report : SyncReport)
    (skipped : ∀ outcome ∈ outcomes, outcome = .skipped) : outcomes.foldl count report = report := by
  induction outcomes with
  | nil => rfl
  | cons outcome rest ih =>
    have ⟨isSkipped, restSkipped⟩ := List.forall_mem_cons.1 skipped
    rw [List.foldl_cons, isSkipped]
    exact ih restSkipped

section Keys

def Schema.TellsKeys (schema : Schema Item) (known : Item → Prop) : Prop :=
  ∀ left right, known left → known right → schema.changeToken left = schema.changeToken right →
    schema.rowKey left = schema.rowKey right

def Collection.UniqueKeys (schema : Schema Item) (collection : Collection Item) : Prop :=
  collection.reachable.Pairwise fun left right =>
    (schema.rowKey left).agrees schema.keyMatch (schema.rowKey right) = false

instance (schema : Schema Item) (collection : Collection Item) : Decidable (collection.UniqueKeys schema) :=
  inferInstanceAs (Decidable (List.Pairwise _ _))

variable {schema : Schema Item} {known : Item → Prop}

variable {cache : Cache} {collection : Collection Item}

theorem Cache.Fresh.keys_synchronize (fresh : cache.Fresh schema known) (tellsKeys : schema.TellsKeys known)
    (areKnown : ∀ item ∈ collection.reachable, known item) :
    (cache.synchronize schema collection).1.map Entry.key = collection.reachable.map schema.rowKey := by
  refine List.ext_getElem? fun index => ?_
  rw [List.getElem?_map, List.getElem?_map]
  cases itemAt : collection.reachable[index]? with
  | some item =>
    obtain ⟨shown, shownKnown, tokens, same⟩ := fresh.getElem?_synchronize areKnown itemAt
    have sameKey := tellsKeys shown item shownKnown (areKnown item (List.mem_of_getElem? itemAt)) tokens
    rw [same]
    exact congrArg some sameKey
  | none =>
    have beyond := List.getElem?_eq_none_iff.1 itemAt
    rw [List.getElem?_eq_none (by rw [length_synchronize]; omega)]
    rfl

theorem Cache.Fresh.uniqueKeys_synchronize (fresh : cache.Fresh schema known)
    (tellsKeys : schema.TellsKeys known) (areKnown : ∀ item ∈ collection.reachable, known item)
    (unique : collection.UniqueKeys schema) :
    (cache.synchronize schema collection).1.UniqueKeys schema.keyMatch := by
  have keys := fresh.keys_synchronize tellsKeys areKnown
  have apart : (collection.reachable.map schema.rowKey).Pairwise fun left right =>
      left.agrees schema.keyMatch right = false := List.pairwise_map.2 unique
  rw [← keys] at apart
  exact List.pairwise_map.1 apart

end Keys

section Passes

variable {schema : Schema Item} {collection : Collection Item} {cache : Cache}

/-- The report of a pass that finds nothing to do, which does not depend on the cache. -/
def Collection.idleReport (collection : Collection Item) : SyncReport :=
  { truncated := decide (collection.reachable.length < collection.count) }

theorem Collection.needsRepaint_idleReport (collection : Collection Item) :
    collection.idleReport.needsRepaint = false := rfl

/-- There is one entry for each item that can be read, and it is up to date with the item. -/
structure Cache.Current (schema : Schema Item) (collection : Collection Item) (cache : Cache) : Prop where
  length : cache.length = collection.reachable.length
  entries : ∀ (index : Nat) (entry : Entry) (item : Item), cache[index]? = some entry →
    collection.reachable[index]? = some item →
    entry.remoteIndex = index ∧ entry.needsFormat schema item = false

namespace Cache

theorem current_synchronize (schema : Schema Item) (cache : Cache) (collection : Collection Item) :
    (cache.synchronize schema collection).1.Current schema collection where
  length := cache.length_synchronize schema collection
  entries index entry item isAt itemAt := by
    have bound := collection.length_reachable_le
    have inside : index < collection.reachable.length := (List.getElem?_eq_some_iff.1 itemAt).1
    have before := List.getElem?_eq_getElem (l := cache.resize collection.count) (i := index)
      (by rw [length_resize]; omega)
    rw [getElem?_synchronize schema cache collection before itemAt] at isAt
    obtain rfl := Option.some.inj isAt
    exact ⟨Entry.remoteIndex_synchronize .., Entry.needsFormat_synchronize ..⟩

theorem Current.passOutcomes_eq (current : cache.Current schema collection) :
    cache.passOutcomes schema collection = cache.map fun entry => (entry, .skipped) := by
  have bound := collection.length_reachable_le
  have length := current.length
  refine List.ext_getElem? fun index => ?_
  by_cases inside : index < cache.length
  · have isAt := List.getElem?_eq_getElem inside
    have itemAt := List.getElem?_eq_getElem (l := collection.reachable) (i := index) (by omega)
    obtain ⟨atIndex, upToDate⟩ := current.entries index _ _ isAt itemAt
    have resized : (cache.resize collection.count)[index]? = some cache[index] := by
      rw [getElem?_resize cache inside (by omega), isAt]
    rw [getElem?_passOutcomes schema cache collection resized itemAt,
      Entry.synchronize_of_settled schema _ atIndex upToDate, List.getElem?_map, isAt, Option.map_some]
  · have passLength : (cache.passOutcomes schema collection).length = collection.reachable.length := by
      rw [← length_synchronize schema cache collection, synchronize_entries, List.length_map]
    rw [List.getElem?_eq_none (by omega), List.getElem?_eq_none (by rw [List.length_map]; omega)]

/-- A pass over a cache that is up to date changes nothing, also where it adds entries for items that are
not there and removes them again. -/
theorem Current.synchronize_eq (current : cache.Current schema collection) :
    cache.synchronize schema collection = (cache, collection.idleReport) := by
  have bound := collection.length_reachable_le
  have length := current.length
  have outcomes := current.passOutcomes_eq
  unfold passOutcomes at outcomes
  have entries : (cache.map fun entry => (entry, EntrySync.skipped)).map Prod.fst = cache := by
    rw [List.map_map]
    exact List.map_id cache
  have counted (report : SyncReport) :
      ((cache.map fun entry => (entry, EntrySync.skipped)).map Prod.snd).foldl .count report = report := by
    refine SyncReport.foldl_count_skipped _ report fun outcome member => ?_
    obtain ⟨_, isPair, rfl⟩ := List.mem_map.1 member
    obtain ⟨_, -, rfl⟩ := List.mem_map.1 isPair
    rfl
  simp only [synchronize, synchronizeItems_eq, outcomes, entries, counted, Collection.idleReport, Prod.mk.injEq,
    true_and]
  split
  next short =>
    simp only [SyncReport.remove, SyncReport.mk.injEq, decide_eq_true short, true_and, and_true]
    omega
  next whole =>
    simp only [SyncReport.mk.injEq, decide_eq_false whole, true_and, and_true]
    omega

end Cache
end Passes

namespace ListView

variable {schema : Schema Item} {view : ListView} {collection : Collection Item}

/-- A table as a completed fetch leaves it: entries are up to date with their items, and everything lies within
its bounds. -/
structure UpToDate (schema : Schema Item) (collection : Collection Item) (view : ListView) : Prop
    extends InBounds schema view where
  current : view.cache.Current schema collection

theorem fetchComplete_upToDate (ordered : view.Ordered schema) (polling : view.schedule.phase = .polling)
    (collection : Collection Item) :
    (view.fetchComplete schema collection).1.UpToDate schema collection := by
  have reorders : (Operation.fetchComplete collection).Reorders schema view := polling
  have inBounds : (view.fetchComplete schema collection).1.InBounds schema :=
    inBounds_of_reorders ordered reorders
  refine ⟨inBounds, ?_⟩
  rw [(view.fetchComplete_rows schema polling collection).cache]
  exact Cache.current_synchronize schema view.cache collection

theorem UpToDate.synchronize_eq (upToDate : view.UpToDate schema collection)
    (unique : view.cache.UniqueKeys schema.keyMatch) :
    synchronize schema view collection = (view, ⟨collection.idleReport, false, false⟩) := by
  have rows : view.permutation.length = view.cache.length := upToDate.ordered.shows.length_eq
  have restored := restore_capture upToDate.ordered unique upToDate.inside
  -- Nothing was formatted, so only a number of rows other than that of entries could call for a sort.
  have settled : view.needsResort collection.idleReport = false := by
    simp [needsResort, SyncReport.sizeChanged, Collection.idleReport, rows]
  unfold synchronize
  rw [upToDate.current.synchronize_eq]
  dsimp only
  rw [settled, collection.needsRepaint_idleReport]
  simp only [Bool.false_eq_true, if_false, restore, restored, bne_self_eq_false, Bool.or_self]

def itemsOf (operations : List (Operation Item)) : List Item :=
  operations.flatMap fun
    | .fetchComplete collection => collection.reachable
    | _ => []

theorem fresh_perform {known : Item → Prop} (fresh : view.cache.Fresh schema known) (operation : Operation Item)
    (areKnown : ∀ item ∈ itemsOf [operation], known item) :
    (view.perform schema operation).cache.Fresh schema known := by
  rcases view.perform_course schema operation with kept | ⟨collection, rfl, refreshed⟩
  · exact kept.fresh fresh
  · rw [refreshed.cache]
    exact fresh.synchronize (by simpa [itemsOf] using areKnown)

theorem fresh_run {known : Item → Prop} (fresh : view.cache.Fresh schema known)
    (operations : List (Operation Item)) (areKnown : ∀ item ∈ itemsOf operations, known item) :
    (view.run schema operations).cache.Fresh schema known := by
  induction operations generalizing view with
  | nil => exact fresh
  | cons operation rest ih =>
    have ⟨firstKnown, restKnown⟩ : (∀ item ∈ itemsOf [operation], known item) ∧
        ∀ item ∈ itemsOf rest, known item := by
      simpa [itemsOf, or_imp, forall_and] using areKnown
    exact ih (fresh_perform fresh operation firstKnown) restKnown

theorem run_ticks (schema : Schema Item) (view : ListView) (ticks : List (Nat × Link)) :
    ∃ schedule, view.run schema (ticks.map fun (now, link) => .tick now link) = { view with schedule } := by
  induction ticks generalizing view with
  | nil => exact ⟨view.schedule, rfl⟩
  | cons tick rest ih =>
    obtain ⟨now, link⟩ := tick
    change ∃ schedule, ((view.tick? now link).getD view).run schema _ = _
    cases begun : view.tick? now link with
    | none => exact ih view
    | some after =>
      obtain ⟨begunSchedule, rfl, -, -⟩ := view.tick?_eq_some begun
      exact ih { view with schedule := begunSchedule }

structure ChangesNothing (before after : ListView) (report : RefreshReport) : Prop where
  formatted : report.sync.formatted = 0
  changed : report.sync.changed = 0
  grown : report.sync.grown = 0
  shrunk : report.sync.shrunk = 0
  resorted : report.resorted = false
  repaint : report.repaint = false
  cache : after.cache = before.cache
  permutation : after.permutation = before.permutation
  sort : after.sort = before.sort
  selection : after.selection = before.selection

theorem UpToDate.refetch_changesNothing (upToDate : view.UpToDate schema collection)
    (unique : view.cache.UniqueKeys schema.keyMatch) (ticks : List (Nat × Link)) {report : RefreshReport} :
    let waiting := view.run schema (ticks.map fun (now, link) => .tick now link)
    let second := waiting.fetchComplete schema collection
    second.2 = some report → ChangesNothing view second.1 report := by
  intro waiting second isReport
  obtain ⟨schedule, isWaiting⟩ : ∃ schedule, waiting = { view with schedule } := run_ticks schema view ticks
  have completed : second.2.isSome = true := isReport ▸ rfl
  obtain ⟨before, after, isSecond, -, isSecondReport⟩ :=
    waiting.fetchComplete_of_polling schema (polling_of_completed completed) collection
  change second.1 = _ at isSecond
  change second.2 = _ at isSecondReport
  -- Neither the ticks nor the phases of the fetch touch anything that the pass depends on.
  have current : UpToDate schema collection { waiting with schedule := before } := by
    rw [isWaiting]
    exact ⟨⟨upToDate.ordered, upToDate.inside⟩, upToDate.current⟩
  have same := current.synchronize_eq (by rw [isWaiting]; exact unique)
  rw [same] at isSecond isSecondReport
  obtain rfl := Option.some.inj (isReport.symm.trans isSecondReport)
  rw [isSecond, isWaiting]
  exact ⟨rfl, rfl, rfl, rfl, rfl, rfl, rfl, rfl, rfl, rfl⟩

/-- After any run of operations, the second of two completed fetches of one collection with ticks alone
between them changes nothing, if the entries can be told apart after the first; they can if the items can and
tokens tell the keys of all items fetched so far. -/
theorem run_new_refetch_changes_nothing (schema : Schema Item) (cadence : Cadence)
    (operations : List (Operation Item)) (collection : Collection Item) (ticks : List (Nat × Link)) :
    let view := (new schema cadence).run schema operations
    let first := view.fetchComplete schema collection
    let waiting := first.1.run schema (ticks.map fun (now, link) => .tick now link)
    let second := waiting.fetchComplete schema collection
    first.2.isSome = true →
      (collection.UniqueKeys schema →
        schema.TellsKeys (· ∈ itemsOf (operations ++ [.fetchComplete collection])) →
        first.1.cache.UniqueKeys schema.keyMatch) ∧
      (first.1.cache.UniqueKeys schema.keyMatch → ∀ report, second.2 = some report →
        ChangesNothing first.1 second.1 report) := by
  intro view first waiting second completed
  have ordered : view.Ordered schema := (ordered_new schema cadence).run operations
  have polling : view.schedule.phase = .polling := polling_of_completed completed
  refine ⟨fun unique tellsKeys => ?_, fun unique report isReport => ?_⟩
  · -- Every item that was ever formatted counts as known, those of this collection among them.
    have knownIff (item : Item) : item ∈ itemsOf (operations ++ [.fetchComplete collection]) ↔
        item ∈ itemsOf operations ∨ item ∈ collection.reachable := by
      simp [itemsOf]
    have fresh : view.cache.Fresh schema (· ∈ itemsOf (operations ++ [.fetchComplete collection])) :=
      fresh_run Cache.fresh_nil operations fun item member => (knownIff item).2 (.inl member)
    have areKnown : ∀ item ∈ collection.reachable,
        item ∈ itemsOf (operations ++ [.fetchComplete collection]) :=
      fun item member => (knownIff item).2 (.inr member)
    rw [(view.fetchComplete_rows schema polling collection).cache]
    exact fresh.uniqueKeys_synchronize tellsKeys areKnown unique
  · exact (fetchComplete_upToDate ordered polling collection).refetch_changesNothing unique ticks isReport

section Letters

/-- Four letters sorted backwards, with rows selected within the table and beyond it, the view scrolled to a
letter that is gone in the next answer, and a poll under way. -/
def scrolledLetters : List (Operation (Char × Nat)) :=
  letterRefresh 0 [('a', 1), ('b', 2), ('c', 3), ('d', 4)] ++
    [.adjust (.applySort ⟨some 1, .descending⟩),
      .adjust (.select fun selection =>
        { selection with selected := .ofList [1, 9], cursor := some 9, scrollTop := 3 }),
      .tick 1000 .connected]

def shortLetters : Collection (Char × Nat) := ⟨5, ([('c', 3), ('d', 5)][·]?)⟩

theorem letters_refetch_changes_nothing :
    let view := (new letterSchema {}).run letterSchema scrolledLetters
    let first := view.fetchComplete letterSchema shortLetters
    let waiting := first.1.run letterSchema [.tick 1500 .connected, .tick 2000 .connected]
    let second := waiting.fetchComplete letterSchema shortLetters
    view.selection.scrollTop = 3 ∧ first.1.selection = ⟨.ofList [1], none, 1⟩ ∧
      first.2.isSome = true ∧ shortLetters.UniqueKeys letterSchema ∧
      letterSchema.TellsKeys (· ∈ itemsOf (scrolledLetters ++ [.fetchComplete shortLetters])) ∧
      ∃ report, second.2 = some report ∧ report.sync.truncated = true ∧
        ChangesNothing first.1 second.1 report := by
  intro view first waiting second
  have completed : first.2.isSome = true := by decide +kernel
  have unique : shortLetters.UniqueKeys letterSchema := by decide +kernel
  have tellsKeys : letterSchema.TellsKeys (· ∈ itemsOf (scrolledLetters ++ [.fetchComplete shortLetters])) := by
    have told : ∀ left ∈ itemsOf (scrolledLetters ++ [.fetchComplete shortLetters]),
        ∀ right ∈ itemsOf (scrolledLetters ++ [.fetchComplete shortLetters]),
          letterSchema.changeToken left = letterSchema.changeToken right →
            letterSchema.rowKey left = letterSchema.rowKey right := by decide +kernel
    exact fun left right leftKnown rightKnown => told left leftKnown right rightKnown
  have isReport : second.2 = some ⟨{ truncated := true }, false, false⟩ := by decide +kernel
  obtain ⟨tellsApart, changesNothing⟩ := run_new_refetch_changes_nothing letterSchema {} scrolledLetters
    shortLetters [(1500, .connected), (2000, .connected)] completed
  exact ⟨by decide +kernel, by decide +kernel, completed, unique, tellsKeys, _, isReport, rfl,
    changesNothing (tellsApart unique tellsKeys) _ isReport⟩

end Letters

section StaleKey

/-- A letter and another one below it to which the view is scrolled, with a poll under way. -/
def scrolledClocks : List (Operation (Char × String × UInt64)) :=
  [.tick 0 .connected, .fetchComplete (.ofList [('b', "0:00:01", 1), ('z', "0:00:02", 2)]),
    .adjust (.select fun selection => { selection with scrollTop := 1 }), .tick 1000 .connected]

/-- The letter has moved down, and the one in its place has taken over its version. -/
def reversionedClocks : Collection (Char × String × UInt64) :=
  .ofList [('a', "0:00:01", 1), ('b', "0:00:02", 3)]

/-- Items that can be told apart are not enough: an entry that keeps the key of another letter, since its token
has stayed, leads the view astray when the same answer comes again. -/
theorem stale_key_scrolls_view :
    ¬ ∀ operations (collection : Collection (Char × String × UInt64)) (ticks : List (Nat × Link)),
      let view := (new clockSchema {}).run clockSchema operations
      let first := view.fetchComplete clockSchema collection
      let waiting := first.1.run clockSchema (ticks.map fun (now, link) => .tick now link)
      let second := waiting.fetchComplete clockSchema collection
      collection.UniqueKeys clockSchema → first.2.isSome = true →
        ∀ report, second.2 = some report → ChangesNothing first.1 second.1 report := by
  intro always
  have unique : reversionedClocks.UniqueKeys clockSchema := by decide +kernel
  have nothing := always scrolledClocks reversionedClocks [(2000, .connected)] unique (by decide +kernel)
    ⟨{}, false, true⟩ (by decide +kernel)
  exact absurd nothing.repaint (by decide)

end StaleKey

end ListView
end ComputeMonitor.Table
