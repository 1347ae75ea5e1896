import ComputeMonitor.Proofs.Table.Schedule

/-!
Everything that can be done to a table, and runs of it.

Of all that an operation may change, the order of rows depends on the cache, the sort state and the
permutation. What an operation does to these three is said here once; laws of runs are derived from it
without looking into the operations again.
-/

set_option autoImplicit false

namespace ComputeMonitor.Table

variable {Item : Type}

inductive Adjustment where
  | activateHeader (column : Nat)
  | applySort (sort : SortState)
  | applyLayout (layout : Layout)
  | invalidate
  | setColumnWidth (column : Nat) (width : UInt16)
  | select (change : Selection → Selection)
  | forceRefresh
  | setCadence (cadence : Cadence)
  | setDiagnosticsOpen (diagnosticsOpen : Bool)

def Adjustment.reschedule (schedule : Schedule) : Adjustment → Schedule
  | .forceRefresh => schedule.forceDue
  | .setCadence cadence => schedule.setCadence cadence
  | .setDiagnosticsOpen diagnosticsOpen => schedule.setDiagnosticsOpen diagnosticsOpen
  | _ => schedule

inductive Operation (Item : Type) where
  | tick (now : Nat) (link : Link)
  | fetchFailed
  | fetchComplete (collection : Collection Item)
  | adjust (adjustment : Adjustment)

namespace ListView

def adjust (schema : Schema Item) (view : ListView) : Adjustment → ListView
  | .activateHeader column => view.activateHeader schema column
  | .applySort sort => view.applySort schema sort
  | .applyLayout layout => view.applyLayout schema layout
  | .invalidate => view.invalidate
  | .setColumnWidth column width => view.setColumnWidth column width
  | .select change => view.select change
  | .forceRefresh => view.forceRefresh
  | .setCadence cadence => view.reschedule (·.setCadence cadence)
  | .setDiagnosticsOpen diagnosticsOpen => view.reschedule (·.setDiagnosticsOpen diagnosticsOpen)

def perform (schema : Schema Item) (view : ListView) : Operation Item → ListView
  | .tick now link => (view.tick? now link).getD view
  | .fetchFailed => view.fetchFailed
  | .fetchComplete collection => (view.fetchComplete schema collection).1
  | .adjust adjustment => view.adjust schema adjustment

def run (schema : Schema Item) (view : ListView) (operations : List (Operation Item)) : ListView :=
  operations.foldl (perform schema) view

/-- The rows after a step without an answer: as they were, marked for formatting, or sorted anew. -/
inductive RowsKept (schema : Schema Item) (view after : ListView) : Prop where
  | still (cache : after.cache = view.cache) (sort : after.sort = view.sort)
      (permutation : after.permutation = view.permutation)
  | marked (cache : after.cache = view.cache.invalidate) (sort : after.sort = view.sort)
      (permutation : after.permutation = view.permutation)
  | sorted (cache : after.cache = view.cache) (permutation :
      after.permutation = sortPermutation view.cache schema.columns after.sort view.permutation)

/-- The rows after a step that has followed a collection. -/
structure RowsRefreshed (schema : Schema Item) (collection : Collection Item) (view after : ListView) :
    Prop where
  cache : after.cache = (view.cache.synchronize schema collection).1
  sort : after.sort = view.sort
  permutation :
    after.permutation = sortPermutation after.cache schema.columns view.sort view.permutation ∨
    after.permutation = view.permutation ∧
      (view.cache.synchronize schema collection).2.sizeChanged = false ∧
      ((view.cache.synchronize schema collection).2.changed = 0 ∨ view.sort.column = none)

variable (schema : Schema Item) (view : ListView)

theorem tick?_eq_some {now : Nat} {link : Link} {after : ListView}
    (begun : view.tick? now link = some after) :
    ∃ schedule, after = { view with schedule } ∧ view.schedule.phase = .idle ∧
      schedule.phase = .polling := by
  obtain ⟨schedule, begunPoll, rfl⟩ := Option.map_eq_some_iff.1 begun
  obtain ⟨idle, -, rfl⟩ := Schedule.beginPoll?_eq_some_iff.1 begunPoll
  exact ⟨_, rfl, idle, rfl⟩

theorem fetchFailed_eq : ∃ schedule, view.fetchFailed = { view with schedule } := by
  unfold fetchFailed
  cases view.schedule.fail? with
  | none => exact ⟨_, rfl⟩
  | some schedule => exact ⟨schedule, rfl⟩

theorem fetchFailed_of_synchronizing (stuck : view.schedule.phase = .synchronizing) :
    view.fetchFailed = view := by
  rw [fetchFailed, Schedule.fail?, if_neg (by simp [stuck])]

theorem foldl_widths {Setting : Type} {set : ListView → Setting → ListView}
    (setsWidths : ∀ view setting, ∃ widths, set view setting = { view with widths })
    (settings : List Setting) : ∃ widths, settings.foldl set view = { view with widths } := by
  induction settings generalizing view with
  | nil => exact ⟨_, rfl⟩
  | cons setting rest ih =>
    obtain ⟨widths, same⟩ := setsWidths view setting
    rw [List.foldl_cons, same]
    exact ih { view with widths }

theorem applySort_foldl_widths {Setting : Type} {set : ListView → Setting → ListView}
    (setsWidths : ∀ view setting, ∃ widths, set view setting = { view with widths })
    (settings : List Setting) (sort : SortState) : ∃ widths sort',
    applySort schema (settings.foldl set view) sort = applySort schema { view with widths } sort' := by
  obtain ⟨widths, same⟩ := foldl_widths view setsWidths settings
  exact ⟨widths, sort, congrArg (applySort schema · sort) same⟩

theorem applyLayout_eq (layout : Layout) : ∃ widths sort,
    view.applyLayout schema layout = applySort schema { view with widths } sort := by
  unfold applyLayout
  apply applySort_foldl_widths
  intro view setting
  dsimp only
  cases columnIndex? schema.columns setting.1 with
  | none => exact ⟨view.widths, rfl⟩
  | some column => exact ⟨_, rfl⟩

theorem schedule_synchronize (collection : Collection Item) :
    (synchronize schema view collection).1.schedule = view.schedule := by
  simp only [synchronize]
  split <;> rfl

theorem fetchComplete_of_polling (polling : view.schedule.phase = .polling)
    (collection : Collection Item) : ∃ before after,
    (view.fetchComplete schema collection).1 =
        { (synchronize schema { view with schedule := before } collection).1 with schedule := after } ∧
      after.phase = .idle ∧
      (view.fetchComplete schema collection).2 =
        some (synchronize schema { view with schedule := before } collection).2 := by
  have begun : view.schedule.beginSync? = some { view.schedule with phase := .synchronizing } := by
    rw [Schedule.beginSync?, if_pos polling]
  refine ⟨{ view.schedule with phase := .synchronizing }, { view.schedule with phase := .idle, stale := false },
    ?_, rfl, ?_⟩
  · simp only [fetchComplete, begun, reschedule, schedule_synchronize]
    rfl
  · simp only [fetchComplete, begun]

theorem schedule_fetchComplete (polling : view.schedule.phase = .polling) (collection : Collection Item) :
    (view.fetchComplete schema collection).1.schedule =
      { view.schedule with phase := .idle, stale := false } := by
  simp only [fetchComplete, Schedule.beginSync?, if_pos polling, reschedule, schedule_synchronize]
  rfl

theorem fetchComplete_of_not_polling (notPolling : view.schedule.phase ≠ .polling)
    (collection : Collection Item) : view.fetchComplete schema collection = (view, none) := by
  have refused : view.schedule.beginSync? = none := by rw [Schedule.beginSync?, if_neg notPolling]
  simp only [fetchComplete, refused]

variable {schema view} in
theorem polling_of_completed {collection : Collection Item}
    (completed : (view.fetchComplete schema collection).2.isSome = true) : view.schedule.phase = .polling := by
  refine Decidable.byContradiction fun notPolling => ?_
  rw [view.fetchComplete_of_not_polling schema notPolling collection] at completed
  cases completed

theorem adjust_rows (adjustment : Adjustment) : RowsKept schema view (view.adjust schema adjustment) := by
  cases adjustment with
  | activateHeader column =>
    simp only [adjust, activateHeader]
    split
    next => exact .sorted rfl rfl
    next => exact .still rfl rfl rfl
  | applySort sort => exact .sorted rfl rfl
  | applyLayout layout =>
    obtain ⟨widths, sort, same⟩ := applyLayout_eq schema view layout
    rw [adjust, same]
    exact .sorted rfl rfl
  | invalidate => exact .marked rfl rfl rfl
  | setColumnWidth | select | forceRefresh | setCadence | setDiagnosticsOpen => exact .still rfl rfl rfl

theorem schedule_adjust (adjustment : Adjustment) :
    (view.adjust schema adjustment).schedule = adjustment.reschedule view.schedule := by
  cases adjustment with
  | activateHeader column => simp only [adjust, activateHeader]; split <;> rfl
  | applyLayout layout =>
    obtain ⟨widths, sort, same⟩ := applyLayout_eq schema view layout
    rw [adjust, same]
    rfl
  | applySort | invalidate | setColumnWidth | select | forceRefresh | setCadence
  | setDiagnosticsOpen => rfl

theorem phase_adjust (adjustment : Adjustment) :
    (view.adjust schema adjustment).schedule.phase = view.schedule.phase := by
  rw [schedule_adjust]
  cases adjustment <;> rfl

/-- Rows are brought in order again after the cache has followed its collection, unless nothing moved. -/
theorem synchronize_rows (collection : Collection Item) :
    RowsRefreshed schema collection view (synchronize schema view collection).1 := by
  unfold synchronize
  dsimp only
  split
  next => exact ⟨rfl, rfl, .inl rfl⟩
  next settled =>
    simp only [needsResort, Bool.or_eq_true, Bool.and_eq_true, not_or, not_and,
      Bool.not_eq_true] at settled
    refine ⟨rfl, rfl, .inr ⟨rfl, settled.1.1, ?_⟩⟩
    by_cases unchanged : (view.cache.synchronize schema collection).2.changed = 0
    · exact .inl unchanged
    · exact .inr (by simpa using settled.2 (by simpa using Nat.pos_of_ne_zero unchanged))

theorem fetchComplete_rows (polling : view.schedule.phase = .polling) (collection : Collection Item) :
    RowsRefreshed schema collection view (view.fetchComplete schema collection).1 := by
  obtain ⟨before, after, same, -, -⟩ := view.fetchComplete_of_polling schema polling collection
  have refreshed := synchronize_rows schema { view with schedule := before } collection
  rw [same]
  exact ⟨refreshed.cache, refreshed.sort, refreshed.permutation⟩

/-- Completing a fetch that is waited for follows the collection; any other operation leaves the entries. -/
theorem perform_course (operation : Operation Item) :
    RowsKept schema view (view.perform schema operation) ∨
      ∃ collection, operation = .fetchComplete collection ∧
        RowsRefreshed schema collection view (view.perform schema operation) := by
  cases operation with
  | tick now link =>
    refine .inl ?_
    cases begun : view.tick? now link with
    | none => rw [perform, begun]; exact .still rfl rfl rfl
    | some after =>
      obtain ⟨schedule, rfl, -, -⟩ := view.tick?_eq_some begun
      rw [perform, begun]
      exact .still rfl rfl rfl
  | fetchFailed =>
    obtain ⟨schedule, same⟩ := view.fetchFailed_eq
    rw [perform, same]
    exact .inl (.still rfl rfl rfl)
  | fetchComplete collection =>
    by_cases polling : view.schedule.phase = .polling
    · exact .inr ⟨collection, rfl, view.fetchComplete_rows schema polling collection⟩
    · rw [perform, view.fetchComplete_of_not_polling schema polling collection]
      exact .inl (.still rfl rfl rfl)
  | adjust adjustment => exact .inl (view.adjust_rows schema adjustment)

theorem perform_rows (operation : Operation Item) :
    RowsKept schema view (view.perform schema operation) ∨
      ∃ collection, RowsRefreshed schema collection view (view.perform schema operation) :=
  (view.perform_course schema operation).imp_right fun ⟨collection, _, refreshed⟩ => ⟨collection, refreshed⟩

end ListView
end ComputeMonitor.Table
