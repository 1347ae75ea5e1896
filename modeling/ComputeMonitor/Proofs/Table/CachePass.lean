import ComputeMonitor.Proofs.Table.Cache

/-!
A pass over a collection makes a cache its mirror, and says exactly what it did.

However the cache came about, a pass leaves one entry for each item that could be read, formatted from that
item or, where the token is unchanged, as if it had been. The report counts the entries that had to be
formatted and those that show something else, and on one side only how far the lengths are apart.
-/

set_option autoImplicit false

namespace ComputeMonitor.Table

variable {Item : Type}

namespace Cache

inductive Operation (Item : Type) where
  | grow (target : Nat)
  | shrink (target : Nat)
  | clear
  | invalidate
  | synchronizeEntry (index : Nat) (item : Item)
  | synchronize (collection : Collection Item)

def perform (schema : Schema Item) (cache : Cache) : Operation Item → Cache
  | .grow target => cache.grow target
  | .shrink target => cache.shrink target
  | .clear => []
  | .invalidate => cache.invalidate
  | .synchronizeEntry index item => (cache.synchronizeEntry schema index item).1
  | .synchronize collection => (cache.synchronize schema collection).1

def run (schema : Schema Item) (cache : Cache) (operations : List (Operation Item)) : Cache :=
  operations.foldl (perform schema) cache

variable {schema : Schema Item} {cache : Cache}

theorem Fresh.perform (fresh : cache.Fresh schema fun _ => True) (operation : Operation Item) :
    (cache.perform schema operation).Fresh schema fun _ => True := by
  cases operation with
  | grow target => exact fresh.grow target
  | shrink target => exact fresh.shrink target
  | clear => exact fresh_nil
  | invalidate => exact fresh_invalidate
  | synchronizeEntry index item => exact fresh.synchronizeEntry index trivial
  | synchronize collection => exact fresh.synchronize fun _ _ => trivial

theorem Fresh.run (fresh : cache.Fresh schema fun _ => True) (operations : List (Operation Item)) :
    (cache.run schema operations).Fresh schema fun _ => True := by
  induction operations generalizing cache with
  | nil => exact fresh
  | cons operation rest ih => exact ih (fresh.perform operation)

/-- Whether an item has to be formatted: its entry is missing, is dirty, or holds another token. -/
def formats (schema : Schema Item) (cache : Cache) (index : Nat) (item : Item) : Bool :=
  match cache[index]? with
  | none => true
  | some entry => entry.dirty || entry.token != some (schema.changeToken item)

/-- Whether an item will show something new: its entry is missing or was never formatted, or has to be
formatted and shows something else. -/
def changes (schema : Schema Item) (cache : Cache) (index : Nat) (item : Item) : Bool :=
  match cache[index]? with
  | none => true
  | some entry => entry.token.isNone || cache.formats schema index item &&
      (entry.fields != schema.cells item || entry.key != schema.rowKey item ||
        progressDiffers entry.progress (schema.progress item))

/-- What a pass does to the entry at an index, told by the cache as it was before entries were added. -/
theorem synchronize_resized_outcome {count index : Nat} {item : Item} {entry : Entry}
    (entryAt : (cache.resize count)[index]? = some entry) :
    (entry.synchronize schema index item).2 =
      if cache.formats schema index item then
        if cache.changes schema index item then .changed else .unchanged
      else .skipped := by
  have below : index < count := by
    have bound := (List.getElem?_eq_some_iff.1 entryAt).1
    rwa [length_resize] at bound
  by_cases inside : index < cache.length
  · rw [getElem?_resize cache inside below] at entryAt
    have sameNeed : cache.formats schema index item = entry.needsFormat schema item := by
      rw [formats, entryAt]
      rfl
    rw [sameNeed]
    cases needed : entry.needsFormat schema item with
    | true =>
      have sameChange : cache.changes schema index item = entry.differs (.ofItem schema index item) := by
        simp only [changes, entryAt, sameNeed, needed, Bool.true_and, Entry.differs, Entry.ofItem, Bool.or_assoc]
      rw [Entry.synchronize_of_needsFormat schema entry index item needed, sameChange]
      rfl
    | false =>
      rw [Entry.synchronize_of_current schema entry index item needed]
      rfl
  · -- A new entry is blank: it is dirty and has no token.
    have absent : cache[index]? = none := List.getElem?_eq_none (Nat.le_of_not_lt inside)
    rw [getElem?_resize_added cache (Nat.le_of_not_lt inside) below] at entryAt
    cases entryAt
    rw [formats, changes, absent]
    rfl

theorem formats_of_changes {index : Nat} {item : Item} (changed : cache.changes schema index item = true) :
    cache.formats schema index item = true := by
  unfold changes at changed
  cases entryAt : cache[index]? with
  | none => rw [formats, entryAt]
  | some entry =>
    rw [entryAt] at changed
    rcases Bool.or_eq_true_iff.1 changed with noToken | shown
    · rw [formats, entryAt]
      dsimp only
      rw [Option.isNone_iff_eq_none.1 noToken]
      exact Bool.or_true _
    · exact (Bool.and_eq_true_iff.1 shown).1

theorem countP_eq_countP_range {α : Type} {list : List α} {p : α → Bool} {q : Nat → Bool}
    (agree : ∀ place value, list[place]? = some value → p value = q place) :
    list.countP p = (List.range list.length).countP q := by
  have sameTests : list.map p = (List.range list.length).map q := by
    refine List.ext_getElem (by simp) fun place bound _ => ?_
    rw [List.length_map] at bound
    rw [List.getElem_map, List.getElem_map, List.getElem_range]
    exact agree place _ (List.getElem?_eq_getElem bound)
  have counted := congrArg (List.countP id) sameTests
  rwa [List.countP_map, List.countP_map] at counted

section Report

variable (schema) (cache) (collection : Collection Item)

def countItems (collection : Collection Item) (length : Nat) (test : Nat → Item → Bool) : Nat :=
  (List.range length).countP fun index => (collection.item? index).any (test index)

theorem countP_passOutcomes {p : EntrySync → Bool} {test : Nat → Item → Bool}
    (agree : ∀ index item, p (if cache.formats schema index item then
      if cache.changes schema index item then .changed else .unchanged else .skipped) = test index item) :
    ((cache.passOutcomes schema collection).map Prod.snd).countP p =
      countItems collection collection.reachable.length test := by
  have length : ((cache.passOutcomes schema collection).map Prod.snd).length =
      collection.reachable.length := by
    have bound := collection.length_reachable_le
    simp only [passOutcomes, outcomes, List.length_map, List.length_mapIdx, List.length_zip, length_resize]
    omega
  rw [countItems, ← length]
  -- Both sides are counts over the same indices, and agree at each of them.
  refine countP_eq_countP_range fun index outcome isAt => ?_
  have bound := (List.getElem?_eq_some_iff.1 isAt).1
  rw [length] at bound
  have counted := collection.length_reachable_le
  have entryAt := List.getElem?_eq_getElem (l := cache.resize collection.count) (i := index)
    (by rw [length_resize]; omega)
  have itemAt := List.getElem?_eq_getElem bound
  rw [List.getElem?_map, getElem?_passOutcomes schema cache collection entryAt itemAt,
    Option.map_some, Option.some.injEq] at isAt
  rw [collection.getElem?_reachable bound] at itemAt
  rw [itemAt, Option.any_some, ← agree, ← isAt, synchronize_resized_outcome entryAt]

theorem synchronize_formatted_eq : (cache.synchronize schema collection).2.formatted =
    countItems collection collection.reachable.length (cache.formats schema) := by
  rw [synchronize_formatted]
  refine countP_passOutcomes schema cache collection fun index item => ?_
  cases cache.formats schema index item with
  | false => rfl
  | true => cases cache.changes schema index item <;> rfl

theorem synchronize_changed_eq : (cache.synchronize schema collection).2.changed =
    countItems collection collection.reachable.length (cache.changes schema) := by
  rw [synchronize_changed]
  refine countP_passOutcomes schema cache collection fun index item => ?_
  cases changed : cache.changes schema index item with
  | true => rw [formats_of_changes changed]; rfl
  | false => cases cache.formats schema index item <;> rfl

end Report

/-- A pass made a cache the mirror of a collection, up to the first item that is missing, and its report
tells exactly what it did to the cache before. -/
structure MirrorsExactly (schema : Schema Item) (before : Cache) (collection : Collection Item)
    (after : Cache) (report : SyncReport) : Prop where
  within_count : after.length ≤ collection.count
  ends_at_missing : after.length < collection.count → collection.item? after.length = none
  shows_items : ∀ index entry, after[index]? = some entry →
    ∃ item, collection.item? index = some item ∧ entry.dirty = false ∧ entry.remoteIndex = index ∧
      entry.fields = schema.cells item ∧ entry.key = schema.rowKey item ∧
      entry.progress = schema.progress item
  truncated : report.truncated = true ↔ after.length < collection.count
  one_sided : report.grown = 0 ∨ report.shrunk = 0
  balanced : before.length + report.grown = after.length + report.shrunk
  formatted : report.formatted = countItems collection after.length (before.formats schema)
  changed : report.changed = countItems collection after.length (before.changes schema)

theorem Fresh.mirrorsExactly (fresh : cache.Fresh schema fun _ => True)
    (coherent : schema.Coherent fun _ => True) (collection : Collection Item) :
    MirrorsExactly schema cache collection (cache.synchronize schema collection).1
      (cache.synchronize schema collection).2 := by
  have length := cache.length_synchronize schema collection
  have ⟨grown, shrunk⟩ := cache.synchronize_sizes schema collection
  constructor
  case within_count => exact length ▸ collection.length_reachable_le
  case ends_at_missing => exact length ▸ collection.item?_reachable_end
  case shows_items =>
    intro index entry entryAt
    rw [fresh.synchronize_eq coherent fun _ _ => trivial, List.getElem?_mapIdx, Option.map_eq_some_iff] at entryAt
    obtain ⟨item, itemAt, rfl⟩ := entryAt
    have inside := (List.getElem?_eq_some_iff.1 itemAt).1
    exact ⟨item, collection.getElem?_reachable inside ▸ itemAt, rfl, rfl, rfl, rfl, rfl⟩
  case truncated => exact length ▸ cache.synchronize_truncated schema collection
  case one_sided => omega
  case balanced => omega
  case formatted => exact length ▸ cache.synchronize_formatted_eq schema collection
  case changed => exact length ▸ cache.synchronize_changed_eq schema collection

/-- After any run of operations on a cache, a pass over any collection leaves the mirror of its items and an
exact report, if items with equal change tokens are shown alike. -/
theorem run_mirrorsExactly (schema : Schema Item) (coherent : schema.Coherent fun _ => True)
    (operations : List (Operation Item)) (collection : Collection Item) :
    let cache := run schema [] operations
    MirrorsExactly schema cache collection (cache.synchronize schema collection).1
      (cache.synchronize schema collection).2 := by
  intro cache
  have fresh : cache.Fresh schema fun _ => True := fresh_nil.run operations
  exact fresh.mirrorsExactly coherent collection

/-- Numbers as items, which are their own tokens. The progress of zero is not a number. -/
def numberSchema : Schema UInt64 where
  columns := [⟨"number", "Number", .number, 8⟩]
  rowKey number := ⟨Text.numeral number.toNat, ""⟩
  changeToken number := number
  cell number _ := Text.numeral number.toNat
  progress number := some (if number = 0 then .nan else .ofNat number.toNat)

theorem numberSchema_coherent : numberSchema.Coherent fun _ => True := by
  intro left right _ _ same
  obtain rfl : left = right := same
  exact ⟨rfl, rfl, rfl⟩

/-- Of four entries three are dirty, and two blank ones were added. A pass over a collection that lacks its
last item formats three, of which two show something new: one that took another item in, and the one of
zero, whose progress differs from itself. -/
theorem numbers_mirrorsExactly :
    let operations : List (Operation UInt64) :=
      [.synchronize (.ofList [0, 1, 2, 3]), .invalidate, .synchronizeEntry 1 1, .grow 6]
    let collection : Collection UInt64 := ⟨5, ([0, 1, 2, 7][·]?)⟩
    let cache := run numberSchema [] operations
    let (after, report) := cache.synchronize numberSchema collection
    (numberSchema.Coherent fun _ => True) ∧ report = ⟨3, 2, 0, 2, true⟩ ∧
      MirrorsExactly numberSchema cache collection after report := by
  intro operations collection
  exact ⟨numberSchema_coherent, by decide +kernel,
    run_mirrorsExactly numberSchema numberSchema_coherent operations collection⟩

end Cache
end ComputeMonitor.Table
