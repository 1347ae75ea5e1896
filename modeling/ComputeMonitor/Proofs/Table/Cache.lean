import ComputeMonitor.Table.Cache

/-!
Laws of following a collection.

A pass leaves one entry for every item that could be read, and its report is exact where the order of
rows depends on it: the counts of entries added and removed are those between the lengths before and
after, and without a changed entry all entries show what they showed.

An entry that is not dirty still shows the item that it was formatted from. Where items with equal
tokens are shown alike, a pass therefore leaves every entry as its item is formatted now, whether or not
it was formatted in that pass.
-/

set_option autoImplicit false

namespace ComputeMonitor.Table

variable {Item : Type}

namespace Collection

theorem length_itemsFrom_le (collection : Collection Item) (index remaining : Nat) :
    (collection.itemsFrom index remaining).length ≤ remaining := by
  induction remaining generalizing index with
  | zero => exact Nat.le_refl 0
  | succ remaining ih =>
    unfold itemsFrom
    cases collection.item? index with
    | none => exact Nat.zero_le _
    | some item => exact Nat.succ_le_succ (ih (index + 1))

theorem length_reachable_le (collection : Collection Item) :
    collection.reachable.length ≤ collection.count :=
  collection.length_itemsFrom_le 0 collection.count

theorem getElem?_itemsFrom (collection : Collection Item) (index remaining place : Nat)
    (inside : place < (collection.itemsFrom index remaining).length) :
    (collection.itemsFrom index remaining)[place]? = collection.item? (index + place) := by
  induction remaining generalizing index place with
  | zero => simp [itemsFrom] at inside
  | succ remaining ih =>
    unfold itemsFrom at inside ⊢
    cases isAt : collection.item? index with
    | none => simp [isAt] at inside
    | some item =>
      rw [isAt] at inside
      cases place with
      | zero => exact isAt.symm
      | succ place =>
        rw [List.getElem?_cons_succ, ih (index + 1) place (by simpa using inside)]
        congr 1
        omega

/-- Where the items end before as many were read as asked for, one is missing. -/
theorem item?_itemsFrom_end (collection : Collection Item) (index remaining : Nat)
    (short : (collection.itemsFrom index remaining).length < remaining) :
    collection.item? (index + (collection.itemsFrom index remaining).length) = none := by
  induction remaining generalizing index with
  | zero => exact absurd short (Nat.not_lt_zero _)
  | succ remaining ih =>
    unfold itemsFrom at short ⊢
    cases isAt : collection.item? index with
    | none => exact isAt
    | some item =>
      rw [isAt] at short
      have ended := ih (index + 1) (by simpa using short)
      rw [← ended]
      dsimp only [List.length_cons]
      congr 1
      omega

theorem getElem?_reachable (collection : Collection Item) {index : Nat}
    (inside : index < collection.reachable.length) :
    collection.reachable[index]? = collection.item? index :=
  (collection.getElem?_itemsFrom 0 _ index inside).trans (by rw [Nat.zero_add])

theorem item?_reachable_end (collection : Collection Item)
    (short : collection.reachable.length < collection.count) :
    collection.item? collection.reachable.length = none :=
  (congrArg collection.item? (Nat.zero_add _)).symm.trans
    (collection.item?_itemsFrom_end 0 collection.count short)

theorem itemsFrom_ofList (items : List Item) (index remaining : Nat)
    (enough : index + remaining = items.length) :
    (ofList items).itemsFrom index remaining = items.drop index := by
  induction remaining generalizing index with
  | zero => rw [itemsFrom, List.drop_of_length_le (by omega)]
  | succ remaining ih =>
    have bound : index < items.length := by omega
    have found : (ofList items).item? index = some items[index] := List.getElem?_eq_getElem bound
    simp only [itemsFrom, found]
    rw [ih (index + 1) (by omega), ← List.drop_eq_getElem_cons bound]

@[simp] theorem reachable_ofList (items : List Item) : (ofList items).reachable = items :=
  itemsFrom_ofList items 0 items.length (Nat.zero_add _)

end Collection

section Entries

variable (schema : Schema Item) (entry : Entry) (index : Nat) (item : Item)

theorem Entry.synchronize_of_needsFormat (needed : entry.needsFormat schema item = true) :
    entry.synchronize schema index item = (ofItem schema index item,
      if entry.differs (ofItem schema index item) then .changed else .unchanged) := by
  rw [synchronize, if_pos needed]

theorem Entry.synchronize_of_current (current : entry.needsFormat schema item = false) :
    entry.synchronize schema index item = ({ entry with remoteIndex := index }, .skipped) := by
  rw [synchronize, if_neg (by simp [current])]

/-- An entry that does not count as changed shows what it showed; its progress is the same number. -/
theorem Entry.synchronize_kept (kept : (entry.synchronize schema index item).2 ≠ .changed) :
    let after := (entry.synchronize schema index item).1
    after.fields = entry.fields ∧ after.key = entry.key ∧
      (after.progress = entry.progress ∨ progressDiffers entry.progress after.progress = false) := by
  cases needed : entry.needsFormat schema item with
  | false => rw [synchronize_of_current schema entry index item needed]; exact ⟨rfl, rfl, .inl rfl⟩
  | true =>
    rw [synchronize_of_needsFormat schema entry index item needed] at kept ⊢
    have same : entry.differs (ofItem schema index item) = false := by
      cases differs : entry.differs (ofItem schema index item) with
      | false => rfl
      | true => exact (kept (if_pos differs)).elim
    simp only [differs, Bool.or_eq_false_iff, bne_eq_false_iff_eq] at same
    exact ⟨same.1.1.2.symm, same.1.2.symm, .inr same.2⟩

theorem Entry.needsFormat_synchronize :
    (entry.synchronize schema index item).1.needsFormat schema item = false := by
  cases needed : entry.needsFormat schema item with
  | false =>
    rw [synchronize_of_current schema entry index item needed]
    exact needed
  | true =>
    rw [synchronize_of_needsFormat schema entry index item needed]
    simp only [needsFormat, ofItem, bne_self_eq_false, Bool.or_self]

end Entries

namespace SyncReport

variable (outcomes : List EntrySync) (report : SyncReport)

theorem foldl_count_changed : (outcomes.foldl count report).changed =
    report.changed + outcomes.countP (· = .changed) := by
  induction outcomes generalizing report with
  | nil => rfl
  | cons outcome rest ih =>
    rw [List.foldl_cons, ih, List.countP_cons]
    cases outcome with
    | skipped => simp [count]
    | unchanged => simp [count]
    | changed => simp only [count, decide_true, if_true]; omega

theorem foldl_count_formatted : (outcomes.foldl count report).formatted =
    report.formatted + outcomes.countP (· ≠ .skipped) := by
  induction outcomes generalizing report with
  | nil => rfl
  | cons outcome rest ih =>
    rw [List.foldl_cons, ih, List.countP_cons]
    cases outcome with
    | skipped => simp [count]
    | unchanged => simp only [count, ne_eq, reduceCtorEq, not_false_eq_true, decide_true, if_true]; omega
    | changed => simp only [count, ne_eq, reduceCtorEq, not_false_eq_true, decide_true, if_true]; omega

theorem foldl_count_truncated : (outcomes.foldl count report).truncated = report.truncated := by
  induction outcomes generalizing report with
  | nil => rfl
  | cons outcome rest ih => cases outcome <;> exact ih _

theorem foldl_count_sizes : (outcomes.foldl count report).grown = report.grown ∧
    (outcomes.foldl count report).shrunk = report.shrunk := by
  induction outcomes generalizing report with
  | nil => exact ⟨rfl, rfl⟩
  | cons outcome rest ih => cases outcome with
    | skipped => exact ih report
    | unchanged => exact ih _
    | changed => exact ih _

end SyncReport

namespace Cache

variable (schema : Schema Item) (cache : Cache) (collection : Collection Item)

@[simp] theorem length_resize (target : Nat) : (cache.resize target).length = target := by
  simp only [resize, grow, shrink, List.length_take, List.length_append, List.length_map,
    List.length_range']
  omega

theorem getElem?_resize {index target : Nat} (inside : index < cache.length) (below : index < target) :
    (cache.resize target)[index]? = cache[index]? := by
  rw [resize, shrink, grow, List.getElem?_take, if_pos below, List.getElem?_append_left inside]

theorem getElem?_resize_added {index target : Nat} (beyond : cache.length ≤ index) (below : index < target) :
    (cache.resize target)[index]? = some (.blank index) := by
  rw [resize, shrink, grow, List.getElem?_take, if_pos below, List.getElem?_append_right beyond,
    List.getElem?_map, List.getElem?_range' (by omega)]
  simp only [Option.map_some, Nat.one_mul, Nat.add_sub_cancel' beyond]

/-- The entries brought up to date with the items of their positions, from an index on, and what was
done to each. -/
def outcomes (index : Nat) (cache : Cache) (items : List Item) : List (Entry × EntrySync) :=
  (cache.zip items).mapIdx fun place (entry, item) => entry.synchronize schema (index + place) item

theorem outcomes_cons (index : Nat) (entry : Entry) (rest : Cache) (item : Item) (items : List Item) :
    outcomes schema index (entry :: rest) (item :: items) =
      entry.synchronize schema index item :: outcomes schema (index + 1) rest items := by
  simp only [outcomes, List.zip_cons_cons, List.mapIdx_cons, Nat.add_zero]
  simp only [Nat.add_comm, Nat.add_left_comm]

theorem synchronizeItems_eq (index : Nat) (items : List Item) (report : SyncReport) :
    synchronizeItems schema index cache items report =
      ((outcomes schema index cache items).map Prod.fst,
        ((outcomes schema index cache items).map Prod.snd).foldl .count report) := by
  induction cache generalizing index items report with
  | nil => cases items <;> rfl
  | cons entry rest ih =>
    cases items with
    | nil => rfl
    | cons item items =>
      rw [outcomes_cons, synchronizeItems]
      dsimp only
      rw [ih]
      rfl

def passOutcomes : List (Entry × EntrySync) :=
  outcomes schema 0 (cache.resize collection.count) collection.reachable

theorem getElem?_passOutcomes {index : Nat} {entry : Entry} {item : Item}
    (entryAt : (cache.resize collection.count)[index]? = some entry)
    (itemAt : collection.reachable[index]? = some item) :
    (cache.passOutcomes schema collection)[index]? = some (entry.synchronize schema index item) := by
  have pairAt : ((cache.resize collection.count).zip collection.reachable)[index]? =
      some (entry, item) := List.getElem?_zip_eq_some.2 ⟨entryAt, itemAt⟩
  rw [passOutcomes, outcomes, List.getElem?_mapIdx, pairAt, Option.map_some, Nat.zero_add]

theorem synchronize_entries :
    (cache.synchronize schema collection).1 = (cache.passOutcomes schema collection).map Prod.fst := by
  simp only [synchronize, synchronizeItems_eq]
  rfl

@[simp] theorem length_synchronize :
    (cache.synchronize schema collection).1.length = collection.reachable.length := by
  have bound := collection.length_reachable_le
  simp only [synchronize_entries, passOutcomes, outcomes, List.length_map, List.length_mapIdx,
    List.length_zip, length_resize]
  omega

theorem synchronize_changed : (cache.synchronize schema collection).2.changed =
    ((cache.passOutcomes schema collection).map Prod.snd).countP (· = .changed) := by
  simp only [synchronize, synchronizeItems_eq]
  split <;> exact (SyncReport.foldl_count_changed _ _).trans (Nat.zero_add _)

theorem synchronize_formatted : (cache.synchronize schema collection).2.formatted =
    ((cache.passOutcomes schema collection).map Prod.snd).countP (· ≠ .skipped) := by
  simp only [synchronize, synchronizeItems_eq]
  split <;> exact (SyncReport.foldl_count_formatted _ _).trans (Nat.zero_add _)

theorem synchronize_truncated : (cache.synchronize schema collection).2.truncated = true ↔
    collection.reachable.length < collection.count := by
  simp only [synchronize, synchronizeItems_eq]
  split
  next short => exact ⟨fun _ => short, fun _ => rfl⟩
  next whole =>
    rw [SyncReport.foldl_count_truncated]
    exact ⟨Bool.noConfusion, fun short => (whole short).elim⟩

/-- Entries added and removed again in a pass count on neither side. -/
theorem synchronize_sizes :
    (cache.synchronize schema collection).2.grown = collection.reachable.length - cache.length ∧
      (cache.synchronize schema collection).2.shrunk = cache.length - collection.reachable.length := by
  have bound := collection.length_reachable_le
  simp only [synchronize, synchronizeItems_eq]
  obtain ⟨grown, shrunk⟩ := SyncReport.foldl_count_sizes
    ((cache.passOutcomes schema collection).map Prod.snd)
    { grown := collection.count - cache.length, shrunk := cache.length - collection.count }
  rw [passOutcomes] at grown shrunk
  dsimp only at grown shrunk
  -- Entries that no item was found for go against those added before, and only then against the old ones.
  split
  next short =>
    simp only [SyncReport.remove, grown, shrunk]
    omega
  next whole =>
    rw [grown, shrunk]
    omega

theorem length_eq_of_not_sizeChanged
    (same : (cache.synchronize schema collection).2.sizeChanged = false) :
    collection.reachable.length = cache.length := by
  have ⟨grown, shrunk⟩ := cache.synchronize_sizes schema collection
  simp only [SyncReport.sizeChanged, grown, shrunk, Bool.or_eq_false_iff, decide_eq_false_iff_not] at same
  omega

theorem getElem?_synchronize {index : Nat} {entry : Entry} {item : Item}
    (entryAt : (cache.resize collection.count)[index]? = some entry)
    (itemAt : collection.reachable[index]? = some item) :
    (cache.synchronize schema collection).1[index]? =
      some (entry.synchronize schema index item).1 := by
  rw [synchronize_entries, List.getElem?_map, getElem?_passOutcomes schema cache collection entryAt itemAt]
  rfl

def NeedsFormat (index : Nat) (item : Item) : Prop :=
  ∀ entry, cache[index]? = some entry → entry.needsFormat schema item = true

theorem needsFormat_iff_resize {index : Nat} {item : Item}
    (itemAt : collection.reachable[index]? = some item) : cache.NeedsFormat schema index item ↔
      ∃ entry, (cache.resize collection.count)[index]? = some entry ∧ entry.needsFormat schema item = true := by
  have bound := collection.length_reachable_le
  have below : index < collection.reachable.length := (List.getElem?_eq_some_iff.1 itemAt).1
  unfold NeedsFormat
  by_cases inside : index < cache.length
  · have entryAt := List.getElem?_eq_getElem inside
    rw [getElem?_resize cache inside (by omega), entryAt]
    simp only [Option.some.injEq, forall_eq', exists_eq_left']
  · -- A new entry is blank and dirty, so that any item is formatted into it.
    rw [getElem?_resize_added cache (by omega) (by omega), List.getElem?_eq_none (by omega)]
    simp only [reduceCtorEq, false_implies, implies_true, Option.some.injEq, exists_eq_left', true_iff]
    rfl

/-- A pass is refused when it meets a refused item that it has to format. -/
theorem firstRefused?_isSome_iff (refused : Item → Bool) :
    (cache.firstRefused? schema refused collection).isSome = true ↔ ∃ index item,
      collection.reachable[index]? = some item ∧ refused item = true ∧ cache.NeedsFormat schema index item := by
  rw [firstRefused?, List.findIdx?_isSome, List.any_eq_true]
  constructor
  · rintro ⟨⟨entry, item⟩, member, meets⟩
    obtain ⟨index, pairAt⟩ := List.getElem?_of_mem member
    obtain ⟨entryAt, itemAt⟩ := List.getElem?_zip_eq_some.1 pairAt
    obtain ⟨needed, isRefused⟩ := Bool.and_eq_true_iff.1 meets
    exact ⟨index, item, itemAt, isRefused,
      (needsFormat_iff_resize schema cache collection itemAt).2 ⟨entry, entryAt, needed⟩⟩
  · rintro ⟨index, item, itemAt, isRefused, needs⟩
    obtain ⟨entry, entryAt, needed⟩ := (needsFormat_iff_resize schema cache collection itemAt).1 needs
    have pairAt : ((cache.resize collection.count).zip collection.reachable)[index]? =
        some (entry, item) := List.getElem?_zip_eq_some.2 ⟨entryAt, itemAt⟩
    exact ⟨(entry, item), List.mem_of_getElem? pairAt, Bool.and_eq_true_iff.2 ⟨needed, isRefused⟩⟩

theorem not_needsFormat_synchronize {index : Nat} {item : Item}
    (itemAt : collection.reachable[index]? = some item) :
    ¬ (cache.synchronize schema collection).1.NeedsFormat schema index item := by
  have bound := collection.length_reachable_le
  have below : index < collection.reachable.length := (List.getElem?_eq_some_iff.1 itemAt).1
  have entryAt := List.getElem?_eq_getElem (l := cache.resize collection.count) (i := index)
    (by rw [length_resize]; omega)
  intro needs
  have needed := needs _ (getElem?_synchronize schema cache collection entryAt itemAt)
  rw [Entry.needsFormat_synchronize] at needed
  cases needed

section Kept

variable (same : (cache.synchronize schema collection).2.sizeChanged = false)
  (unchanged : (cache.synchronize schema collection).2.changed = 0)
include same unchanged

theorem getElem?_synchronize_kept {index : Nat} {entry : Entry} (isAt : cache[index]? = some entry) :
    ∃ after, (cache.synchronize schema collection).1[index]? = some after ∧ after.fields = entry.fields ∧
      (after.progress = entry.progress ∨ progressDiffers entry.progress after.progress = false) := by
  have sameLength := cache.length_eq_of_not_sizeChanged schema collection same
  have bound := collection.length_reachable_le
  have inside : index < cache.length := (List.getElem?_eq_some_iff.1 isAt).1
  have entryAt : (cache.resize collection.count)[index]? = some entry := by
    rw [getElem?_resize cache inside (by omega), isAt]
  have itemAt := List.getElem?_eq_getElem (l := collection.reachable) (i := index) (by omega)
  have member := List.mem_of_getElem? (getElem?_passOutcomes schema cache collection entryAt itemAt)
  rw [synchronize_changed, List.countP_eq_zero] at unchanged
  have kept := unchanged _ (List.mem_map_of_mem member)
  obtain ⟨fields, -, progress⟩ := Entry.synchronize_kept schema entry index _ (by simpa using kept)
  exact ⟨_, getElem?_synchronize schema cache collection entryAt itemAt, fields, progress⟩

theorem fields_synchronize :
    (cache.synchronize schema collection).1.map Entry.fields = cache.map Entry.fields := by
  have sameLength := cache.length_eq_of_not_sizeChanged schema collection same
  refine List.ext_getElem? fun index => ?_
  rw [List.getElem?_map, List.getElem?_map]
  cases isAt : cache[index]? with
  | some entry =>
    obtain ⟨after, afterAt, fields, -⟩ :=
      getElem?_synchronize_kept schema cache collection same unchanged isAt
    rw [afterAt, Option.map_some, fields, Option.map_some]
  | none =>
    have beyond := List.getElem?_eq_none_iff.1 isAt
    rw [List.getElem?_eq_none (by rw [length_synchronize]; omega), Option.map_none]

end Kept

end Cache

section Mirror

variable (schema : Schema Item)

/-- Known items with the same change token are shown alike. -/
def Schema.Coherent (known : Item → Prop) : Prop :=
  ∀ left right, known left → known right → schema.changeToken left = schema.changeToken right →
    schema.rowKey left = schema.rowKey right ∧ schema.cells left = schema.cells right ∧
      schema.progress left = schema.progress right

/-- An entry is dirty or is what some known item was formatted to. -/
def Entry.Fresh (known : Item → Prop) (entry : Entry) : Prop :=
  entry.dirty = true ∨ ∃ item, known item ∧ entry = .ofItem schema entry.remoteIndex item

def Cache.Fresh (known : Item → Prop) (cache : Cache) : Prop :=
  ∀ entry ∈ cache, entry.Fresh schema known

variable {schema} {known : Item → Prop} {cache : Cache} {collection : Collection Item}

theorem Entry.Fresh.synchronize {entry : Entry} (fresh : entry.Fresh schema known) (index : Nat)
    {item : Item} (isKnown : known item) : (entry.synchronize schema index item).1.Fresh schema known := by
  cases needed : entry.needsFormat schema item with
  | true =>
    rw [synchronize_of_needsFormat schema entry index item needed]
    exact .inr ⟨item, isKnown, rfl⟩
  | false =>
    rw [synchronize_of_current schema entry index item needed]
    rcases fresh with dirty | ⟨shown, shownKnown, same⟩
    · exact .inl dirty
    · refine .inr ⟨shown, shownKnown, ?_⟩
      rw [same]
      rfl

/-- A fresh entry becomes what a known item with the token of its item is formatted to, also where formatting
is left out. -/
theorem Entry.Fresh.exists_synchronize_eq {entry : Entry} (fresh : entry.Fresh schema known) (index : Nat)
    {item : Item} (isKnown : known item) : ∃ shown, known shown ∧
      schema.changeToken shown = schema.changeToken item ∧
      (entry.synchronize schema index item).1 = .ofItem schema index shown := by
  cases needed : entry.needsFormat schema item with
  | true => exact ⟨item, isKnown, rfl, by rw [synchronize_of_needsFormat schema entry index item needed]⟩
  | false =>
    rw [synchronize_of_current schema entry index item needed]
    simp only [needsFormat, Bool.or_eq_false_iff, bne_eq_false_iff_eq] at needed
    obtain ⟨clean, sameToken⟩ := needed
    -- Nothing is formatted, but the entry stands for a known item with the token of this one.
    rcases fresh with dirty | ⟨shown, shownKnown, same⟩
    · simp [clean] at dirty
    · rw [same] at sameToken
      refine ⟨shown, shownKnown, Option.some.inj sameToken, ?_⟩
      rw [same]
      rfl

namespace Cache

theorem fresh_nil : Fresh schema known [] := fun _ member => nomatch member

theorem Fresh.mono {wider : Item → Prop} (fresh : cache.Fresh schema known)
    (included : ∀ item, known item → wider item) : cache.Fresh schema wider := by
  intro entry member
  rcases fresh entry member with dirty | ⟨item, isKnown, same⟩
  · exact .inl dirty
  · exact .inr ⟨item, included item isKnown, same⟩

theorem fresh_invalidate : cache.invalidate.Fresh schema known := by
  intro entry member
  obtain ⟨before, -, rfl⟩ := List.mem_map.1 member
  exact .inl rfl

theorem Fresh.grow (fresh : cache.Fresh schema known) (target : Nat) :
    (cache.grow target).Fresh schema known := by
  intro entry member
  rcases List.mem_append.1 member with kept | added
  · exact fresh entry kept
  · obtain ⟨index, -, rfl⟩ := List.mem_map.1 added
    exact .inl rfl

theorem Fresh.shrink (fresh : cache.Fresh schema known) (target : Nat) :
    (cache.shrink target).Fresh schema known :=
  fun entry member => fresh entry (List.mem_of_mem_take member)

theorem Fresh.resize (fresh : cache.Fresh schema known) (target : Nat) :
    (cache.resize target).Fresh schema known := (fresh.grow target).shrink target

theorem Fresh.synchronizeEntry (fresh : cache.Fresh schema known) (index : Nat) {item : Item}
    (isKnown : known item) : (cache.synchronizeEntry schema index item).1.Fresh schema known := by
  unfold Cache.synchronizeEntry
  cases entryAt : cache[index]? with
  | none => exact fresh
  | some entry =>
    intro other member
    rcases List.mem_or_eq_of_mem_set member with kept | rfl
    · exact fresh other kept
    · exact (fresh entry (List.mem_of_getElem? entryAt)).synchronize index isKnown

theorem Fresh.synchronizeItems (fresh : cache.Fresh schema known) (index : Nat) {items : List Item}
    (areKnown : ∀ item ∈ items, known item) (report : SyncReport) :
    (Cache.synchronizeItems schema index cache items report).1.Fresh schema known := by
  induction cache generalizing index items report with
  | nil => cases items <;> exact fresh_nil
  | cons entry rest ih =>
    cases items with
    | nil => exact fresh_nil
    | cons item items =>
      intro other member
      rcases List.mem_cons.1 member with rfl | later
      · exact (fresh entry List.mem_cons_self).synchronize index (areKnown item List.mem_cons_self)
      · exact ih (fun entry member => fresh entry (List.mem_cons_of_mem _ member)) (index + 1)
          (fun item member => areKnown item (List.mem_cons_of_mem _ member)) _ other later

theorem Fresh.synchronize (fresh : cache.Fresh schema known)
    (areKnown : ∀ item ∈ collection.reachable, known item) :
    (cache.synchronize schema collection).1.Fresh schema known :=
  (fresh.resize collection.count).synchronizeItems 0 areKnown _

theorem Fresh.abandoned (fresh : cache.Fresh schema known)
    (areKnown : ∀ item ∈ collection.reachable, known item) (index : Nat) :
    (cache.abandoned schema collection index).Fresh schema known := by
  have sized := fresh.resize collection.count
  intro entry member
  rcases List.mem_append.1 member with passed | left
  · exact sized.synchronizeItems 0 (fun item member => areKnown item (List.mem_of_mem_take member)) {}
      entry passed
  · exact sized entry (List.mem_of_mem_drop left)

theorem Fresh.getElem?_synchronize (fresh : cache.Fresh schema known)
    (areKnown : ∀ item ∈ collection.reachable, known item) {index : Nat} {item : Item}
    (itemAt : collection.reachable[index]? = some item) : ∃ shown, known shown ∧
      schema.changeToken shown = schema.changeToken item ∧
      (cache.synchronize schema collection).1[index]? = some (.ofItem schema index shown) := by
  have bound := collection.length_reachable_le
  have inside := (List.getElem?_eq_some_iff.1 itemAt).1
  have entryAt := List.getElem?_eq_getElem (l := cache.resize collection.count) (i := index)
    (by rw [length_resize]; omega)
  have entryFresh := fresh.resize collection.count _ (List.mem_of_getElem? entryAt)
  obtain ⟨shown, shownKnown, tokens, same⟩ :=
    entryFresh.exists_synchronize_eq index (areKnown _ (List.mem_of_getElem? itemAt))
  refine ⟨shown, shownKnown, tokens, ?_⟩
  rw [Cache.getElem?_synchronize schema cache collection entryAt itemAt, same]

/-- A pass over a fresh cache leaves the formatted items, in the order of the collection. -/
theorem Fresh.synchronize_eq (fresh : cache.Fresh schema known) (coherent : schema.Coherent known)
    (areKnown : ∀ item ∈ collection.reachable, known item) :
    (cache.synchronize schema collection).1 =
      collection.reachable.mapIdx fun index item => Entry.ofItem schema index item := by
  refine List.ext_getElem? fun index => ?_
  rw [List.getElem?_mapIdx]
  cases itemAt : collection.reachable[index]? with
  | some item =>
    obtain ⟨shown, shownKnown, tokens, same⟩ := fresh.getElem?_synchronize areKnown itemAt
    obtain ⟨key, cells, progress⟩ :=
      coherent shown item shownKnown (areKnown item (List.mem_of_getElem? itemAt)) tokens
    rw [same]
    simp only [Option.map_some, Entry.ofItem, key, cells, progress, tokens]
  | none =>
    have beyond := List.getElem?_eq_none_iff.1 itemAt
    rw [List.getElem?_eq_none (by rw [length_synchronize]; omega)]
    rfl

end Cache
end Mirror
end ComputeMonitor.Table
