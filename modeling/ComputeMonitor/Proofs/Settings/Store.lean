import ComputeMonitor.Proofs.Table.Layout
import ComputeMonitor.Settings.Store
import Mathlib.Data.List.Nodup

/-!
The store as a list of settings.

A database whose table of settings was made by the store holds a list of settings with different keys. What
is written to the database changes that list, and saving a layout replaces exactly the settings of its table.
-/

set_option autoImplicit false

namespace ComputeMonitor.Settings

open ComputeMonitor.Table (Layout)
open ComputeMonitor.Text (dropLeading? dropLeading?_eq_some lowerAscii)

structure Setting where
  key : String
  value : String
  time : String
  deriving DecidableEq

namespace Setting

def row (setting : Setting) : List String := [setting.key, setting.value, setting.time]

def pair (setting : Setting) : String × String := (setting.key, setting.value)

def written (now : String) (pair : String × String) : Setting := ⟨pair.1, pair.2, now⟩

def isOf (table : String) (setting : Setting) : Bool := hasBeginning (table ++ ".") setting.key

end Setting

/-- The database holds these settings, in this order. -/
structure Holds (database : Database) (settings : List Setting) : Prop where
  found : database.find? settingsTable = some { newSettings with rows := settings.map Setting.row }
  keys : (settings.map Setting.key).Nodup

theorem sameName_self (name : String) : sameName name name = true := beq_self_eq_true _

theorem find?_replace {database : Database} {table other : DataTable}
    (found : database.find? table.name = some other) :
    (database.replace table).find? table.name = some table := by
  -- The changed table keeps its name, so that the search stops at the same place.
  have sameFound : ((fun other => sameName other.name table.name) ∘
      fun other => if sameName other.name table.name then table else other) =
      fun other => sameName other.name table.name := by
    funext other
    dsimp only [Function.comp_apply]
    split
    next same => rw [sameName_self, same]
    next => rfl
  rw [Database.find?] at found
  have isNamed : sameName other.name table.name = true :=
    List.find?_some (p := fun other : DataTable => sameName other.name table.name) found
  rw [Database.find?, Database.replace, List.find?_map, sameFound, found, Option.map_some, if_pos isNamed]

theorem column?_settings (rows : List (List String)) :
    { newSettings with rows }.column? keyColumn = some 0 ∧
      { newSettings with rows }.column? valueColumn = some 1 := by
  have columns : newSettings.column? keyColumn = some 0 ∧ newSettings.column? valueColumn = some 1 := by decide
  exact columns

theorem sameName_settings_of_isInternal {name : String} (internal : isInternal name = true) :
    sameName name settingsTable = false := by
  refine Bool.eq_false_iff.2 fun same => ?_
  rw [isInternal, beq_iff_eq.1 same] at internal
  exact absurd internal (by decide)

namespace Holds

variable {database : Database} {settings : List Setting}

theorem replace (holds : Holds database settings) {after : List Setting}
    (keys : (after.map Setting.key).Nodup) :
    Holds (database.replace { newSettings with rows := after.map Setting.row }) after :=
  ⟨find?_replace holds.found, keys⟩

section Writing

def upsert (settings : List Setting) (setting : Setting) : List Setting :=
  if setting.key ∈ settings.map Setting.key then
    settings.map fun other => if other.key = setting.key then setting else other
  else settings ++ [setting]

theorem upsertRow_row (settings : List Setting) (setting : Setting) :
    upsertRow (settings.map Setting.row) setting.row = (upsert settings setting).map Setting.row := by
  have sameHead (other : Setting) :
      (other.row.head? == setting.row.head?) = true ↔ other.key = setting.key := by
    simp [Setting.row]
  have known : (settings.map Setting.row).any (·.head? == setting.row.head?) = true ↔
      setting.key ∈ settings.map Setting.key := by
    simp only [List.any_map, List.any_eq_true, Function.comp_apply, sameHead, List.mem_map]
  unfold upsertRow upsert
  by_cases isKnown : setting.key ∈ settings.map Setting.key
  · rw [if_pos (known.2 isKnown), if_pos isKnown, List.map_map, List.map_map]
    refine List.map_congr_left fun other _ => ?_
    simp only [Function.comp_apply, sameHead]
    split <;> rfl
  · rw [if_neg (mt known.1 isKnown), if_neg isKnown, List.map_append]
    rfl

theorem upsert_keys_nodup {setting : Setting} (keys : (settings.map Setting.key).Nodup) :
    ((upsert settings setting).map Setting.key).Nodup := by
  unfold upsert
  split
  next =>
    have sameKeys : (settings.map fun other => if other.key = setting.key then setting else other).map
        Setting.key = settings.map Setting.key := by
      rw [List.map_map]
      refine List.map_congr_left fun other _ => ?_
      rw [Function.comp_apply]
      split
      next same => exact same.symm
      next => rfl
    rwa [sameKeys]
  next fresh =>
    rw [List.map_append, List.map_singleton]
    exact keys.append (List.nodup_singleton _) (List.disjoint_singleton.2 fresh)

theorem put (holds : Holds database settings) (now key value : String) :
    ∃ saved, Settings.put database now key value = .ok saved ∧ Holds saved (upsert settings ⟨key, value, now⟩) := by
  refine ⟨_, ?_, holds.replace (upsert_keys_nodup holds.keys)⟩
  unfold Settings.put
  rw [holds.found]
  rw [← upsertRow_row]
  rfl

theorem putAll (holds : Holds database settings) (now : String) {pairs : List (String × String)}
    (keys : (settings.map Setting.key ++ pairs.map Prod.fst).Nodup) :
    ∃ saved, Settings.putAll now pairs database = .ok saved ∧
      Holds saved (settings ++ pairs.map (Setting.written now)) := by
  induction pairs generalizing database settings with
  | nil => exact ⟨database, rfl, (List.append_nil settings).symm ▸ holds⟩
  | cons pair rest ih =>
    obtain ⟨key, value⟩ := pair
    -- A key that is new to the store is never put in the place of another setting.
    have fresh : key ∉ settings.map Setting.key := fun member =>
      List.disjoint_of_nodup_append keys member List.mem_cons_self
    obtain ⟨next, put, holdsNext⟩ := holds.put now key value
    rw [upsert, if_neg fresh] at holdsNext
    obtain ⟨saved, putRest, holdsSaved⟩ := ih holdsNext (by simpa using keys)
    refine ⟨saved, ?_, ?_⟩
    · rw [Settings.putAll, put]
      exact putRest
    · rwa [List.append_assoc] at holdsSaved

theorem clearBeginning (holds : Holds database settings) (beginning : String) :
    ∃ cleared, clearBeginning? database beginning = some cleared ∧
      Holds cleared (settings.filter fun setting => !hasBeginning beginning setting.key) := by
  refine ⟨_, ?_, holds.replace (List.Nodup.sublist (List.filter_sublist.map _) holds.keys)⟩
  unfold clearBeginning?
  simp only [holds.found, Option.bind_eq_bind, Option.bind_some, (column?_settings _).1, List.filter_map]
  rfl

end Writing

section Reading

theorem withBeginning (holds : Holds database settings) (table : String) :
    ∃ pairs, Settings.withBeginning database (table ++ ".") = .ok pairs ∧
      pairs.Perm ((settings.filter (Setting.isOf table)).map Setting.pair) := by
  have opened : openSettings? database =
      some ⟨{ newSettings with rows := settings.map Setting.row }, 0, 1⟩ := by
    unfold openSettings?
    simp only [holds.found, Option.bind_eq_bind, Option.bind_some, (column?_settings _).1, (column?_settings _).2]
    rfl
  have pairs : (Opened.mk { newSettings with rows := settings.map Setting.row } 0 1).pairs =
      settings.map Setting.pair := by
    rw [Opened.pairs, List.map_map]
    rfl
  unfold Settings.withBeginning
  rw [opened]
  dsimp only
  rw [pairs, List.filter_map]
  exact ⟨_, rfl, List.mergeSort_perm _ _⟩

theorem loadLayout (holds : Holds database settings) {table : String} {layout : Layout}
    (stored : (settings.filter (Setting.isOf table)).map Setting.pair = layout.toPairs table) :
    Settings.loadLayout database table = .ok layout.normalized := by
  obtain ⟨pairs, read, same⟩ := holds.withBeginning table
  rw [stored] at same
  have kept : Layout.ofPairs table pairs = layout.normalized :=
    Layout.ofPairs_eq_normalized (fun pair member => .inl (same.mem_iff.1 member)) same.symm.subset
  unfold Settings.loadLayout
  rw [read, ← kept]
  rfl

end Reading
end Holds

section Layouts

variable {table other : String} {settings : List Setting} {layout : Layout}

/-- A name that ends before the point of a key. -/
structure PlainName (name : String) : Prop where
  noPoint : '.' ∉ name.toList
  noNull : '\x00' ∉ name.toList

theorem hasBeginning_own (noNull : '\x00' ∉ table.toList) (name : String) :
    hasBeginning (table ++ ".") (table ++ "." ++ name) = true := by
  have without : (table ++ ".").toList.contains '\x00' = false := by
    rw [String.toList_append, List.contains_eq_mem, decide_eq_false_iff_not, List.mem_append]
    rintro (isNull | isNull)
    · exact noNull isNull
    · exact absurd isNull (by decide)
  rw [hasBeginning, without, String.toList_append (s := table ++ "."), Text.dropLeading?_append]
  rfl

theorem toList_of_hasBeginning {key : String} (begins : hasBeginning (table ++ ".") key = true) :
    ∃ rest, key.toList = table.toList ++ '.' :: rest := by
  obtain ⟨rest, isRest⟩ := Option.isSome_iff_exists.1 (Bool.and_eq_true_iff.1 begins).2
  have sameKey := dropLeading?_eq_some isRest
  rw [String.toList_append, List.append_assoc] at sameKey
  exact ⟨rest, sameKey⟩

/-- Keys of different tables are told apart by what stands before the first point. -/
theorem hasBeginning_apart (plain : PlainName table) (otherPlain : PlainName other) (apart : table ≠ other)
    {key : String} (begins : hasBeginning (other ++ ".") key = true) : hasBeginning (table ++ ".") key = false := by
  refine Bool.eq_false_iff.2 fun alsoBegins => apart (String.toList_inj.1 ?_)
  obtain ⟨rest, isKey⟩ := toList_of_hasBeginning alsoBegins
  obtain ⟨otherRest, isOtherKey⟩ := toList_of_hasBeginning begins
  exact Text.eq_of_append_mark plain.noPoint otherPlain.noPoint (isKey.symm.trans isOtherKey)

def relaid (settings : List Setting) (now table : String) (layout : Layout) : List Setting :=
  settings.filter (!Setting.isOf table ·) ++ (layout.toPairs table).map (Setting.written now)

theorem isOf_own (plain : PlainName table) (now : String) {pair : String × String}
    (own : pair ∈ layout.toPairs table) : (Setting.written now pair).isOf table = true := by
  obtain ⟨name, isKey⟩ := Layout.exists_name_of_own own
  exact (congrArg _ isKey).trans (hasBeginning_own plain.noNull name)

/-- The settings that belong to a table are the pairs of the layout that was stored for it. -/
theorem relaid_own (plain : PlainName table) (settings : List Setting) (now : String) (layout : Layout) :
    ((relaid settings now table layout).filter (Setting.isOf table)).map Setting.pair = layout.toPairs table := by
  have noneLeft : (settings.filter (!Setting.isOf table ·)).filter (Setting.isOf table) = [] := by
    simp [List.filter_filter]
  have allNew : ((layout.toPairs table).map (Setting.written now)).filter (Setting.isOf table) =
      (layout.toPairs table).map (Setting.written now) := by
    refine List.filter_eq_self.2 fun setting member => ?_
    obtain ⟨pair, own, rfl⟩ := List.mem_map.1 member
    exact isOf_own plain now own
  rw [relaid, List.filter_append, noneLeft, allNew, List.nil_append, List.map_map]
  exact List.map_id _

theorem relaid_rest (plain : PlainName table) (settings : List Setting) (now : String) (layout : Layout) :
    (relaid settings now table layout).filter (!Setting.isOf table ·) = settings.filter (!Setting.isOf table ·) := by
  have noneNew : ((layout.toPairs table).map (Setting.written now)).filter (!Setting.isOf table ·) = [] := by
    refine List.filter_eq_nil_iff.2 fun setting member => ?_
    obtain ⟨pair, own, rfl⟩ := List.mem_map.1 member
    rw [isOf_own plain now own]
    decide
  rw [relaid, List.filter_append, noneNew, List.append_nil, List.filter_filter]
  simp

theorem relaid_other (plain : PlainName table) (otherPlain : PlainName other) (apart : table ≠ other)
    (settings : List Setting) (now : String) (layout : Layout) :
    (relaid settings now other layout).filter (Setting.isOf table) = settings.filter (Setting.isOf table) := by
  have noneNew : ((layout.toPairs other).map (Setting.written now)).filter (Setting.isOf table) = [] := by
    refine List.filter_eq_nil_iff.2 fun setting member => ?_
    obtain ⟨pair, own, rfl⟩ := List.mem_map.1 member
    exact Bool.eq_false_iff.1 (hasBeginning_apart plain otherPlain apart (isOf_own otherPlain now own))
  rw [relaid, List.filter_append, noneNew, List.append_nil, List.filter_filter]
  refine List.filter_congr fun setting _ => ?_
  by_cases isOf : setting.isOf table = true
  · -- A setting of this table was not removed with those of the other.
    have notOther : setting.isOf other = false := hasBeginning_apart otherPlain plain apart.symm isOf
    rw [isOf, notOther]
    rfl
  · rw [Bool.eq_false_iff.2 isOf, Bool.false_and]

theorem Holds.saveLayout {database : Database} (holds : Holds database settings) (plain : PlainName table)
    (now : String) (layout : Layout) : ∃ saved, Settings.saveLayout database now table layout = .ok saved ∧
      Holds saved (relaid settings now table layout) := by
  obtain ⟨cleared, clears, holdsCleared⟩ := holds.clearBeginning (table ++ ".")
  -- What is left of the store has no key of the layout, so that each pair is written behind the others.
  have keys : ((settings.filter (!Setting.isOf table ·)).map Setting.key ++
      (layout.toPairs table).map Prod.fst).Nodup := by
    refine holdsCleared.keys.append (layout.toPairs_keys_nodup table) fun key isOld isNew => ?_
    obtain ⟨setting, member, rfl⟩ := List.mem_map.1 isOld
    obtain ⟨pair, own, sameKey⟩ := List.mem_map.1 isNew
    have notOf : (!setting.isOf table) = true := (List.mem_filter.1 member).2
    have isOf : setting.isOf table = true :=
      (congrArg (hasBeginning (table ++ ".")) sameKey).symm.trans (isOf_own plain now own)
    rw [isOf] at notOf
    cases notOf
  obtain ⟨saved, writes, holdsSaved⟩ := holdsCleared.putAll now keys
  refine ⟨saved, ?_, holdsSaved⟩
  unfold Settings.saveLayout
  rw [clears]
  exact writes

end Layouts
end ComputeMonitor.Settings
