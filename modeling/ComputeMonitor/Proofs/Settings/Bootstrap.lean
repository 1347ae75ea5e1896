import ComputeMonitor.Program.Launch
import ComputeMonitor.Proofs.Settings.Store

/-!
Which databases the store is set up in.

A database of something else is to be left alone: one that has a table of its maker and no table of settings with
all columns of the store. Tables of the database itself are told from others by a pattern whose underscore stands
for any character, so that some databases of something else are taken for empty ones. No others are, and a
database that the store was set up in stays as it is when this is done again, whatever was written in between.
-/

set_option autoImplicit false

namespace ComputeMonitor.Settings

open ComputeMonitor.Program (Machine Run prepareStore)
open ComputeMonitor.Table (Layout)
open ComputeMonitor.Text (dropLeading? dropLeading?_eq_some_iff lowerAscii)

section Names

/-- Texts that match a pattern. An underscore stands for any character and a percent sign for any text; other
characters stand for themselves, letters of ASCII in either case. -/
inductive Like : List Char → List Char → Prop where
  | done : Like [] []
  | one {pattern chars : List Char} (c : Char) : Like pattern chars → Like ('_' :: pattern) (c :: chars)
  | any {pattern chars : List Char} (front : List Char) : Like pattern chars → Like ('%' :: pattern) (front ++ chars)
  | letter {pattern chars : List Char} {p c : Char} : p ≠ '_' → p ≠ '%' → lowerAscii p = lowerAscii c →
      Like pattern chars → Like (p :: pattern) (c :: chars)

def ownPattern : List Char := "sqlite_%".toList

theorem like_append_iff {text pattern chars : List Char} (noOne : '_' ∉ text) (noAny : '%' ∉ text) :
    Like (text ++ pattern) chars ↔
      ∃ front rest, chars = front ++ rest ∧ front.map lowerAscii = text.map lowerAscii ∧ Like pattern rest := by
  -- A character of the text is neither of the two signs, so that it matches as a letter only.
  induction text generalizing chars with
  | nil =>
    constructor
    · exact fun matched => ⟨[], chars, rfl, rfl, matched⟩
    · rintro ⟨front, rest, rfl, empty, matched⟩
      rwa [List.map_eq_nil_iff.1 empty]
  | cons p text ih =>
    have ih {chars : List Char} := @ih chars (List.not_mem_of_not_mem_cons noOne) (List.not_mem_of_not_mem_cons noAny)
    constructor
    · intro matched
      cases matched with
      | one => exact absurd List.mem_cons_self noOne
      | any => exact absurd List.mem_cons_self noAny
      | @letter _ _ _ c _ _ same matched =>
        obtain ⟨front, rest, rfl, sameRest, matchedRest⟩ := ih.1 matched
        exact ⟨c :: front, rest, rfl, by rw [List.map_cons, List.map_cons, same, sameRest], matchedRest⟩
    · rintro ⟨front, rest, rfl, same, matched⟩
      obtain ⟨c, others, rfl, sameFirst, sameRest⟩ := List.map_eq_cons_iff.1 same
      exact .letter (List.ne_of_not_mem_cons noOne).symm (List.ne_of_not_mem_cons noAny).symm sameFirst.symm
        (ih.2 ⟨others, rest, rfl, sameRest, matched⟩)

theorem like_one_any_iff {chars : List Char} : Like ['_', '%'] chars ↔ chars ≠ [] := by
  constructor
  · rintro matched rfl
    cases matched
  · intro nonempty
    obtain ⟨c, rest, rfl⟩ := List.exists_cons_of_ne_nil nonempty
    have all := Like.any rest .done
    rw [List.append_nil] at all
    exact .one c all

/-- The underscore of the pattern asks for no more than one more character. -/
theorem like_own_iff {chars : List Char} : Like ownPattern chars ↔
    ∃ front rest, chars = front ++ rest ∧ front.map lowerAscii = "sqlite".toList ∧ rest ≠ [] := by
  have parts : ownPattern = "sqlite".toList ++ ['_', '%'] := by decide
  have lower : "sqlite".toList.map lowerAscii = "sqlite".toList := by decide
  have split := @like_append_iff "sqlite".toList ['_', '%'] chars (by decide) (by decide)
  rw [parts, split, lower]
  simp only [like_one_any_iff]

theorem isInternal_iff {name : String} : isInternal name = true ↔ Like ownPattern name.toList := by
  rw [like_own_iff]
  unfold isInternal foldName
  constructor
  · intro internal
    split at internal
    next c others begins =>
      obtain ⟨front, rest, isName, isFront, isRest⟩ := List.map_eq_append_iff.1 (dropLeading?_eq_some_iff.1 begins)
      refine ⟨front, rest, isName, isFront, ?_⟩
      rintro rfl
      cases isRest
    next => cases internal
  · rintro ⟨front, rest, isName, isFront, nonempty⟩
    obtain ⟨c, others, rfl⟩ := List.exists_cons_of_ne_nil nonempty
    rw [isName, List.map_append, isFront, dropLeading?_eq_some_iff.2 rfl]
    rfl

def IsOwn (name : String) : Prop := "sqlite_".toList <+: name.toList

instance (name : String) : Decidable (IsOwn name) := inferInstanceAs (Decidable (_ <+: _))

theorem IsOwn.like {name : String} (own : IsOwn name) : Like ownPattern name.toList := by
  obtain ⟨rest, isName⟩ := own
  exact like_own_iff.2 ⟨"sqlite".toList, '_' :: rest, isName.symm, by decide, List.cons_ne_nil _ _⟩

theorem not_like_settings : ¬ Like ownPattern settingsTable.toList :=
  mt isInternal_iff.2 (by decide)

end Names

structure Shape where
  name : String
  columns : List String
  keyed : Bool

def DataTable.shape (table : DataTable) : Shape := ⟨table.name, table.columns, table.keyed⟩

namespace Database

def shapes (database : Database) : List Shape := database.map DataTable.shape

/-- The names of the tables are told apart, as those of every database that is made table by table. -/
def Apart (database : Database) : Prop := (database.map fun table => foldName table.name).Nodup

instance (database : Database) : Decidable database.Apart := inferInstanceAs (Decidable (List.Nodup _))

def HasSettings (database : Database) : Prop :=
  ∃ table ∈ database, table.name = settingsTable ∧ ∀ column ∈ settingsColumns, column ∈ table.columns

variable {database other : Database}

theorem apart_of_shapes (same : other.shapes = database.shapes) (apart : database.Apart) : other.Apart := by
  have names (database : Database) : (database.map fun table => foldName table.name) =
      database.shapes.map fun shape => foldName shape.name := by
    rw [shapes, List.map_map]
    rfl
  rw [Apart, names] at apart ⊢
  rwa [same]

theorem hasSettings_of_shapes (same : other.shapes = database.shapes) (has : database.HasSettings) :
    other.HasSettings := by
  obtain ⟨table, member, named, columns⟩ := has
  have shapeMember : table.shape ∈ other.shapes := same ▸ List.mem_map_of_mem member
  obtain ⟨table', member', sameShape⟩ := List.mem_map.1 shapeMember
  obtain ⟨sameName, sameColumns, -⟩ := Shape.mk.inj sameShape
  exact ⟨table', member', sameName.trans named, sameColumns ▸ columns⟩

theorem Apart.eq_of_sameName (apart : database.Apart) {left right : DataTable} (leftMember : left ∈ database)
    (rightMember : right ∈ database) (same : sameName left.name right.name = true) : left = right :=
  List.inj_on_of_nodup_map apart leftMember rightMember (beq_iff_eq.1 same)

theorem apart_append (apart : database.Apart) {table : DataTable}
    (fresh : ∀ other ∈ database, sameName other.name table.name = false) : (database ++ [table]).Apart := by
  rw [Apart, List.map_append, List.map_singleton]
  refine apart.append (List.nodup_singleton _) (List.disjoint_singleton.2 fun member => ?_)
  obtain ⟨other, otherMember, same⟩ := List.mem_map.1 member
  exact absurd (beq_iff_eq.2 same) (Bool.eq_false_iff.1 (fresh other otherMember))

theorem shapes_replace (apart : database.Apart) {table : DataTable} {name : String}
    (found : database.find? name = some table) (rows : List (List String)) :
    (database.replace { table with rows }).shapes = database.shapes := by
  rw [shapes, shapes, replace, List.map_map]
  refine List.map_congr_left fun other member => ?_
  rw [Function.comp_apply]
  split
  next same =>
    -- The table that was found is the only one of its name.
    obtain rfl := apart.eq_of_sameName member (List.mem_of_find?_eq_some found) same
    rfl
  next => rfl

end Database

section Writing

variable {database saved : Database}

theorem put_shapes (apart : database.Apart) {now key value : String} (done : put database now key value = .ok saved) :
    saved.shapes = database.shapes := by
  unfold put at done
  split at done
  next table found =>
    split at done
    next =>
      cases done
      exact database.shapes_replace apart found _
    next => cases done
  next => cases done

theorem putAll_shapes {now : String} {pairs : List (String × String)} (apart : database.Apart)
    (done : putAll now pairs database = .ok saved) : saved.shapes = database.shapes := by
  induction pairs generalizing database with
  | nil =>
    cases done
    rfl
  | cons pair rest ih =>
    rw [putAll] at done
    cases first : put database now pair.1 pair.2 with
    | error fault =>
      rw [first] at done
      cases done
    | ok next =>
      rw [first] at done
      have same := put_shapes apart first
      exact (ih (Database.apart_of_shapes same apart) done).trans same

theorem saveLayout_shapes (apart : database.Apart) {now table : String} {layout : Layout}
    (done : saveLayout database now table layout = .ok saved) : saved.shapes = database.shapes := by
  unfold saveLayout at done
  split at done
  next => cases done
  next cleared clears =>
    simp only [clearBeginning?, Option.bind_eq_bind, Option.bind_eq_some_iff] at clears
    obtain ⟨settings, found, key, -, isCleared⟩ := clears
    cases isCleared
    have same := database.shapes_replace apart found
      (settings.rows.filter fun row => !hasBeginning (table ++ ".") (cellAt row key))
    exact (putAll_shapes (Database.apart_of_shapes same apart) done).trans same

inductive Written : Database → Database → Prop where
  | nothing (database : Database) : Written database database
  | put {database next saved : Database} {now key value : String} : Written database next →
      put next now key value = .ok saved → Written database saved
  | layout {database next saved : Database} {now table : String} {layout : Layout} : Written database next →
      saveLayout next now table layout = .ok saved → Written database saved

theorem Written.shapes (written : Written database saved) (apart : database.Apart) :
    saved.shapes = database.shapes := by
  induction written with
  | nothing => rfl
  | put _ done ih => exact (put_shapes (Database.apart_of_shapes ih apart) done).trans ih
  | layout _ done ih => exact (saveLayout_shapes (Database.apart_of_shapes ih apart) done).trans ih

end Writing

section Bootstrap

variable {database : Database}

theorem missingColumns_eq_nil_iff {table : DataTable} :
    missingColumns table = [] ↔ ∀ column ∈ settingsColumns, column ∈ table.columns := by
  simp [missingColumns, List.filter_eq_nil_iff]

theorem all_isInternal_iff : (database.all fun table => isInternal table.name) = true ↔
    ∀ table ∈ database, Like ownPattern table.name.toList := by
  simp only [List.all_eq_true, isInternal_iff]

theorem find?_settings (apart : database.Apart) {table : DataTable} (member : table ∈ database)
    (named : table.name = settingsTable) : List.find? (·.name == settingsTable) database = some table := by
  have isSome : (List.find? (·.name == settingsTable) database).isSome :=
    List.find?_isSome.2 ⟨table, member, beq_iff_eq.2 named⟩
  obtain ⟨found, isFound⟩ := Option.isSome_iff_exists.1 isSome
  have foundNamed : found.name = settingsTable :=
    beq_iff_eq.1 (List.find?_some (p := fun table : DataTable => table.name == settingsTable) isFound)
  have same : sameName found.name table.name = true := by rw [foundNamed, named]; decide
  rw [isFound, apart.eq_of_sameName (List.mem_of_find?_eq_some isFound) member same]

theorem bootstrap_of_settings (apart : database.Apart) {table : DataTable} (member : table ∈ database)
    (named : table.name = settingsTable) : bootstrap database =
      if missingColumns table = [] then .ok database else .error (.missingColumns (missingColumns table)) := by
  have notAll : ¬ (database.all fun table => isInternal table.name) = true := fun all =>
    not_like_settings (named ▸ all_isInternal_iff.1 all table member)
  rw [bootstrap, if_neg notAll, find?_settings apart member named]
  dsimp only
  split
  next complete => rw [if_pos complete]
  next incomplete => rw [if_neg incomplete]

theorem bootstrap_of_no_settings (notLike : ¬ ∀ table ∈ database, Like ownPattern table.name.toList)
    (unnamed : ¬ ∃ table ∈ database, table.name = settingsTable) : bootstrap database = .error .missingTable := by
  have notFound : List.find? (·.name == settingsTable) database = none :=
    List.find?_eq_none.2 fun table member named => unnamed ⟨table, member, beq_iff_eq.1 named⟩
  rw [bootstrap, if_neg (mt all_isInternal_iff.1 notLike), notFound]

/-- The three outcomes: the store is set up, was there already, or is refused because its table is missing or lacks
columns. -/
theorem bootstrap_cases (apart : database.Apart) :
    ((∀ table ∈ database, Like ownPattern table.name.toList) ∧ ¬ database.HasSettings ∧
      bootstrap database = .ok (database ++ [newSettings])) ∨
    (database.HasSettings ∧ bootstrap database = .ok database) ∨
    (¬ (∀ table ∈ database, Like ownPattern table.name.toList) ∧ ¬ database.HasSettings ∧
      ∃ fault, bootstrap database = .error fault ∧ (fault = .missingTable ∨
        ∃ table ∈ database, table.name = settingsTable ∧ fault = .missingColumns (missingColumns table))) := by
  by_cases named : ∃ table ∈ database, table.name = settingsTable
  · obtain ⟨table, member, named⟩ := named
    have outcome := bootstrap_of_settings apart member named
    by_cases complete : missingColumns table = []
    · have has : database.HasSettings := ⟨table, member, named, missingColumns_eq_nil_iff.1 complete⟩
      exact .inr (.inl ⟨has, outcome.trans (if_pos complete)⟩)
    · refine .inr (.inr ⟨fun internal => not_like_settings (named ▸ internal table member), ?_, _,
        outcome.trans (if_neg complete), .inr ⟨table, member, named, rfl⟩⟩)
      rintro ⟨other, otherMember, otherNamed, columns⟩
      -- There is no second table of settings.
      have same : sameName other.name table.name = true := beq_iff_eq.2 (by rw [otherNamed, named])
      rw [apart.eq_of_sameName otherMember member same] at columns
      exact complete (missingColumns_eq_nil_iff.2 columns)
  · have lacks : ¬ database.HasSettings := fun ⟨table, member, isNamed, _⟩ => named ⟨table, member, isNamed⟩
    by_cases internal : ∀ table ∈ database, Like ownPattern table.name.toList
    · exact .inl ⟨internal, lacks, if_pos (all_isInternal_iff.2 internal)⟩
    · exact .inr (.inr ⟨internal, lacks, _, bootstrap_of_no_settings internal named, .inl rfl⟩)

theorem hasSettings_of_bootstrap (apart : database.Apart) {prepared : Database}
    (done : bootstrap database = .ok prepared) : prepared.Apart ∧ prepared.HasSettings := by
  rcases bootstrap_cases apart with ⟨internal, -, made⟩ | ⟨has, kept⟩ | ⟨-, -, fault, failed, -⟩
  · cases made.symm.trans done
    have fresh : ∀ table ∈ database, sameName table.name settingsTable = false := fun table member =>
      sameName_settings_of_isInternal (isInternal_iff.2 (internal table member))
    have new : newSettings ∈ database ++ [newSettings] := List.mem_append_right _ List.mem_cons_self
    exact ⟨Database.apart_append apart fresh, newSettings, new, rfl, fun _ => id⟩
  · cases kept.symm.trans done
    exact ⟨apart, has⟩
  · cases failed.symm.trans done

theorem bootstrap_of_hasSettings (apart : database.Apart) (has : database.HasSettings) :
    bootstrap database = .ok database := by
  rcases bootstrap_cases apart with ⟨-, lacks, -⟩ | ⟨-, kept⟩ | ⟨-, lacks, -⟩
  · exact absurd has lacks
  · exact kept
  · exact absurd has lacks

theorem bootstrap_of_written (apart : database.Apart) {prepared later : Database}
    (done : bootstrap database = .ok prepared) (written : Written prepared later) :
    bootstrap later = .ok later := by
  obtain ⟨preparedApart, has⟩ := hasSettings_of_bootstrap apart done
  have same := written.shapes preparedApart
  exact bootstrap_of_hasSettings (Database.apart_of_shapes same preparedApart)
    (Database.hasSettings_of_shapes same has)

/-- The store is not set up, and the program ends there with a failure, so that it keeps nothing. -/
def Refused (database : Database) : Prop :=
  ∃ fault, bootstrap database = .error fault ∧ ∀ (m : Type → Type) [Monad m] [Machine m] (path : String),
    (prepareStore path database : Run m Unit) = throw (.ofText fault.message)

/-- A database of something else: it has a table that is not one of the database itself, and its table of settings
is missing or lacks a column of the store. -/
def Foreign (database : Database) : Prop :=
  (∃ table ∈ database, ¬ IsOwn table.name) ∧ ¬ database.HasSettings

/-- A database of something else is refused. In any other the store is set up, and doing this again changes
nothing, neither directly nor after settings were written. -/
def Guarded (database : Database) : Prop :=
  (Foreign database → Refused database) ∧
    (¬ Foreign database → ∃ prepared, bootstrap database = .ok prepared ∧
      ∀ later, Written prepared later → bootstrap later = .ok later)

/-- Databases of something else are refused, and all others made ready for good, unless every table has a name that
matches the pattern for those of the database itself and one of them is not. These are databases of something else,
and taken over. -/
theorem guarded_iff (apart : database.Apart) :
    (Guarded database ↔ ¬ ((∃ table ∈ database, ¬ IsOwn table.name) ∧
        ∀ table ∈ database, Like ownPattern table.name.toList)) ∧
      ((∃ table ∈ database, ¬ IsOwn table.name) → (∀ table ∈ database, Like ownPattern table.name.toList) →
        Foreign database ∧ bootstrap database = .ok (database ++ [newSettings])) := by
  -- One case for each outcome: the store is made, is there already, or is refused.
  rcases bootstrap_cases apart with ⟨internal, lacks, made⟩ | ⟨has, kept⟩ | ⟨notLike, lacks, fault, failed, -⟩
  · refine ⟨⟨?_, fun told => ⟨fun foreign => absurd ⟨foreign.1, internal⟩ told, fun _ => ?_⟩⟩,
      fun notOwn _ => ⟨⟨notOwn, lacks⟩, made⟩⟩
    · rintro guarded ⟨notOwn, -⟩
      obtain ⟨fault, failed, -⟩ := guarded.1 ⟨notOwn, lacks⟩
      cases failed.symm.trans made
    · exact ⟨_, made, fun later => bootstrap_of_written apart made⟩
  · have notLike : ¬ ∀ table ∈ database, Like ownPattern table.name.toList := by
      obtain ⟨table, member, named, -⟩ := has
      exact fun internal => not_like_settings (named ▸ internal table member)
    refine ⟨iff_of_true ⟨fun foreign => absurd has foreign.2, fun _ => ?_⟩ fun told => notLike told.2,
      fun _ internal => absurd internal notLike⟩
    exact ⟨_, kept, fun later => bootstrap_of_written apart kept⟩
  · refine ⟨iff_of_true ⟨fun _ => ?_, fun notForeign => ?_⟩ fun told => notLike told.2,
      fun _ internal => absurd internal notLike⟩
    · refine ⟨fault, failed, fun m _ _ path => ?_⟩
      rw [prepareStore, failed]
    · -- What does not match the pattern is not a table of the database itself.
      refine absurd ⟨?_, lacks⟩ notForeign
      by_contra allOwn
      exact notLike fun table member => IsOwn.like (by_contra fun notOwn => allOwn ⟨table, member, notOwn⟩)

end Bootstrap

section Lookalike

def lookalike : Database := [{ name := "sqlitex", columns := ["id"] }]

theorem lookalike_guarded_iff :
    lookalike.Apart ∧ Foreign lookalike ∧ bootstrap lookalike = .ok (lookalike ++ [newSettings]) ∧
      ¬ Guarded lookalike := by
  have apart : lookalike.Apart := by decide
  have notOwn : ∃ table ∈ lookalike, ¬ IsOwn table.name := ⟨_, List.mem_cons_self, by decide⟩
  have internal : ∀ table ∈ lookalike, Like ownPattern table.name.toList :=
    all_isInternal_iff.1 (by decide)
  have ⟨guardedIff, taken⟩ := guarded_iff apart
  have ⟨foreign, done⟩ := taken notOwn internal
  exact ⟨apart, foreign, done, fun guarded => guardedIff.1 guarded ⟨notOwn, internal⟩⟩

theorem lookalike_taken_over : ¬ ∀ database : Database, database.Apart → Guarded database := by
  intro guarded
  have foreign : Foreign lookalike := by
    refine ⟨⟨_, List.mem_cons_self, by decide⟩, ?_⟩
    rintro ⟨table, member, named, -⟩
    cases List.mem_singleton.1 member
    exact absurd named (by decide)
  obtain ⟨fault, failed, -⟩ := (guarded lookalike (by decide)).1 foreign
  have done : bootstrap lookalike = .ok (lookalike ++ [newSettings]) := by decide
  rw [done] at failed
  cases failed

end Lookalike

end ComputeMonitor.Settings
