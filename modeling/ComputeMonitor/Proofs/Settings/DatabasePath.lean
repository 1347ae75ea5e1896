import ComputeMonitor.Program.Launch
import ComputeMonitor.Proofs.Text.Blank

/-!
Which paths of databases are refused.

A path is refused when it is empty, has a scheme of letters in front of a colon and two slashes, begins with the
scheme of files, or has a question mark. Schemes may have digits, signs and points as well: an address with such a
scheme passes for a path.
-/

set_option autoImplicit false

namespace ComputeMonitor

namespace Text

theorem splitAtText?_eq_some {mark chars before after : List Char}
    (found : splitAtText? mark chars = some (before, after)) : chars = before ++ (mark ++ after) := by
  induction chars generalizing before with
  | nil =>
    unfold splitAtText? at found
    split at found
    next empty =>
      cases found
      rw [List.isEmpty_iff.1 empty]
      rfl
    next => cases found
  | cons c rest ih =>
    unfold splitAtText? at found
    split at found
    next behind begins =>
      cases found
      rw [List.nil_append]
      exact dropLeading?_eq_some begins
    next =>
      obtain ⟨⟨front, behind⟩, inner, same⟩ := Option.map_eq_some_iff.1 found
      cases same
      rw [ih inner, List.cons_append]

/-- A text is cut where the first character of the mark stands for the first time, if the mark does. -/
theorem splitAtText?_append {first : Char} {mark before : List Char} (absent : first ∉ before) (after : List Char) :
    splitAtText? (first :: mark) (before ++ (first :: mark ++ after)) = some (before, after) := by
  induction before with
  | nil =>
    have begins := dropLeading?_append (first :: mark) after
    rw [List.cons_append] at begins
    rw [List.nil_append, List.cons_append, splitAtText?, begins]
  | cons c before ih =>
    have notBegins : dropLeading? (first :: mark) (c :: (before ++ (first :: mark ++ after))) = none :=
      if_neg (List.ne_of_not_mem_cons absent)
    rw [List.cons_append, splitAtText?, notBegins]
    dsimp only
    rw [ih (List.not_mem_of_not_mem_cons absent), Option.map_some]

theorem isSome_dropLeading?_iff {leading chars : List Char} :
    (dropLeading? leading chars).isSome = true ↔ leading <+: chars := by
  rw [Option.isSome_iff_exists]
  constructor
  · rintro ⟨rest, begins⟩
    exact ⟨rest, (dropLeading?_eq_some begins).symm⟩
  · rintro ⟨rest, whole⟩
    exact ⟨rest, dropLeading?_eq_some_iff.2 whole.symm⟩

end Text

namespace Settings

open ComputeMonitor.Configuration (currentVersion decode? load version?)
open Gateway (isSchemeChar)
open Program (Machine Run openAt)
open Text

def addressMark : List Char := "://".toList

def fileMark : List Char := "file:".toList

variable {path : String} {scheme : List Char}

section Refusal

/-- What the check takes for a scheme: letters of any script. -/
def IsLetters (scheme : List Char) : Prop := scheme ≠ [] ∧ ∀ c ∈ scheme, isLetter c = true

theorem addressScheme?_eq_some_iff {chars : List Char} :
    addressScheme? chars = some scheme ↔ IsLetters scheme ∧ ∃ rest, chars = scheme ++ (addressMark ++ rest) := by
  constructor
  · intro found
    unfold addressScheme? at found
    split at found
    next c others rest cut =>
      split at found
      next letters =>
        cases found
        exact ⟨⟨List.cons_ne_nil _ _, List.all_eq_true.1 letters⟩, rest, splitAtText?_eq_some cut⟩
      next => cases found
    next => cases found
  · rintro ⟨⟨nonempty, letters⟩, rest, rfl⟩
    have noColon : ':' ∉ scheme := fun member => absurd (letters _ member) (by decide)
    obtain ⟨c, others, rfl⟩ := List.exists_cons_of_ne_nil nonempty
    have cut : splitAtText? "://".toList (c :: others ++ (addressMark ++ rest)) = some (c :: others, rest) :=
      splitAtText?_append noColon rest
    unfold addressScheme?
    rw [cut]
    exact if_pos (List.all_eq_true.2 letters)

def HasLetters (path : String) : Prop :=
  ∃ scheme, IsLetters scheme ∧ ∃ rest, path.toList = scheme ++ (addressMark ++ rest)

theorem addressScheme?_eq_none_iff : addressScheme? path.toList = none ↔ ¬ HasLetters path := by
  rw [Option.eq_none_iff_forall_ne_some]
  simp only [ne_eq, addressScheme?_eq_some_iff, HasLetters, not_exists]

theorem pathFault?_eq_none_iff : pathFault? path = none ↔
    path ≠ "" ∧ ¬ HasLetters path ∧ ¬ fileMark <+: path.toList ∧ '?' ∉ path.toList := by
  have isEmpty : path.toList.isEmpty = true ↔ path = "" := by
    rw [List.isEmpty_iff, String.toList_eq_nil_iff]
  have hasQuery : path.toList.contains '?' = true ↔ '?' ∈ path.toList := List.contains_iff_mem
  by_cases inMemory : path = memoryPath
  · subst inMemory
    exact iff_of_true (by decide) ⟨by decide, addressScheme?_eq_none_iff.1 (by decide), by decide, by decide⟩
  rw [← addressScheme?_eq_none_iff, ← isSome_dropLeading?_iff, ← hasQuery, ne_eq, ← isEmpty]
  unfold pathFault?
  dsimp only
  rw [if_neg inMemory]
  -- The parts are asked for one after the other, and the first that is missing is the fault.
  split
  next empty => exact iff_of_false nofun fun asked => asked.1 empty
  next notEmpty =>
    cases addressScheme? path.toList with
    | some scheme => exact iff_of_false nofun fun asked => nomatch asked.2.1
    | none =>
      dsimp only
      split
      next file => exact iff_of_false nofun fun asked => asked.2.2.1 file
      next notFile =>
        split
        next query => exact iff_of_false nofun fun asked => asked.2.2.2 query
        next noQuery => exact iff_of_true rfl ⟨notEmpty, rfl, notFile, noQuery⟩

end Refusal

section Addresses

/-- The scheme of an address: a letter of ASCII, and then such letters, digits, plus and minus signs, and points. -/
def IsScheme (scheme : List Char) : Prop :=
  ∃ first others, scheme = first :: others ∧ isAsciiLetter first = true ∧ ∀ c ∈ others, isSchemeChar c = true

def IsAddressOf (scheme : List Char) (path : String) : Prop :=
  IsScheme scheme ∧ ∃ rest, path.toList = scheme ++ (addressMark ++ rest)

theorem IsScheme.chars (isScheme : IsScheme scheme) : ∀ c ∈ scheme, isSchemeChar c = true := by
  obtain ⟨first, others, rfl, letter, all⟩ := isScheme
  refine List.forall_mem_cons.2 ⟨?_, all⟩
  rw [isSchemeChar, letter]
  rfl

theorem IsScheme.noColon (isScheme : IsScheme scheme) : ':' ∉ scheme := fun member =>
  absurd (isScheme.chars _ member) (by decide)

theorem IsScheme.ne_nil (isScheme : IsScheme scheme) : scheme ≠ [] := by
  obtain ⟨first, others, rfl, -, -⟩ := isScheme
  exact List.cons_ne_nil _ _

theorem isLetter_of_isSchemeChar {c : Char} (inScheme : isSchemeChar c = true) : isLetter c = isAsciiLetter c := by
  -- Letters of other scripts begin behind ASCII, where no scheme has characters.
  have ascii : c.toNat < 128 := by
    simp only [isSchemeChar, isAsciiLetter, isDigit, Bool.or_eq_true, Bool.and_eq_true, decide_eq_true_eq] at inScheme
    rcases inScheme with (((letter | digit) | rfl) | rfl) | rfl
    · simp at letter
      omega
    · simp at digit
      omega
    · decide
    · decide
    · decide
  exact if_pos ascii

theorem IsScheme.isLetters_iff (isScheme : IsScheme scheme) :
    IsLetters scheme ↔ ∀ c ∈ scheme, isAsciiLetter c = true := by
  rw [IsLetters, and_iff_right isScheme.ne_nil]
  refine forall₂_congr fun c member => ?_
  rw [isLetter_of_isSchemeChar (isScheme.chars c member)]

theorem IsLetters.noColon (letters : IsLetters scheme) : ':' ∉ scheme := fun member =>
  absurd (letters.2 _ member) (by decide)

theorem IsAddressOf.hasLetters_iff (isAddress : IsAddressOf scheme path) :
    HasLetters path ↔ ∀ c ∈ scheme, isAsciiLetter c = true := by
  obtain ⟨isScheme, rest, whole⟩ := isAddress
  rw [← isScheme.isLetters_iff]
  constructor
  · rintro ⟨other, letters, otherRest, otherWhole⟩
    -- There is one first colon only.
    have same : scheme = other :=
      eq_of_append_mark isScheme.noColon letters.noColon (whole.symm.trans otherWhole)
    rwa [same]
  · exact fun letters => ⟨scheme, letters, rest, whole⟩

theorem IsAddressOf.hasLetters_of_file (isAddress : IsAddressOf scheme path) (file : fileMark <+: path.toList) :
    HasLetters path := by
  obtain ⟨isScheme, rest, whole⟩ := isAddress
  obtain ⟨fileRest, isFile⟩ := file
  have same : "file".toList = scheme :=
    eq_of_append_mark (by decide) isScheme.noColon (isFile.trans whole)
  have letters : "file".toList.all isLetter = true := by decide
  exact ⟨scheme, ⟨isScheme.ne_nil, List.all_eq_true.1 (same ▸ letters)⟩, rest, whole⟩

end Addresses

section Callers

theorem load_of_pathFault {fault : PathFault} (faulty : pathFault? path = some fault) {text : String}
    {entries : Toml.Entries} {configuration : Configuration} (read : Toml.read? text = some entries)
    (version : version? entries = some currentVersion) (decoded : decode? entries = some configuration)
    (told : configuration.databasePath = some path) : load text = .error (.databasePath path fault) := by
  have checked : configuration.checkDatabasePath = .error (.databasePath path fault) := by
    rw [Configuration.checkDatabasePath, told]
    dsimp only
    rw [faulty]
  have validated : configuration.validate = .error (.databasePath path fault) := by
    rw [Configuration.validate, checked]
    rfl
  rw [load, read]
  dsimp only
  rw [version]
  dsimp only
  rw [if_neg (not_not_intro rfl), decoded]
  dsimp only
  rw [validated]
  rfl

/-- The path is refused, as a setting of a configuration and where the database is to be opened. -/
def PathRefused (path : String) : Prop :=
  ∃ fault, pathFault? path = some fault ∧
    (∀ text entries configuration, Toml.read? text = some entries → version? entries = some currentVersion →
      decode? entries = some configuration → configuration.databasePath = some path →
        load text = .error (.databasePath path fault)) ∧
    ∀ (m : Type → Type) [Monad m] [Machine m], (openAt path : Run m Database) = throw (.ofText (fault.message path))

theorem pathRefused_iff : PathRefused path ↔ pathFault? path ≠ none := by
  constructor
  · rintro ⟨fault, faulty, -⟩ noFault
    rw [noFault] at faulty
    cases faulty
  · intro notNone
    obtain ⟨fault, faulty⟩ := Option.ne_none_iff_exists'.1 notNone
    refine ⟨fault, faulty, fun text entries configuration => load_of_pathFault faulty, fun m _ _ => ?_⟩
    rw [openAt, faulty]

end Callers

/-- What is no path: an address, what begins with the scheme of files, and what has a question mark. -/
def IsNoPath (path : String) : Prop :=
  (∃ scheme, IsAddressOf scheme path) ∨ fileMark <+: path.toList ∨ '?' ∈ path.toList

/-- What is no path is refused, and every other text without a colon and two slashes is taken, if it has a character
at all. -/
def Judged (path : String) : Prop :=
  (IsNoPath path → PathRefused path) ∧
    (¬ IsNoPath path → path ≠ "" → ¬ addressMark <:+: path.toList → pathFault? path = none)

/-- An address whose scheme has something else than letters, without a question mark. -/
def PassesForPath (path : String) : Prop :=
  ∃ scheme, IsAddressOf scheme path ∧ (∃ c ∈ scheme, isAsciiLetter c = false) ∧ '?' ∉ path.toList

theorem pathFault?_of_passesForPath (passes : PassesForPath path) : pathFault? path = none := by
  obtain ⟨scheme, isAddress, ⟨c, member, noLetter⟩, noQuery⟩ := passes
  have noLetters : ¬ HasLetters path := fun letters => by
    rw [isAddress.hasLetters_iff.1 letters c member] at noLetter
    cases noLetter
  refine pathFault?_eq_none_iff.2 ⟨?_, noLetters, mt isAddress.hasLetters_of_file noLetters, noQuery⟩
  rintro rfl
  obtain ⟨isScheme, rest, whole⟩ := isAddress
  exact isScheme.ne_nil (List.append_eq_nil_iff.1 whole.symm).1

/-- What is no path is refused and the rest is taken, but for addresses whose scheme has a digit, a sign or a point.
Without a question mark these are taken for paths. -/
theorem judged_iff (path : String) :
    (Judged path ↔ ¬ PassesForPath path) ∧ (PassesForPath path → IsNoPath path ∧ pathFault? path = none) := by
  have noPath (passes : PassesForPath path) : IsNoPath path := by
    obtain ⟨scheme, isAddress, -⟩ := passes
    exact .inl ⟨scheme, isAddress⟩
  refine ⟨⟨?_, fun told => ⟨fun isNoPath => pathRefused_iff.2 fun taken => ?_, ?_⟩⟩,
    fun passes => ⟨noPath passes, pathFault?_of_passesForPath passes⟩⟩
  · exact fun judged passes => pathRefused_iff.1 (judged.1 (noPath passes)) (pathFault?_of_passesForPath passes)
  · obtain ⟨-, noLetters, noFile, noQuery⟩ := pathFault?_eq_none_iff.1 taken
    rcases isNoPath with ⟨scheme, isAddress⟩ | file | query
    · refine told ⟨scheme, isAddress, ?_, noQuery⟩
      by_contra letters
      refine noLetters (isAddress.hasLetters_iff.2 fun c member => ?_)
      exact by_contra fun noLetter => letters ⟨c, member, eq_false_of_ne_true noLetter⟩
    · exact noFile file
    · exact noQuery query
  · intro isPath nonempty noMark
    refine pathFault?_eq_none_iff.2 ⟨nonempty, ?_, fun file => isPath (.inr (.inl file)),
      fun query => isPath (.inr (.inr query))⟩
    rintro ⟨scheme, -, rest, whole⟩
    exact noMark ⟨scheme, rest, by rw [whole, List.append_assoc]⟩

section Bucket

def bucket : String := "s3://bucket/boincview.db"

theorem isAddressOf_bucket : IsAddressOf "s3".toList bucket := by
  have isScheme : IsScheme "s3".toList :=
    ⟨'s', ['3'], by decide, by decide, List.forall_mem_singleton.2 (by decide)⟩
  exact ⟨isScheme, "bucket/boincview.db".toList, by decide⟩

theorem bucket_judged_iff :
    PassesForPath bucket ∧ IsNoPath bucket ∧ pathFault? bucket = none ∧ ¬ Judged bucket := by
  have passes : PassesForPath bucket :=
    ⟨"s3".toList, isAddressOf_bucket, ⟨'3', by decide, by decide⟩, by decide⟩
  have ⟨judgedIff, taken⟩ := judged_iff bucket
  have ⟨noPath, noFault⟩ := taken passes
  exact ⟨passes, noPath, noFault, fun judged => judgedIff.1 judged passes⟩

theorem bucket_taken_for_path : ¬ ∀ path : String, Judged path := by
  intro judged
  obtain ⟨fault, refused, -⟩ := (judged bucket).1 (.inl ⟨"s3".toList, isAddressOf_bucket⟩)
  have taken : pathFault? bucket = none := by decide
  rw [taken] at refused
  cases refused

end Bucket

end Settings
end ComputeMonitor
