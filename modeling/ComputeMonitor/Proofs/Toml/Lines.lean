import ComputeMonitor.Proofs.Text.Blank
import ComputeMonitor.Toml.Reader

/-!
Reading a document line by line.

No reader gives back more than it was given, and behind a statement the end of its line is gone. So the length of
a text is fuel enough for its lines, and more of it makes no difference. That leaves what one line contributes: a
comment contributes nothing, if it is one, and there is no document if it is none.
-/

set_option autoImplicit false

namespace ComputeMonitor.Toml

open ComputeMonitor.Text

section Lengths

variable {chars rest : List Char}

@[grind →] theorem length_of_dropLineEnd? (dropped : dropLineEnd? chars = some rest) :
    rest.length < chars.length := by
  unfold dropLineEnd? at dropped
  grind

@[grind →] theorem length_of_escape? {c : Char} (read : escape? chars = some (c, rest)) :
    rest.length ≤ chars.length := by
  unfold escape? codeEscape? at read
  split at read <;> grind [Option.map_eq_some_iff]

@[grind →] theorem length_of_basicRest? {fuel : Nat} {seen : List Char} {text : String}
    (read : basicRest? fuel seen chars = some (text, rest)) : rest.length ≤ chars.length := by
  induction fuel generalizing seen chars with
  | zero => cases read
  | succ fuel ih =>
    unfold basicRest? at read
    split at read <;> grind

@[grind →] theorem length_of_literalRest? {text : String} (read : literalRest? chars = some (text, rest)) :
    rest.length ≤ chars.length := by
  unfold literalRest? at read
  grind [→ splitFirst?_eq_some]

@[grind →] theorem length_of_closing? {quote : Char} {kept : Nat}
    (closed : closing? quote chars = some (kept, rest)) : rest.length ≤ chars.length := by
  unfold closing? at closed
  grind

@[grind! .] theorem length_dropBlankLines_le (chars : List Char) :
    (dropBlankLines chars).length ≤ chars.length := by
  fun_induction dropBlankLines chars <;> grind

@[grind →] theorem length_of_dropJoint? (dropped : dropJoint? chars = some rest) :
    rest.length ≤ chars.length := by
  unfold dropJoint? at dropped
  grind [Option.map_eq_some_iff, List.length_dropWhile_le]

@[grind →] theorem length_of_linesRest? {quote : Char} {fuel : Nat} {seen : List Char} {text : String}
    (read : linesRest? quote fuel seen chars = some (text, rest)) : rest.length ≤ chars.length := by
  induction fuel generalizing seen chars with
  | zero => cases read
  | succ fuel ih =>
    unfold linesRest? at read
    grind

@[grind →] theorem length_of_lineString? {text : String} (read : lineString? chars = some (text, rest)) :
    rest.length ≤ chars.length := by
  unfold lineString? at read
  grind

@[grind →] theorem length_of_lines? {quote : Char} {text : String}
    (read : lines? quote chars = some (text, rest)) : rest.length ≤ chars.length := by
  unfold lines? at read
  cases lineEnd : dropLineEnd? chars <;> grind

@[grind →] theorem length_of_string? {text : String} (read : string? chars = some (text, rest)) :
    rest.length ≤ chars.length := by
  unfold string? at read
  split at read <;> grind

@[grind! .] theorem length_splitAtom_le (chars : List Char) : (splitAtom chars).2.length ≤ chars.length := by
  have behind : (chars.drop (chars.takeWhile isAtomChar).length).length ≤ chars.length := by grind
  unfold splitAtom
  dsimp only
  split
  · split <;> grind
  · exact behind

@[grind →] theorem length_of_atom? {value : Value} (read : atom? chars = some (value, rest)) :
    rest.length ≤ chars.length := by
  obtain ⟨_, -, same⟩ := Option.map_eq_some_iff.1 read
  cases same
  exact length_splitAtom_le chars

@[grind! .] theorem length_skipSpace_le (chars : List Char) : (skipSpace chars).length ≤ chars.length :=
  List.length_dropWhile_le isSpace chars

@[grind! .] theorem length_filler_le (chars : List Char) : (filler chars).length ≤ chars.length := by
  have skipped (fuel : Nat) : (skipFiller fuel chars).length ≤ chars.length := by
    induction fuel generalizing chars with
    | zero => exact Nat.le_refl _
    | succ fuel ih =>
      unfold skipFiller
      grind
  exact skipped _

@[grind →] theorem length_of_name? {text : String} (read : name? chars = some (text, rest)) :
    rest.length ≤ chars.length := by
  unfold name? at read
  grind

@[grind →] theorem length_of_names? {room : Nat} {names : List String}
    (read : names? room chars = some (names, rest)) : rest.length ≤ chars.length := by
  induction room generalizing names chars with
  | zero => cases read
  | succ room ih =>
    unfold names? at read
    grind [Option.map_eq_some_iff]

@[grind →] theorem length_of_key? {names : List String} (read : key? chars = some (names, rest)) :
    rest.length ≤ chars.length :=
  length_of_names? read

theorem length_of_values (fuel : Nat) :
    (∀ room chars value rest, value? fuel room chars = some (value, rest) → rest.length ≤ chars.length) ∧
    (∀ room chars values rest, elements? fuel room chars = some (values, rest) → rest.length ≤ chars.length) ∧
    (∀ room chars pairs rest, pairs? fuel room chars = some (pairs, rest) → rest.length ≤ chars.length) ∧
    ∀ room chars pair rest, pair? fuel room chars = some (pair, rest) → rest.length ≤ chars.length := by
  induction fuel with
  | zero => simp [value?, elements?, pairs?, pair?]
  | succ fuel ih =>
    obtain ⟨value, elements, pairs, pair⟩ := ih
    refine ⟨?_, ?_, ?_, ?_⟩ <;> intro room chars _ rest read
    · unfold value? at read
      split at read <;> grind [Option.map_eq_some_iff]
    · unfold elements? at read
      split at read <;> grind [Option.map_eq_some_iff]
    · unfold pairs? at read
      split at read <;> grind [Option.map_eq_some_iff]
    · unfold pair? at read
      grind [Option.map_eq_some_iff]

@[grind →] theorem length_of_value? {fuel room : Nat} {value : Value}
    (read : value? fuel room chars = some (value, rest)) : rest.length ≤ chars.length :=
  (length_of_values fuel).1 room chars value rest read

@[grind →] theorem length_of_statement? {statement : Option Statement}
    (read : statement? chars = some (statement, rest)) : rest.length ≤ chars.length := by
  unfold statement? elementHeading? heading? assignment? at read
  grind [Option.map_eq_some_iff]

@[grind →] theorem length_of_dropLine? (dropped : dropLine? chars = some rest) :
    rest = [] ∨ rest.length < chars.length := by
  unfold dropLine? dropComment? at dropped
  grind

end Lengths

section Fuel

variable {chars : List Char}

/-- The fuel never runs out: any that is above the length of the text reads the same. -/
theorem statements?_of_enough {fuel more : Nat} (enough : chars.length < fuel) (enoughToo : chars.length < more) :
    statements? fuel chars = statements? more chars := by
  induction fuel generalizing chars more with
  | zero => omega
  | succ fuel ih =>
    obtain ⟨less, rfl⟩ : ∃ less, more = less + 1 := ⟨more - 1, by omega⟩
    cases chars with
    | nil => rfl
    | cons c others =>
      unfold statements?
      split
      · rfl
      · split
        · rfl
        · -- The end of the line is gone, so what is left is shorter than either fuel.
          rw [ih]
          all_goals grind

def allStatements? (chars : List Char) : Option (List Statement) := statements? (chars.length + 1) chars

theorem allStatements?_of_statement (nonempty : chars ≠ []) {statement : Option Statement} {behind : List Char}
    (read : statement? (skipSpace chars) = some (statement, behind)) :
    allStatements? chars = (dropLine? behind).bind fun rest => (allStatements? rest).map (statement.toList ++ ·) := by
  rw [allStatements?, statements?, read]
  · dsimp only
    cases ended : dropLine? behind with
    | none => rfl
    | some rest =>
      have shorter : rest.length < chars.length := by
        have := List.length_pos_iff.2 nonempty
        grind
      have enough : statements? chars.length rest = allStatements? rest :=
        statements?_of_enough shorter (Nat.lt_succ_self _)
      simp [enough]
  · exact nonempty

end Fuel

section Comments

/-- A line may be a comment behind its mark: there is no control character but a tab in it, save a carriage
return at its end. -/
def FitsComment (line : List Char) : Prop :=
  ∃ text, (∀ c ∈ text, isControl c = false) ∧ (line = text ∨ line = text ++ ['\r'])

variable {line : List Char}

theorem fitsComment_iff : FitsComment line ↔
    line.dropWhile (!isControl ·) = [] ∨ line.dropWhile (!isControl ·) = ['\r'] := by
  constructor
  · rintro ⟨text, clean, rfl | rfl⟩
    · exact .inl (List.dropWhile_eq_nil_iff.2 (by simpa using clean))
    · right
      rw [List.dropWhile_append_of_pos (by simpa using clean)]
      rfl
  · intro left
    refine ⟨line.takeWhile (!isControl ·), fun c member => by simpa using List.mem_takeWhile_imp member, ?_⟩
    have whole := List.takeWhile_append_dropWhile (p := (!isControl ·)) (l := line)
    rcases left with none | one
    · rw [none, List.append_nil] at whole
      exact .inl whole.symm
    · rw [one] at whole
      exact .inr whole.symm

instance : Decidable (FitsComment line) := decidable_of_iff _ fitsComment_iff.symm

theorem fitsComment_append {front : List Char} (clean : ∀ c ∈ front, isControl c = false) :
    FitsComment (front ++ line) ↔ FitsComment line := by
  rw [fitsComment_iff, fitsComment_iff, List.dropWhile_append_of_pos (by simpa using clean)]

theorem dropComment?_mark (chars : List Char) :
    dropComment? ('#' :: chars) = some (chars.dropWhile (!isControl ·)) := by
  have behind : (chars.takeWhile (!isControl ·) ++ chars.dropWhile (!isControl ·)).drop
      (chars.takeWhile (!isControl ·)).length = chars.dropWhile (!isControl ·) := List.drop_left
  rw [List.takeWhile_append_dropWhile] at behind
  exact congrArg some behind

variable (oneLine : '\n' ∉ line) (rest : List Char)
include oneLine

theorem dropLineEnd?_append : dropLineEnd? (line ++ '\n' :: rest) =
    if line = [] ∨ line = ['\r'] then some rest else none := by
  rcases line with _ | ⟨c, _ | ⟨d, others⟩⟩
  · rfl
  all_goals
    unfold dropLineEnd?
    split <;> simp_all

theorem dropLine?_comment : dropLine? ('#' :: (line ++ '\n' :: rest)) =
    if FitsComment line then some rest else none := by
  -- The comment has stopped at the first control character. Only the end of the line may stand there.
  have stopped : (line ++ '\n' :: rest).dropWhile (!isControl ·) =
      line.dropWhile (!isControl ·) ++ '\n' :: rest := by
    rw [List.dropWhile_append]
    cases line.dropWhile (!isControl ·) <;> rfl
  have inLine : '\n' ∉ line.dropWhile (!isControl ·) := fun member =>
    oneLine ((List.dropWhile_suffix _).mem member)
  have ended := dropLineEnd?_append inLine rest
  have read : dropComment? (skipSpace ('#' :: (line ++ '\n' :: rest))) =
      some (line.dropWhile (!isControl ·) ++ '\n' :: rest) :=
    (dropComment?_mark _).trans (congrArg some stopped)
  simp only [dropLine?, read, fitsComment_iff, ← ended]
  cases line.dropWhile (!isControl ·) <;> rfl

/-- A comment contributes nothing to a document, and where there is none behind its mark, there is no document. -/
theorem allStatements?_comment : allStatements? ('#' :: (line ++ '\n' :: rest)) =
    if FitsComment line then allStatements? rest else none := by
  have read : statement? (skipSpace ('#' :: (line ++ '\n' :: rest))) =
    some (none, '#' :: (line ++ '\n' :: rest)) := rfl
  rw [allStatements?_of_statement (List.cons_ne_nil _ _) read, dropLine?_comment oneLine]
  split
  · simp
  · rfl

end Comments

section Documents

theorem allStatements?_emptyLine (rest : List Char) : allStatements? ('\n' :: rest) = allStatements? rest := by
  have read : statement? (skipSpace ('\n' :: rest)) = some (none, '\n' :: rest) := rfl
  have ended : dropLine? ('\n' :: rest) = some rest := rfl
  rw [allStatements?_of_statement (List.cons_ne_nil _ _) read, ended]
  simp

def entriesOf? (chars : List Char) : Option Entries := do
  settledEntries? (← build? (← allStatements? chars))

theorem read?_eq (text : String) : read? text = entriesOf? (withoutMark text.toList) := rfl

theorem entriesOf?_emptyLine (rest : List Char) : entriesOf? ('\n' :: rest) = entriesOf? rest := by
  unfold entriesOf?
  rw [allStatements?_emptyLine]

theorem entriesOf?_comment {line : List Char} (oneLine : '\n' ∉ line) (rest : List Char) :
    entriesOf? ('#' :: (line ++ '\n' :: rest)) = if FitsComment line then entriesOf? rest else none := by
  unfold entriesOf?
  rw [allStatements?_comment oneLine]
  split <;> rfl

end Documents

end ComputeMonitor.Toml
