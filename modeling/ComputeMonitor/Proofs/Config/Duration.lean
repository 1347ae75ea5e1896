import ComputeMonitor.Config.Duration
import ComputeMonitor.Proofs.Text.Numeral

/-!
Durations are read exactly or not at all.

A text has at most one reading as a whole number and a unit, although the units share their letters. The number
is limited to 64 bits before the unit is looked at. That leaves room for milliseconds and seconds; minutes are
turned into seconds in the same 64 bits, and where these do not fit the reading crashes in place of refusing.
-/

set_option autoImplicit false

namespace ComputeMonitor.Config

open ComputeMonitor.Text

def TimeUnit.mark : TimeUnit → List Char
  | .milliseconds => ['m', 's']
  | .seconds => ['s']
  | .minutes => ['m']

def TimeUnit.length : TimeUnit → Nat
  | .milliseconds => 1
  | .seconds => 1000
  | .minutes => 60000

/-- A whole number of 64 bits directly followed by a unit. -/
def Denotes (text : String) (amount : Nat) (unit : TimeUnit) : Prop :=
  ∃ number, text.toList = number ++ unit.mark ∧ IsNumeral number amount ∧ amount ≤ maxUInt64

def IsCountable (milliseconds : Nat) : Prop := milliseconds / 1000 ≤ maxUInt64

section Units

theorem splitUnit?_sound {chars number : List Char} {unit : TimeUnit}
    (split : splitUnit? chars = some (number, unit)) : chars = number ++ unit.mark := by
  unfold splitUnit? at split
  split at split
  next found =>
    cases split
    exact dropTrailing?_eq_some_iff.1 found
  next =>
    split at split
    next found =>
      cases split
      exact dropTrailing?_eq_some_iff.1 found
    next =>
      obtain ⟨_, found, same⟩ := Option.map_eq_some_iff.1 split
      cases same
      exact dropTrailing?_eq_some_iff.1 found

theorem dropTrailing?_eq_none {closing chars : List Char} (apart : ∀ rest, chars ≠ rest ++ closing) :
    dropTrailing? closing chars = none :=
  Option.eq_none_iff_forall_ne_some.2 fun rest found => apart rest (dropTrailing?_eq_some_iff.1 found)

/-- Only a number that ends in the first letter of the milliseconds could be cut in two ways. -/
theorem splitUnit?_append {number : List Char} (noMark : 'm' ∉ number) (unit : TimeUnit) :
    splitUnit? (number ++ unit.mark) = some (number, unit) := by
  have found : dropTrailing? unit.mark (number ++ unit.mark) = some number := dropTrailing?_eq_some_iff.2 rfl
  cases unit with
  | milliseconds =>
    unfold splitUnit?
    rw [show "ms".toList = TimeUnit.milliseconds.mark from rfl, found]
  | seconds =>
    have noMilliseconds : dropTrailing? "ms".toList (number ++ ['s']) = none := by
      refine dropTrailing?_eq_none fun rest same => noMark ?_
      have before : number = rest ++ ['m'] :=
        List.append_cancel_right (same.trans (List.append_assoc rest ['m'] ['s']).symm)
      simp [before]
    unfold splitUnit?
    rw [TimeUnit.mark, noMilliseconds, show ['s'] = TimeUnit.seconds.mark from rfl, found]
  | minutes =>
    -- The last letter is no other unit's.
    have noOther (before : List Char) : dropTrailing? (before ++ ['s']) (number ++ ['m']) = none := by
      refine dropTrailing?_eq_none fun rest same => ?_
      rw [← List.append_assoc] at same
      exact absurd (List.append_inj_right' same rfl) (by decide)
    unfold splitUnit?
    rw [TimeUnit.mark, show "ms".toList = ['m'] ++ ['s'] from rfl, noOther ['m'], ← List.nil_append ['s'],
      noOther [], show ['m'] = TimeUnit.minutes.mark from rfl, found]
    rfl

end Units

theorem not_mem_of_isNumeral {number : List Char} {amount : Nat} (isNumeral : IsNumeral number amount) :
    'm' ∉ number := by
  obtain ⟨digits, written, -, areDigits, -⟩ := isNumeral
  have notDigit : 'm' ∉ digits := not_mem_of_digits areDigits (by decide)
  rcases written with rfl | rfl
  · exact notDigit
  · simpa using notDigit

section Reading

variable {text : String}

theorem Denotes.unique {amount other : Nat} {unit otherUnit : TimeUnit} (denotes : Denotes text amount unit)
    (otherwise : Denotes text other otherUnit) : other = amount ∧ otherUnit = unit := by
  obtain ⟨number, isText, isNumeral, inside⟩ := denotes
  obtain ⟨otherNumber, isTextToo, isNumeralToo, insideToo⟩ := otherwise
  have cut := splitUnit?_append (not_mem_of_isNumeral isNumeral) unit
  have cutToo := splitUnit?_append (not_mem_of_isNumeral isNumeralToo) otherUnit
  rw [← isText] at cut
  rw [← isTextToo, cut] at cutToo
  cases cutToo
  -- One text is read as one number.
  have read := readUnsigned_eq_ok_iff.2 ⟨isNumeral, inside⟩
  rw [readUnsigned_eq_ok_iff.2 ⟨isNumeralToo, insideToo⟩] at read
  exact ⟨Except.ok.inj read, rfl⟩

/-- A text that denotes an amount is read as this amount, and no other text is read as anything. -/
theorem readDuration_cases (text : String) :
    (∃ amount unit, Denotes text amount unit ∧ readDuration text = unit.inMilliseconds amount) ∨
      (∀ amount unit, ¬ Denotes text amount unit) ∧
        ∃ fault, readDuration text = .error fault ∧ fault ≠ .crashed := by
  unfold readDuration
  cases cut : splitUnit? text.toList with
  | none =>
    refine .inr ⟨fun amount unit => ?_, _, rfl, nofun⟩
    rintro ⟨number, isText, isNumeral, -⟩
    rw [isText, splitUnit?_append (not_mem_of_isNumeral isNumeral)] at cut
    cases cut
  | some found =>
    obtain ⟨number, unit⟩ := found
    dsimp only
    cases isAmount : readUnsigned maxUInt64 number with
    | ok amount =>
      exact .inl ⟨amount, unit, ⟨number, splitUnit?_sound cut, readUnsigned_eq_ok_iff.1 isAmount⟩, rfl⟩
    | error error =>
      refine .inr ⟨fun amount otherUnit => ?_, _, rfl, nofun⟩
      rintro ⟨other, isText, isNumeral, inside⟩
      rw [isText, splitUnit?_append (not_mem_of_isNumeral isNumeral)] at cut
      cases cut
      cases isAmount.symm.trans (readUnsigned_eq_ok_iff.2 ⟨isNumeral, inside⟩)

section Amounts

variable {unit : TimeUnit} {amount : Nat}

theorem inMilliseconds_of_isCountable (countable : IsCountable (amount * unit.length)) :
    unit.inMilliseconds amount = .ok (amount * unit.length) := by
  unfold IsCountable at countable
  cases unit with
  | milliseconds => exact congrArg Except.ok (Nat.mul_one amount).symm
  | seconds => rfl
  | minutes =>
    have inside : amount * 60 ≤ maxUInt64 := by
      simp only [TimeUnit.length] at countable
      omega
    rw [TimeUnit.inMilliseconds, if_pos inside, Nat.mul_assoc]
    rfl

/-- Of the units only the minutes need more room than the number was given. -/
theorem inMilliseconds_of_not_isCountable (inside : amount ≤ maxUInt64)
    (uncountable : ¬ IsCountable (amount * unit.length)) :
    unit = .minutes ∧ unit.inMilliseconds amount = .error .crashed := by
  unfold IsCountable at uncountable
  cases unit with
  | milliseconds | seconds =>
    simp only [TimeUnit.length] at uncountable
    omega
  | minutes =>
    have tooMany : ¬ amount * 60 ≤ maxUInt64 := by
      simp only [TimeUnit.length] at uncountable
      omega
    exact ⟨rfl, if_neg tooMany⟩

end Amounts

/-- A text is read as a duration just when it is a whole number of 64 bits directly followed by a unit and its
seconds can be counted in 64 bits, and then as exactly the duration that it denotes. The reading crashes just
when the text denotes minutes whose seconds cannot be counted. -/
theorem readDuration_exact (text : String) :
    (∀ duration, readDuration text = .ok duration ↔ ∃ amount unit, Denotes text amount unit ∧
      IsCountable (amount * unit.length) ∧ duration = amount * unit.length) ∧
    (readDuration text = .error .crashed ↔ ∃ amount, Denotes text amount .minutes ∧
      ¬ IsCountable (amount * TimeUnit.minutes.length)) := by
  rcases readDuration_cases text with ⟨amount, unit, denotes, isRead⟩ | ⟨nothing, fault, refused, noCrash⟩
  · rw [isRead]
    -- A text denotes one duration at most, so that whatever else it may denote is the one that was read.
    by_cases countable : IsCountable (amount * unit.length)
    · rw [inMilliseconds_of_isCountable countable]
      constructor
      · intro duration
        constructor
        · rintro ⟨⟩
          exact ⟨amount, unit, denotes, countable, rfl⟩
        · rintro ⟨other, otherUnit, otherwise, -, rfl⟩
          obtain ⟨rfl, rfl⟩ := denotes.unique otherwise
          rfl
      · refine iff_of_false nofun ?_
        rintro ⟨other, otherwise, uncountable⟩
        obtain ⟨rfl, rfl⟩ := denotes.unique otherwise
        exact uncountable countable
    · have ⟨_, _, _, inside⟩ := denotes
      obtain ⟨rfl, crashes⟩ := inMilliseconds_of_not_isCountable inside countable
      rw [crashes]
      refine ⟨fun duration => iff_of_false nofun ?_, iff_of_true rfl ⟨amount, denotes, countable⟩⟩
      rintro ⟨other, otherUnit, otherwise, otherCountable, -⟩
      obtain ⟨rfl, rfl⟩ := denotes.unique otherwise
      exact countable otherCountable
  · rw [refused]
    refine ⟨fun duration => iff_of_false nofun ?_, iff_of_false (fun same => noCrash (Except.error.inj same)) ?_⟩
    · rintro ⟨amount, unit, denotes, -⟩
      exact nothing amount unit denotes
    · rintro ⟨amount, denotes, -⟩
      exact nothing amount .minutes denotes

end Reading

section ManyMinutes

/-- The fewest minutes whose seconds do not fit. -/
def manyMinutes : String := "307445734561825861m"

theorem manyMinutes_crash : ¬ ∀ text, (∀ duration, readDuration text = .ok duration ↔
      ∃ amount unit, Denotes text amount unit ∧ IsCountable (amount * unit.length) ∧
        duration = amount * unit.length) ∧
    readDuration text ≠ .error .crashed := by
  intro neverCrashes
  exact (neverCrashes manyMinutes).2 (by decide +kernel)

end ManyMinutes

end ComputeMonitor.Config
