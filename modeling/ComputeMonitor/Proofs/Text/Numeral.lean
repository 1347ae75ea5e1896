import ComputeMonitor.Proofs.Text.Blank
import ComputeMonitor.Text.Numeral
import Mathlib.Algebra.Ring.Nat

/-!
Numerals are read back as they were written: every number up to the limit of the reader, and with blanks
around the numeral left aside. Nothing but numerals is read, with leading zeros and a plus sign or without.
-/

set_option autoImplicit false

namespace ComputeMonitor.Text

theorem digit_of_lt : ∀ n < 10,
    isDigit (Char.ofNat ('0'.toNat + n)) = true ∧ digitValue (Char.ofNat ('0'.toNat + n)) = n := by
  decide

theorem exists_digit_of_isDigit {c : Char} (digit : isDigit c = true) :
    ∃ n < 10, c = Char.ofNat ('0'.toNat + n) := by
  simp only [isDigit, Bool.and_eq_true, decide_eq_true_eq] at digit
  have bounds : 48 ≤ c.toNat ∧ c.toNat ≤ 57 := digit
  refine ⟨c.toNat - 48, by omega, ?_⟩
  have code : '0'.toNat + (c.toNat - 48) = c.toNat := Nat.add_sub_of_le bounds.1
  rw [code, Char.ofNat_toNat]

theorem digitsOf_ne_nil (n : Nat) : digitsOf n ≠ [] := by
  rw [digitsOf]
  split <;> simp

theorem isDigit_of_mem_digitsOf {n : Nat} {c : Char} (member : c ∈ digitsOf n) : isDigit c = true := by
  induction n using digitsOf.induct with
  | case1 n small =>
    rw [digitsOf, if_pos small, List.mem_singleton] at member
    exact member ▸ (digit_of_lt n small).1
  | case2 n large ih =>
    rw [digitsOf, if_neg large, List.mem_append, List.mem_singleton] at member
    rcases member with earlier | rfl
    · exact ih earlier
    · exact (digit_of_lt (n % 10) (Nat.mod_lt n (by decide))).1

theorem digitsValue_digitsOf (n : Nat) : digitsValue (digitsOf n) 0 = n := by
  -- Digits are written from the last one on and read from the first one on: one step is one digit at the end.
  induction n using digitsOf.induct with
  | case1 n small =>
    rw [digitsOf, if_pos small, digitsValue, List.foldl_cons, List.foldl_nil, (digit_of_lt n small).2]
    omega
  | case2 n large ih =>
    have last := (digit_of_lt (n % 10) (Nat.mod_lt n (by decide))).2
    unfold digitsValue at ih ⊢
    rw [digitsOf, if_neg large, List.foldl_append, ih, List.foldl_cons, List.foldl_nil, last]
    omega

theorem isDigit_of_mem_paddedDigits {width n : Nat} {c : Char} (member : c ∈ paddedDigits width n) :
    isDigit c = true := by
  rcases List.mem_append.1 member with zero | digit
  · rw [List.eq_of_mem_replicate zero]
    decide
  · exact isDigit_of_mem_digitsOf digit

theorem digitsValue_paddedDigits (width n : Nat) : digitsValue (paddedDigits width n) 0 = n := by
  have zeros (count : Nat) : digitsValue (List.replicate count '0') 0 = 0 := by
    induction count with
    | zero => rfl
    | succ count ih => exact ih
  have read : digitsValue (digitsOf n) (digitsValue (List.replicate (width - (digitsOf n).length) '0') 0) = n := by
    rw [zeros, digitsValue_digitsOf]
  exact (List.foldl_append ..).trans read

theorem le_digitsValue (digits : List Char) (value : Nat) : value ≤ digitsValue digits value := by
  induction digits generalizing value with
  | nil => exact Nat.le_refl value
  | cons c rest ih =>
    have further : value * 10 + digitValue c ≤ digitsValue (c :: rest) value := ih _
    omega

/-- What is read of digits never falls, so that the limit is kept on the way if it is kept in the end. -/
theorem readDigits_of_digits {limit : Nat} {digits : List Char} {value : Nat}
    (areDigits : ∀ c ∈ digits, isDigit c = true) (inside : digitsValue digits value ≤ limit) :
    readDigits limit digits value = .ok (digitsValue digits value) := by
  induction digits generalizing value with
  | nil => rfl
  | cons c rest ih =>
    rw [List.forall_mem_cons] at areDigits
    have next : value * 10 + digitValue c ≤ limit := Nat.le_trans (le_digitsValue rest _) inside
    rw [readDigits, if_pos areDigits.1]
    dsimp only
    rw [if_pos next]
    exact ih areDigits.2 inside

theorem readUnsigned_of_digits {limit : Nat} {digits : List Char} (nonempty : digits ≠ [])
    (areDigits : ∀ c ∈ digits, isDigit c = true) (inside : digitsValue digits 0 ≤ limit) :
    readUnsigned limit digits = .ok (digitsValue digits 0) := by
  have notPlus : '+' ∉ digits := fun member => absurd (areDigits '+' member) (by decide)
  have read := readDigits_of_digits areDigits inside
  unfold readUnsigned
  -- There is no sign, which leaves the last way of reading.
  split
  next empty => exact absurd rfl nonempty
  next plus => simp at notPlus
  next plus => simp at notPlus
  next => exact read

theorem readUnsigned_digitsOf {limit n : Nat} (inside : n ≤ limit) :
    readUnsigned limit (digitsOf n) = .ok n := by
  have read : readUnsigned limit (digitsOf n) = .ok (digitsValue (digitsOf n) 0) :=
    readUnsigned_of_digits (digitsOf_ne_nil n)
      (fun c => isDigit_of_mem_digitsOf) (by rwa [digitsValue_digitsOf])
  rwa [digitsValue_digitsOf] at read

/-- Whatever is read is what the digits denote, and a number of at least one digit is below the limit. -/
theorem digits_of_readDigits {limit : Nat} {digits : List Char} {value n : Nat}
    (read : readDigits limit digits value = .ok n) :
    (∀ c ∈ digits, isDigit c = true) ∧ digitsValue digits value = n ∧ (digits ≠ [] → n ≤ limit) := by
  induction digits generalizing value with
  | nil =>
    cases read
    simp [digitsValue]
  | cons c rest ih =>
    unfold readDigits at read
    dsimp only at read
    split at read
    next digit =>
      split at read
      next inside =>
        obtain ⟨areDigits, rfl, below⟩ := ih read
        refine ⟨List.forall_mem_cons.2 ⟨digit, areDigits⟩, rfl, fun _ => ?_⟩
        -- Behind the last digit it is the number itself that was compared with the limit.
        cases rest with
        | nil => exact inside
        | cons => exact below (List.cons_ne_nil _ _)
      next => cases read
    next => cases read

/-- Digits, at least one of them, with or without a plus sign in front, and the number that they denote. -/
def IsNumeral (chars : List Char) (n : Nat) : Prop :=
  ∃ digits, (chars = digits ∨ chars = '+' :: digits) ∧ digits ≠ [] ∧ (∀ c ∈ digits, isDigit c = true) ∧
    digitsValue digits 0 = n

theorem readUnsigned_eq_ok_iff {limit n : Nat} {chars : List Char} :
    readUnsigned limit chars = .ok n ↔ IsNumeral chars n ∧ n ≤ limit := by
  constructor
  · intro read
    unfold readUnsigned at read
    split at read
    next => cases read
    next => cases read
    next rest notAlone =>
      obtain ⟨areDigits, isValue, below⟩ := digits_of_readDigits read
      have nonempty : rest ≠ [] := fun empty => notAlone (by rw [empty])
      exact ⟨⟨rest, .inr rfl, nonempty, areDigits, isValue⟩, below nonempty⟩
    next nonempty _ _ =>
      obtain ⟨areDigits, isValue, below⟩ := digits_of_readDigits read
      exact ⟨⟨chars, .inl rfl, nonempty, areDigits, isValue⟩, below nonempty⟩
  · rintro ⟨⟨digits, rfl | rfl, nonempty, areDigits, rfl⟩, inside⟩
    · exact readUnsigned_of_digits nonempty areDigits inside
    · obtain ⟨first, others, rfl⟩ := List.exists_cons_of_ne_nil nonempty
      exact readDigits_of_digits areDigits inside

theorem length_digitsOf_le {n places : Nat} (positive : 0 < places) (below : n < 10 ^ places) :
    (digitsOf n).length ≤ places := by
  induction n using digitsOf.induct generalizing places with
  | case1 n small =>
    rw [digitsOf, if_pos small]
    exact positive
  | case2 n large ih =>
    obtain ⟨fewer, rfl⟩ : ∃ fewer, places = fewer + 1 := ⟨places - 1, by omega⟩
    have fewerPositive : 0 < fewer := by
      rcases Nat.eq_zero_or_pos fewer with rfl | positive
      · exact absurd below large
      · exact positive
    have shorter : n / 10 < 10 ^ fewer := by omega
    rw [digitsOf, if_neg large, List.length_append]
    exact Nat.succ_le_succ (ih fewerPositive shorter)

theorem length_paddedDigits {width n : Nat} (positive : 0 < width) (below : n < 10 ^ width) :
    (paddedDigits width n).length = width := by
  have fits := length_digitsOf_le positive below
  unfold paddedDigits
  dsimp only
  rw [List.length_append, List.length_replicate]
  omega

theorem paddedDigits_ne_nil (width n : Nat) : paddedDigits width n ≠ [] :=
  List.append_ne_nil_of_right_ne_nil _ (digitsOf_ne_nil n)

theorem isBlank_of_isDigit {c : Char} (digit : isDigit c = true) : isBlank c = false := by
  simp only [isDigit, Bool.and_eq_true, decide_eq_true_eq] at digit
  have : '0'.toNat = 48 ∧ '9'.toNat = 57 := by decide
  simp only [isBlank, Bool.or_eq_false_iff, Bool.and_eq_false_iff, decide_eq_false_iff_not,
    beq_eq_false_iff_ne]
  omega

section Digits

variable {digits : List Char} (nonempty : digits ≠ []) (areDigits : ∀ c ∈ digits, isDigit c = true)

include areDigits

theorem not_mem_of_digits {mark : Char} (noDigit : isDigit mark = false) : mark ∉ digits :=
  fun member => Bool.eq_false_iff.1 noDigit (areDigits mark member)

theorem noBlank_of_digits : ∀ c ∈ digits, isBlank c = false :=
  fun c member => isBlank_of_isDigit (areDigits c member)

theorem trimChars_of_digits : trimChars digits = digits := trimChars_of_no_blank (noBlank_of_digits areDigits)

include nonempty

theorem readUInt64?_of_digits (inside : digitsValue digits 0 ≤ maxUInt64) :
    readUInt64? digits = some (digitsValue digits 0) := by
  rw [readUInt64?, readUnsigned_of_digits nonempty areDigits inside]
  rfl

end Digits

theorem readUInt16?_numeral (n : UInt16) :
    readUInt16? (trimChars (numeral n.toNat).toList) = some n.toNat := by
  have trimmed : trimChars (digitsOf n.toNat) = digitsOf n.toNat :=
    trimChars_of_digits fun _ => isDigit_of_mem_digitsOf
  have inside : n.toNat ≤ 65535 := by have := n.toNat_lt; omega
  rw [numeral, String.toList_ofList, trimmed, readUInt16?, readUnsigned_digitsOf inside]
  rfl

end ComputeMonitor.Text
