import ComputeMonitor.Config.Loading
import ComputeMonitor.Proofs.Text.Blank

/-!
The address of the gateway in a configuration, and in the client that is made from it.

Both bring the address into normal form: blanks around it are left out first, and then the slashes at its end.
Once is not always enough, since a blank before these slashes comes to stand at the end. The client then reaches
another address than the one that the configuration tells of, or finds none where the configuration found one.
-/

set_option autoImplicit false

namespace ComputeMonitor

namespace Text

variable {test : Char → Bool} {chars ending : List Char}

theorem dropEndWhile_append_of_all (all : ∀ c ∈ ending, test c = true) (chars : List Char) :
    dropEndWhile test (chars ++ ending) = dropEndWhile test chars := by
  have allTurned : ∀ c ∈ ending.reverse, test c = true := fun c member => all c (List.mem_reverse.1 member)
  rw [dropEndWhile, List.reverse_append, List.dropWhile_append_of_pos allTurned, dropEndWhile]

theorem dropEndWhile_append_of_last {last : Char} (not : test last = false) (chars : List Char) :
    dropEndWhile test (chars ++ [last]) = chars ++ [last] :=
  List.rdropWhile_concat_neg test chars last (Bool.eq_false_iff.1 not)

theorem exists_dropEndWhile (test : Char → Bool) (chars : List Char) :
    ∃ ending, chars = dropEndWhile test chars ++ ending ∧ ∀ c ∈ ending, test c = true :=
  ⟨_, List.rdropWhile_append_rtakeWhile.symm, fun _ => List.mem_rtakeWhile_imp⟩

theorem not_of_dropEndWhile_eq_append {front : List Char} {last : Char}
    (ends : dropEndWhile test chars = front ++ [last]) : test last = false := by
  have kept : dropEndWhile test chars ≠ [] := ends ▸ List.append_ne_nil_of_right_ne_nil _ (List.cons_ne_nil _ _)
  have isLast : (dropEndWhile test chars).getLast kept = last := by
    rw [List.getLast_congr kept _ ends, List.getLast_append_singleton]
    exact List.append_ne_nil_of_right_ne_nil _ (List.cons_ne_nil _ _)
  exact Bool.eq_false_iff.2 (isLast ▸ List.rdropWhile_last_not test chars kept)

theorem length_dropEndWhile_le (test : Char → Bool) (chars : List Char) :
    (dropEndWhile test chars).length ≤ chars.length := (List.rdropWhile_prefix test chars).length_le

end Text

namespace Gateway

open Text

def isSlash (c : Char) : Bool := c == '/'

def normalizedChars (chars : List Char) : List Char := dropEndWhile isSlash (trimChars chars)

theorem toList_normalizedBase (address : String) : (normalizedBase address).toList = normalizedChars address.toList :=
  String.toList_ofList

theorem eq_replicate_of_isSlash {chars : List Char} (all : ∀ c ∈ chars, isSlash c = true) :
    chars = List.replicate chars.length '/' :=
  List.eq_replicate_iff.2 ⟨rfl, fun c member => beq_iff_eq.1 (all c member)⟩

theorem isSlash_of_mem_replicate {count : Nat} : ∀ c ∈ List.replicate count '/', isSlash c = true :=
  fun _ member => beq_iff_eq.2 (List.eq_of_mem_replicate member)

section NormalForm

variable {chars : List Char}

theorem trimStartChars_normalizedChars (chars : List Char) :
    trimStartChars (normalizedChars chars) = normalizedChars chars := by
  have trimmed : trimStartChars (trimChars chars) = trimChars chars := trimStartChars_dropEndWhile isBlank chars
  rw [normalizedChars, ← trimmed]
  exact trimStartChars_dropEndWhile isSlash (trimChars chars)

/-- A second time, only what stands at the end can change. -/
theorem normalizedChars_normalizedChars (chars : List Char) :
    normalizedChars (normalizedChars chars) = dropEndWhile isSlash (trimEndChars (normalizedChars chars)) := by
  rw [normalizedChars, trimChars, trimStartChars_normalizedChars]

theorem isSlash_of_isBlank {c : Char} (blank : isBlank c = true) : isSlash c = false := by
  refine Bool.eq_false_iff.2 fun slash => ?_
  rw [beq_iff_eq.1 slash] at blank
  exact absurd blank (by decide)

/-- A blank stands before the slashes at the end of an address, the blanks around it left aside. -/
def HidesBlank (chars : List Char) : Prop :=
  ∃ front last count, isBlank last = true ∧ trimChars chars = front ++ last :: List.replicate (count + 1) '/'

theorem exists_slashes {front : List Char} {last : Char} (blank : isBlank last = true)
    (ends : normalizedChars chars = front ++ [last]) :
    ∃ count, trimChars chars = normalizedChars chars ++ List.replicate (count + 1) '/' := by
  obtain ⟨slashes, whole, all⟩ := exists_dropEndWhile isSlash (trimChars chars)
  rw [← normalizedChars, eq_replicate_of_isSlash all] at whole
  cases count : slashes.length with
  | zero =>
    -- Without slashes the blank would stand at the end of what was trimmed.
    rw [count, List.replicate_zero, List.append_nil, ends] at whole
    rw [not_of_dropEndWhile_eq_append whole] at blank
    cases blank
  | succ fewer => exact ⟨fewer, count ▸ whole⟩

theorem hidesBlank_iff : HidesBlank chars ↔
    ∃ front last, isBlank last = true ∧ normalizedChars chars = front ++ [last] := by
  constructor
  · rintro ⟨front, last, count, blank, trimmed⟩
    refine ⟨front, last, blank, ?_⟩
    rw [normalizedChars, trimmed, List.append_cons, dropEndWhile_append_of_all isSlash_of_mem_replicate,
      dropEndWhile_append_of_last (isSlash_of_isBlank blank)]
  · rintro ⟨front, last, blank, ends⟩
    obtain ⟨count, trimmed⟩ := exists_slashes blank ends
    exact ⟨front, last, count, blank, by rw [trimmed, ends, List.append_assoc]; rfl⟩

theorem normalizedChars_twice_iff :
    normalizedChars (normalizedChars chars) = normalizedChars chars ↔ ¬ HidesBlank chars := by
  rw [normalizedChars_normalizedChars, hidesBlank_iff]
  constructor
  · rintro same ⟨front, last, blank, ends⟩
    -- The blank is trimmed away, and nothing comes in its place.
    have trimmed : trimEndChars (front ++ [last]) = trimEndChars front :=
      dropEndWhile_append_of_all (fun c member => List.mem_singleton.1 member ▸ blank) front
    have shorter := Nat.le_trans (length_dropEndWhile_le isSlash (trimEndChars front))
      (length_dropEndWhile_le isBlank front)
    rw [ends, trimmed] at same
    rw [same, List.length_append, List.length_singleton] at shorter
    omega
  · intro noBlank
    have kept : trimEndChars (normalizedChars chars) = normalizedChars chars := by
      rcases List.eq_nil_or_concat' (normalizedChars chars) with empty | ⟨front, last, ends⟩
      · rw [empty]
        rfl
      · rw [ends]
        exact dropEndWhile_append_of_last
          (Bool.eq_false_iff.2 fun blank => noBlank ⟨front, last, blank, ends⟩) front
    rw [kept]
    exact List.rdropWhile_idempotent isSlash _

/-- Blanks alone stand between slashes, with slashes at both ends. -/
def IsHollow (chars : List Char) : Prop :=
  ∃ before blanks after, blanks ≠ [] ∧ (∀ c ∈ blanks, isBlank c = true) ∧
    trimChars chars = List.replicate (before + 1) '/' ++ blanks ++ List.replicate (after + 1) '/'

/-- An address of which something is left the first time and nothing the second time. -/
theorem isHollow_iff : IsHollow chars ↔
    normalizedChars chars ≠ [] ∧ normalizedChars (normalizedChars chars) = [] := by
  rw [normalizedChars_normalizedChars]
  constructor
  · rintro ⟨before, blanks, after, nonempty, all, trimmed⟩
    obtain ⟨front, last, rfl⟩ := (List.eq_nil_or_concat' blanks).resolve_left nonempty
    have blank : isBlank last = true := all last (List.mem_append_right _ List.mem_cons_self)
    -- From the end on: slashes go first, then the blanks before them, then the slashes in front of these.
    have once : normalizedChars chars = List.replicate (before + 1) '/' ++ (front ++ [last]) := by
      rw [normalizedChars, trimmed, dropEndWhile_append_of_all isSlash_of_mem_replicate, ← List.append_assoc,
        dropEndWhile_append_of_last (isSlash_of_isBlank blank)]
    have noBlank : trimEndChars (List.replicate (before + 1) '/') = List.replicate (before + 1) '/' := by
      rw [List.replicate_succ']
      exact dropEndWhile_append_of_last (by decide) _
    refine ⟨?_, ?_⟩
    · rw [once, List.replicate_succ]
      exact List.cons_ne_nil _ _
    · rw [once, trimEndChars, dropEndWhile_append_of_all all, ← trimEndChars, noBlank]
      exact List.rdropWhile_eq_nil_iff.2 isSlash_of_mem_replicate
  · rintro ⟨nonempty, empty⟩
    -- Slashes alone go the second time, and blanks behind them go before; what these are behind is slashes
    -- too.
    have slashes := eq_replicate_of_isSlash (List.rdropWhile_eq_nil_iff.1 empty)
    obtain ⟨blanks, base, blank⟩ := exists_dropEndWhile isBlank (normalizedChars chars)
    rw [← trimEndChars, slashes] at base
    generalize (trimEndChars (normalizedChars chars)).length = count at base
    have startsSlash : count ≠ 0 := by
      rintro rfl
      refine nonempty ?_
      rw [← trimStartChars_normalizedChars, base]
      exact List.dropWhile_eq_nil_iff.2 blank
    obtain ⟨before, rfl⟩ := Nat.exists_eq_succ_of_ne_zero startsSlash
    rcases List.eq_nil_or_concat' blanks with rfl | ⟨front, last, rfl⟩
    · -- The slashes were dropped already.
      rw [List.append_nil, List.replicate_succ'] at base
      exact absurd (not_of_dropEndWhile_eq_append base) (by decide)
    · have isLast : isBlank last = true := blank last (List.mem_append_right _ List.mem_cons_self)
      obtain ⟨after, trimmed⟩ := exists_slashes isLast (base.trans (List.append_assoc ..).symm)
      exact ⟨before, front ++ [last], after, List.append_ne_nil_of_right_ne_nil _ (List.cons_ne_nil _ _), blank,
        base ▸ trimmed⟩

end NormalForm

section Addresses

variable {address : String} {timeout : Nat}

theorem normalizedBase_eq_empty_iff : normalizedBase address = "" ↔ normalizedChars address.toList = [] := by
  rw [← toList_normalizedBase, String.toList_eq_nil_iff]

theorem normalizedBase_twice_iff :
    normalizedBase (normalizedBase address) = normalizedBase address ↔ ¬ HidesBlank address.toList := by
  rw [← String.toList_inj, toList_normalizedBase, toList_normalizedBase, normalizedChars_twice_iff]

theorem ofAddress_base {endpoint : Endpoint} (made : Endpoint.ofAddress address timeout = .ok endpoint) :
    endpoint.base = normalizedBase address := by
  unfold Endpoint.ofAddress at made
  dsimp only at made
  split at made
  next => cases made
  next =>
    split at made
    next => cases made
    next => cases made
    next =>
      cases made
      rfl

theorem ofAddress_eq_empty_iff :
    Endpoint.ofAddress address timeout = .error .empty ↔ normalizedBase address = "" := by
  unfold Endpoint.ofAddress
  dsimp only
  split
  next isEmpty => exact ⟨fun _ => String.isEmpty_iff.1 isEmpty, fun _ => rfl⟩
  next notEmpty =>
    refine ⟨fun failed => ?_, fun empty => absurd (String.isEmpty_iff.2 empty) notEmpty⟩
    split at failed <;> cases failed

end Addresses
end Gateway

namespace Configuration

open Gateway
open Text

variable {configuration : Configuration}

def writtenAddress (configuration : Configuration) : String := configuration.address.getD defaultAddress

/-- The client keeps the address of the configuration it is made from, and is never told that there is none where
the configuration found one. -/
def Agrees (configuration : Configuration) : Prop :=
  normalizedBase configuration.base = configuration.base ∧
    (∀ timeout endpoint, Endpoint.ofAddress configuration.base timeout = .ok endpoint →
      endpoint.base = configuration.base) ∧
    (configuration.base ≠ "" → ∀ timeout, Endpoint.ofAddress configuration.base timeout ≠ .error .empty)

/-- The configuration and its client agree on the address of the gateway unless a blank stands before the slashes
at its end. Then no client keeps the address, and where slashes and blanks are all there is, none is made. -/
theorem agrees_iff (configuration : Configuration) :
    (configuration.Agrees ↔ ¬ HidesBlank configuration.writtenAddress.toList) ∧
      (HidesBlank configuration.writtenAddress.toList → ∀ timeout endpoint,
        Endpoint.ofAddress configuration.base timeout = .ok endpoint → endpoint.base ≠ configuration.base) ∧
      (IsHollow configuration.writtenAddress.toList ↔ configuration.base ≠ "" ∧
        ∀ timeout, Endpoint.ofAddress configuration.base timeout = .error .empty) := by
  have twice : normalizedBase configuration.base = configuration.base ↔
      ¬ HidesBlank configuration.writtenAddress.toList := normalizedBase_twice_iff
  refine ⟨⟨fun agrees => twice.1 agrees.1, fun noBlank => ⟨twice.2 noBlank, ?_, ?_⟩⟩, ?_, ?_⟩
  · exact fun timeout endpoint made => (ofAddress_base made).trans (twice.2 noBlank)
  · exact fun nonempty timeout failed => nonempty ((twice.2 noBlank).symm.trans (ofAddress_eq_empty_iff.1 failed))
  · exact fun hidesBlank timeout endpoint made same =>
      twice.1 ((ofAddress_base made).symm.trans same) hidesBlank
  · rw [isHollow_iff]
    have chars : configuration.base.toList = normalizedChars configuration.writtenAddress.toList :=
      toList_normalizedBase _
    have once : configuration.base = "" ↔ normalizedChars configuration.writtenAddress.toList = [] :=
      normalizedBase_eq_empty_iff
    have again : normalizedBase configuration.base = "" ↔
        normalizedChars (normalizedChars configuration.writtenAddress.toList) = [] := by
      rw [normalizedBase_eq_empty_iff, chars]
    simp only [ne_eq, once, ofAddress_eq_empty_iff, again, forall_const]

section Hollow

def hollow : Configuration := { address := some "/ /" }

theorem hollow_agrees_iff :
    HidesBlank hollow.writtenAddress.toList ∧ IsHollow hollow.writtenAddress.toList ∧ hollow.validate = .ok () ∧
      hollow.base = "/ " ∧ Endpoint.ofAddress hollow.base 2000 = .error .empty ∧ ¬ hollow.Agrees := by
  have blank : isBlank ' ' = true := by decide
  have trimmed : trimChars hollow.writtenAddress.toList = ['/', ' ', '/'] := by decide
  have hidesBlank : HidesBlank hollow.writtenAddress.toList := ⟨['/'], ' ', 0, blank, trimmed⟩
  have isHollow : IsHollow hollow.writtenAddress.toList :=
    ⟨0, [' '], 0, List.cons_ne_nil _ _, List.forall_mem_singleton.2 blank, trimmed⟩
  have ⟨agreesIff, _, hollowIff⟩ := agrees_iff hollow
  exact ⟨hidesBlank, isHollow, by decide +kernel, by decide, (hollowIff.1 isHollow).2 2000,
    fun agrees => agreesIff.1 agrees hidesBlank⟩

/-- The configuration finds an address, and the client made from it finds none. -/
theorem hollow_not_kept : ¬ ∀ configuration : Configuration, configuration.Agrees := by
  intro agrees
  obtain ⟨-, -, neverEmpty⟩ := agrees hollow
  have failed : Endpoint.ofAddress hollow.base 2000 = .error .empty := by decide
  exact neverEmpty (by decide) 2000 failed

end Hollow

end Configuration
end ComputeMonitor
