/-!
Blank characters and trimming.

A character is blank exactly when it has the Unicode property `White_Space`; the set is closed
and has 25 members. Trimming removes blanks at the ends of a text and nothing else.
-/

set_option autoImplicit false

namespace ComputeMonitor.Text

/-- The Unicode property `White_Space`. -/
def isBlank (c : Char) : Bool :=
  let code := c.toNat
  (9 ≤ code && code ≤ 13) || code == 32 || code == 133 || code == 160 || code == 5760 ||
    (8192 ≤ code && code ≤ 8202) || code == 8232 || code == 8233 || code == 8239 ||
    code == 8287 || code == 12288

def trimStartChars (chars : List Char) : List Char := chars.dropWhile isBlank

def dropEndWhile (test : Char → Bool) (chars : List Char) : List Char :=
  (chars.reverse.dropWhile test).reverse

def trimEndChars (chars : List Char) : List Char := dropEndWhile isBlank chars

def trimChars (chars : List Char) : List Char := trimEndChars (trimStartChars chars)

def trim (text : String) : String := String.ofList (trimChars text.toList)

def isBlankText (text : String) : Bool := text.toList.all isBlank

/-- Cut at the first occurrence of a character, which belongs to neither part. -/
def splitFirst? (mark : Char) : List Char → Option (List Char × List Char)
  | [] => none
  | c :: rest =>
    if c = mark then some ([], rest)
    else (splitFirst? mark rest).map fun (before, after) => (c :: before, after)

theorem splitFirst?_eq_some {mark : Char} {chars before after : List Char}
    (found : splitFirst? mark chars = some (before, after)) :
    chars = before ++ mark :: after ∧ mark ∉ before := by
  induction chars generalizing before with
  | nil => simp [splitFirst?] at found
  | cons c rest ih =>
    by_cases same : c = mark
    · simp [splitFirst?, same] at found
      obtain ⟨rfl, rfl⟩ := found
      simp [same]
    · simp only [splitFirst?, same, if_false, Option.map_eq_some_iff] at found
      obtain ⟨⟨first, second⟩, inner, equal⟩ := found
      simp only [Prod.mk.injEq] at equal
      obtain ⟨rfl, rfl⟩ := equal
      obtain ⟨rfl, absent⟩ := ih inner
      simp [absent, Ne.symm same]

/-- Cut at every occurrence of a character; there is one part more than there are marks. -/
def splitAll (mark : Char) : List Char → List (List Char)
  | [] => [[]]
  | c :: rest =>
    if c = mark then [] :: splitAll mark rest
    else match splitAll mark rest with
      | [] => [[c]]
      | part :: parts => (c :: part) :: parts

def dropLeading? : List Char → List Char → Option (List Char)
  | [], chars => some chars
  | _ :: _, [] => none
  | p :: pattern, c :: chars => if p = c then dropLeading? pattern chars else none

theorem dropLeading?_eq_some {leading chars rest : List Char}
    (found : dropLeading? leading chars = some rest) : chars = leading ++ rest := by
  induction leading generalizing chars with
  | nil => simpa [dropLeading?] using found
  | cons p pattern ih =>
    cases chars with
    | nil => simp [dropLeading?] at found
    | cons c chars =>
      by_cases same : p = c
      · simp [dropLeading?, same] at found
        simp [same, ih found]
      · simp [dropLeading?, same] at found

def dropTrailing? (closing chars : List Char) : Option (List Char) :=
  (dropLeading? closing.reverse chars.reverse).map List.reverse

def splitAtText? (mark : List Char) : List Char → Option (List Char × List Char)
  | [] => if mark.isEmpty then some ([], []) else none
  | c :: rest =>
    match dropLeading? mark (c :: rest) with
    | some after => some ([], after)
    | none => (splitAtText? mark rest).map fun (before, after) => (c :: before, after)

end ComputeMonitor.Text
