import ComputeMonitor.Text.CombiningClass
import ComputeMonitor.Text.Decomposition

/-!
The composed normal form of a text: every character is taken apart, marks are put into the order
of their classes, and what can be is put together again.
-/

set_option autoImplicit false

namespace ComputeMonitor.Text

/-- Put a code point behind others, which are given backwards. A mark goes before the marks of a
higher class. -/
def placeMark (code : Nat) : List Nat → List Nat
  | [] => [code]
  | last :: rest =>
    if 0 < combiningClass code && combiningClass code < combiningClass last then
      last :: placeMark code rest
    else code :: last :: rest

def decomposed (codes : List Nat) : List Nat :=
  ((codes.flatMap (decompose pairDepth)).foldl (fun placed code => placeMark code placed) []).reverse

/-- Put together what follows the start of a character. The marks kept so far are given backwards;
they keep a mark of no higher class from the start. -/
def composeFrom (start : Nat) (kept : List Nat) : List Nat → List Nat
  | [] => start :: kept.reverse
  | code :: rest =>
    let isBlocked := kept.head?.any fun last => combiningClass code ≤ combiningClass last
    match if isBlocked then none else compose? start code with
    | some composed => composeFrom composed kept rest
    | none =>
      if combiningClass code = 0 then start :: kept.reverse ++ composeFrom code [] rest
      else composeFrom start (code :: kept) rest

/-- Put together a text of parts. Marks in front of the first character stay. -/
def composed : List Nat → List Nat
  | [] => []
  | code :: rest =>
    if combiningClass code = 0 then composeFrom code [] rest else code :: composed rest

def composedForm (codes : List Nat) : List Nat := composed (decomposed codes)

end ComputeMonitor.Text
