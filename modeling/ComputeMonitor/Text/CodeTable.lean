import ComputeMonitor.Text.Blank
import ComputeMonitor.Text.Numeral

/-!
Tables of code points.

A table is written as text: entries with blanks or line ends between them, and in each entry
hexadecimal numbers with commas between them.
-/

set_option autoImplicit false

namespace ComputeMonitor.Text

def hexNumber (digits : List Char) : Nat :=
  digits.foldl (fun total digit => total * 16 + (hexValue? digit).getD 0) 0

def readTable (text : String) : List (List Nat) :=
  let lines := (splitAll '\n' text.toList).flatMap (splitAll ' ')
  (lines.filter (!·.isEmpty)).map fun entry => (splitAll ',' entry).map hexNumber

/-- A table of ranges with both ends included; the end is left out where it is the start. -/
def readRanges (text : String) : List (Nat × Nat) :=
  (readTable text).filterMap fun
    | [only] => some (only, only)
    | first :: last :: _ => some (first, last)
    | [] => none

def inRanges (ranges : List (Nat × Nat)) (code : Nat) : Bool :=
  ranges.any fun (first, last) => first ≤ code && code ≤ last

end ComputeMonitor.Text
