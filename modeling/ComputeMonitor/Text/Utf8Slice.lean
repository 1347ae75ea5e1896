/-!
Parts of texts between places counted in bytes of UTF-8. A place inside a character has no part.
-/

set_option autoImplicit false

namespace ComputeMonitor.Text

def dropBytes? : Nat → List Char → Option (List Char)
  | 0, chars => some chars
  | _ + 1, [] => none
  | count + 1, c :: rest =>
    if c.utf8Size ≤ count + 1 then dropBytes? (count + 1 - c.utf8Size) rest else none

def takeBytes? : Nat → List Char → Option (List Char)
  | 0, _ => some []
  | _ + 1, [] => none
  | count + 1, c :: rest =>
    if c.utf8Size ≤ count + 1 then (takeBytes? (count + 1 - c.utf8Size) rest).map (c :: ·)
    else none

def slice? (start stop : Nat) (chars : List Char) : Option (List Char) := do
  let rest ← dropBytes? start chars
  takeBytes? (stop - start) rest

end ComputeMonitor.Text
