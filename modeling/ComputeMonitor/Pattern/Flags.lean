import ComputeMonitor.Text.Blank

/-!
The flags of a pattern, which decide how the part of the pattern behind them is read.

Three of them matter for whether a pattern is accepted. The others (`m`, `s`, `U`, `R`) change
only what it matches.
-/

set_option autoImplicit false

namespace ComputeMonitor.Pattern

open ComputeMonitor.Text (isBlank)

/-- How a part of a pattern is read: by characters or by bytes, in any case of letters, and with
or without blanks and comments that mean nothing. -/
structure Flags where
  unicode : Bool := true
  anyCase : Bool := false
  spaced : Bool := false
  deriving DecidableEq, Repr

def flagLetters : List Char := ['i', 'm', 's', 'U', 'u', 'R', 'x']

namespace Flags

def set (flags : Flags) (letter : Char) (value : Bool) : Flags :=
  match letter with
  | 'i' => { flags with anyCase := value }
  | 'u' => { flags with unicode := value }
  | 'x' => { flags with spaced := value }
  | _ => flags

/-- Read flags up to the mark behind them, which is left. No letter and no minus stands twice,
and a letter follows the minus. The letters read are the last first. -/
def read? (flags : Flags) (seen : List Char) : List Char → Option (Flags × List Char × List Char)
  | [] => none
  | c :: rest =>
    if c = ':' || c = ')' then
      if seen.head? = some '-' then none else some (flags, seen, c :: rest)
    else if seen.contains c then none
    else if c = '-' || flagLetters.contains c then
      (flags.set c (!seen.contains '-')).read? (c :: seen) rest
    else none

end Flags

def skipBlanks (inComment : Bool) : List Char → List Char
  | [] => []
  | c :: rest =>
    if inComment then skipBlanks (c != '\n') rest
    else if isBlank c then skipBlanks false rest
    else if c = '#' then skipBlanks true rest
    else c :: rest

def Flags.skip (flags : Flags) (chars : List Char) : List Char :=
  if flags.spaced then skipBlanks false chars else chars

end ComputeMonitor.Pattern
