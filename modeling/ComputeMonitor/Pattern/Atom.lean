import ComputeMonitor.Pattern.Flags
import ComputeMonitor.Text.Letter
import ComputeMonitor.Text.Numeral

/-!
The atoms of patterns: what a character or an escape stands for, and under which flags it is
accepted.

A pattern matches text in UTF-8, and nothing is known of the classes of characters beyond ASCII
or of their cases. So the short names of classes and the bounds of words are accepted by bytes
only, letters in any case by bytes only, and by bytes nothing that could match half a character.
-/

set_option autoImplicit false

namespace ComputeMonitor.Pattern

open ComputeMonitor.Text

/-- What a character or an escape stands for. A literal is a byte when it was written as `\x`
with two digits. -/
inductive Atom where
  | literal (c : Char) (isByte : Bool)
  | anyCharacter
  | shorthand (negated : Bool)
  | anchor
  | wordBoundary
  deriving DecidableEq, Repr

namespace Atom

def isAllowed (flags : Flags) : Atom → Bool
  | literal c isByte => if flags.unicode then !flags.anyCase else !(isByte && 128 ≤ c.toNat)
  | anyCharacter => flags.unicode
  | shorthand negated => !flags.unicode && !negated
  | anchor => true
  | wordBoundary => !flags.unicode

def isAllowedInBracket (flags : Flags) : Atom → Bool
  | literal c _ => if flags.unicode then !flags.anyCase else c.toNat < 128
  | shorthand negated => !flags.unicode && !negated
  | _ => false

end Atom

def hexWidth? (letter : Char) : Option Nat :=
  match letter with
  | 'x' => some 2
  | 'u' => some 4
  | 'U' => some 8
  | _ => none

def hexDigits? (flags : Flags) : Nat → Nat → List Char → Option (Nat × List Char)
  | 0, value, chars => some (value, flags.skip chars)
  | count + 1, value, chars =>
    match flags.skip chars with
    | [] => none
    | c :: rest => do
      let digit ← hexValue? c
      hexDigits? flags count (value * 16 + digit) rest

def controlOf? (letter : Char) : Option Char :=
  match letter with
  | 'a' => some '\x07'
  | 'f' => some '\x0c'
  | 't' => some '\t'
  | 'n' => some '\n'
  | 'r' => some '\r'
  | 'v' => some '\x0b'
  | _ => none

def escape? (flags : Flags) : List Char → Option (Atom × List Char)
  | [] => none
  | c :: rest =>
    match hexWidth? c with
    | some width => do
      let (code, rest) ← hexDigits? flags width 0 rest
      if code.isValidChar then some (.literal (Char.ofNat code) (c = 'x'), rest) else none
    | none =>
      if ['d', 's', 'w'].contains c then some (.shorthand false, rest)
      else if ['D', 'S', 'W'].contains c then some (.shorthand true, rest)
      else if ['A', 'z'].contains c then some (.anchor, rest)
      else if ['b', 'B', '<', '>'].contains c then some (.wordBoundary, rest)
      else if let some control := controlOf? c then some (.literal control false, rest)
      else if c.toNat < 128 && !isAsciiLetter c && !isDigit c then some (.literal c false, rest)
      else none

def bracketAtom? (flags : Flags) : List Char → Option (Atom × List Char)
  | [] => none
  | '\\' :: rest => escape? flags rest
  | c :: rest => some (.literal c false, rest)

def atom? (flags : Flags) : List Char → Option (Atom × List Char)
  | [] => none
  | '\\' :: rest => escape? flags rest
  | '.' :: rest => some (.anyCharacter, rest)
  | '^' :: rest => some (.anchor, rest)
  | '$' :: rest => some (.anchor, rest)
  | c :: rest => some (.literal c false, rest)

end ComputeMonitor.Pattern
