import ComputeMonitor.Pattern.Bracket
import ComputeMonitor.Text.Numeric

/-!
Which texts are patterns: alternatives of sequences of atoms, brackets and groups, each with an
optional mark of repetition.

A pattern has at most 250 levels. Flags set inside a group hold to its end, over alternatives
too. The names of groups differ. Counted repetition is not read: a text in braces holds no brace.
-/

set_option autoImplicit false

namespace ComputeMonitor.Pattern

open ComputeMonitor.Text

def maxDepth : Nat := 250

/-- What stands in an opening parenthesis: flags for what follows, or a group with the flags that
hold inside and the names of the groups so far. -/
inductive Opening where
  | flags (flags : Flags)
  | group (flags : Flags) (names : List (List Char))
  deriving Repr

def isGroupName : List Char → Bool
  | [] => false
  | c :: rest =>
    (c = '_' || isLetter c) &&
      rest.all fun c => c = '_' || c = '.' || c = '[' || c = ']' || isAlphanumeric c

def namedGroup? (flags : Flags) (names : List (List Char)) (chars : List Char) :
    Option (Opening × List Char) :=
  match splitFirst? '>' chars with
  | some (name, rest) =>
    if isGroupName name && !names.contains name then some (.group flags (name :: names), rest)
    else none
  | none => none

def opening? (flags : Flags) (names : List (List Char)) (chars : List Char) :
    Option (Opening × List Char) :=
  match flags.skip chars with
  | '?' :: 'P' :: '<' :: rest => namedGroup? flags names rest
  | '?' :: '<' :: rest => namedGroup? flags names rest
  | '?' :: rest =>
    match flags.read? [] rest with
    | some (_, [], ')' :: _) => none
    | some (changed, _, ')' :: rest) => some (.flags changed, rest)
    | some (changed, _, ':' :: rest) => some (.group changed names, rest)
    | _ => none
  | rest => some (.group flags names, rest)

/-- Read alternatives up to the end or a closing parenthesis, which is left: their depth, the
names of groups, and the rest. The last part can be repeated if its depth is given. -/
def readAlternatives? : Nat → Flags → List (List Char) → (alternatives parts : Parts) →
    (last : Option Nat) → List Char → Option (Nat × List (List Char) × List Char)
  | 0, _, _, _, _, _, _ => none
  | fuel + 1, flags, names, alternatives, parts, last, chars =>
    let completed := alternatives.add parts.depth
    let part := fun depth => readAlternatives? fuel flags names alternatives (parts.add depth)
      (some depth)
    match flags.skip chars with
    | [] => some (completed.depth, names, [])
    | ')' :: rest => some (completed.depth, names, ')' :: rest)
    | '|' :: rest => readAlternatives? fuel flags names completed {} none rest
    | '\x7b' :: _ => none
    | '[' :: rest => do
      let (negated, rest) := negation flags rest
      let (depth, rest) ← readBracket? flags fuel none true {} rest
      if negated && !flags.unicode then none else part (depth + 1) rest
    | '(' :: rest =>
      match opening? flags names rest with
      | some (.flags changed, rest) =>
        readAlternatives? fuel changed names alternatives (parts.add 0) none rest
      | some (.group inner names, rest) =>
        match readAlternatives? fuel inner names {} {} none rest with
        | some (depth, names, ')' :: rest) =>
          readAlternatives? fuel flags names alternatives (parts.add (depth + 1))
            (some (depth + 1)) rest
        | _ => none
      | none => none
    | c :: rest =>
      if c = '?' || c = '*' || c = '+' then
        match last with
        | some depth =>
          let repeated := { parts with deepest := max parts.deepest (depth + 1) }
          let rest := if rest.head? = some '?' then rest.drop 1 else rest
          readAlternatives? fuel flags names alternatives repeated (some (depth + 1)) rest
        | none => none
      else
        match atom? flags (c :: rest) with
        | some (atom, rest) => if atom.isAllowed flags then part 0 rest else none
        | none => none

end Pattern

def isPattern (chars : List Char) : Bool :=
  match Pattern.readAlternatives? (chars.length + 1) {} [] {} {} none chars with
  | some (depth, _, []) => depth ≤ Pattern.maxDepth
  | _ => false

end ComputeMonitor
