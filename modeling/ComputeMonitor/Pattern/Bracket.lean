import ComputeMonitor.Pattern.Atom

/-!
Brackets of patterns: sets of characters with items, ranges, named classes, brackets inside, and
operations on sets.

Reading gives the depth of what was read, as patterns are accepted only to a certain depth.
-/

set_option autoImplicit false

namespace ComputeMonitor.Pattern

/-- What has been read of a sequence: the number of its parts and the depth of the deepest. -/
structure Parts where
  count : Nat := 0
  deepest : Nat := 0
  deriving DecidableEq, Repr

namespace Parts

def add (parts : Parts) (depth : Nat) : Parts := ⟨parts.count + 1, max parts.deepest depth⟩

/-- Several parts are one level deeper than the deepest. A single part stands for itself. -/
def depth (parts : Parts) : Nat := if parts.count ≤ 1 then parts.deepest else parts.deepest + 1

end Parts

def classNames : List String :=
  ["alnum", "alpha", "ascii", "blank", "cntrl", "digit", "graph", "lower", "print", "punct",
    "space", "upper", "word", "xdigit"]

/-- Read a named class behind its opening bracket, such as `:alpha:]`. Tells whether it is
negated. -/
def namedClass? (chars : List Char) : Option (Bool × List Char) :=
  let read (negated : Bool) (chars : List Char) : Option (Bool × List Char) :=
    match chars.dropWhile (· != ':') with
    | ':' :: ']' :: rest =>
      if classNames.contains (String.ofList (chars.takeWhile (· != ':'))) then some (negated, rest)
      else none
    | _ => none
  match chars with
  | ':' :: '^' :: rest => read true rest
  | ':' :: rest => read false rest
  | _ => none

def negation (flags : Flags) (chars : List Char) : Bool × List Char :=
  match flags.skip chars with
  | '^' :: rest => (true, rest)
  | rest => (false, rest)

/-- What follows a hyphen in a bracket. One number sign is passed over with the blanks. -/
def afterHyphen? (flags : Flags) (chars : List Char) : Option Char :=
  if flags.spaced then
    match chars.dropWhile Text.isBlank with
    | '#' :: rest => (rest.dropWhile Text.isBlank).head?
    | rest => rest.head?
  else chars.head?

def bracketItem? (flags : Flags) (chars : List Char) : Option (List Char) := do
  let (first, rest) ← bracketAtom? flags chars
  if !first.isAllowedInBracket flags then none
  match flags.skip rest with
  | [] => none
  | '-' :: behind =>
    let next := afterHyphen? flags behind
    if next = some ']' || next = some '-' then some ('-' :: behind)
    else do
      let (last, rest) ← bracketAtom? flags (flags.skip behind)
      match first, last with
      | .literal low _, .literal high _ =>
        if last.isAllowedInBracket flags && low.toNat ≤ high.toNat then some rest else none
      | _, _ => none
  | rest => some rest

/-- Read a bracket behind its start, up to the closing bracket: its depth and what follows. At
the start hyphens are literals, and so is a closing bracket that comes first. An operation joins
what stands before it with the operand behind it. -/
def readBracket? (flags : Flags) :
    Nat → (left : Option Nat) → (atStart : Bool) → Parts → List Char → Option (Nat × List Char)
  | 0, _, _, _, _ => none
  | fuel + 1, left, atStart, items, chars =>
    let joined := match left with
      | some depth => max depth items.depth + 1
      | none => items.depth
    match flags.skip chars with
    | [] => none
    | '[' :: rest =>
      match namedClass? rest with
      | some (negated, rest) =>
        if (if flags.unicode then flags.anyCase else negated) then none
        else readBracket? flags fuel left false (items.add 0) rest
      | none => do
        let (negated, rest) := negation flags rest
        let (depth, rest) ← readBracket? flags fuel none true {} rest
        if negated && !flags.unicode then none
        else readBracket? flags fuel left false (items.add (depth + 1)) rest
    | c :: rest =>
      if atStart && (c = '-' || c = ']' && items.count = 0) then
        if flags.unicode && flags.anyCase then none
        else readBracket? flags fuel left (c = '-') (items.add 0) rest
      else if c = ']' then some (joined, rest)
      else if (c = '&' || c = '-' || c = '~') && rest.head? = some c then
        readBracket? flags fuel (some joined) false {} (rest.drop 1)
      else do
        let rest ← bracketItem? flags (c :: rest)
        readBracket? flags fuel left false (items.add 0) rest

end ComputeMonitor.Pattern
