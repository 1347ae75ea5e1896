import ComputeMonitor.Toml.Scalar
import ComputeMonitor.Toml.Settling

/-!
Reading TOML documents, in the grammar of version 1.1.
-/

set_option autoImplicit false

namespace ComputeMonitor.Toml

open ComputeMonitor.Text

def skipSpace (chars : List Char) : List Char := chars.dropWhile isSpace

def dropComment? : List Char → Option (List Char)
  | '#' :: rest =>
    let comment := rest.takeWhile fun c => !isControl c
    some (rest.drop comment.length)
  | chars => some chars

/-- What may stand between the parts of an array: blanks, comments and line ends. -/
def skipFiller : Nat → List Char → List Char
  | 0, chars => chars
  | fuel + 1, chars =>
    match skipSpace chars with
    | '#' :: rest =>
      let behind := rest.drop (rest.takeWhile fun c => !isControl c).length
      match dropLineEnd? behind with
      | some rest => skipFiller fuel rest
      | none => behind
    | chars =>
      match dropLineEnd? chars with
      | some rest => skipFiller fuel rest
      | none => chars

def filler (chars : List Char) : List Char := skipFiller (chars.length + 1) chars

/-! ## Keys -/

def isBareChar (c : Char) : Bool := isDigit c || isAsciiLetter c || c = '_' || c = '-'

def name? (chars : List Char) : Reading String :=
  match lineString? chars with
  | some found => some found
  | none =>
    let bare := chars.takeWhile isBareChar
    if bare.isEmpty then none else some (String.ofList bare, chars.drop bare.length)

/-- The largest number of names in a key, and of levels of arrays and inline tables. -/
def maxLevels : Nat := 80

/-- At most as many names as there is room for, with points between them and blanks around
these. -/
def names? : Nat → List Char → Reading (List String)
  | 0, _ => none
  | room + 1, chars =>
    match name? (skipSpace chars) with
    | none => none
    | some (name, rest) =>
      match skipSpace rest with
      | '.' :: rest => (names? room rest).map fun (names, rest) => (name :: names, rest)
      | rest => some ([name], rest)

def key? (chars : List Char) : Reading (List String) := names? maxLevels chars

/-! ## Values -/

mutual

/-- A value, with room for a number of levels of arrays and inline tables. -/
def value? : Nat → (room : Nat) → List Char → Reading Value
  | 0, _, _ => none
  | fuel + 1, room, chars =>
    match chars with
    | '[' :: rest =>
      match room with
      | 0 => none
      | room + 1 =>
        (elements? fuel room (filler rest)).map fun (elements, rest) => (.array elements, rest)
    | '\x7b' :: rest =>
      match room with
      | 0 => none
      | room + 1 =>
        match pairs? fuel room (filler rest) with
        | some (pairs, rest) => (inlineTable? pairs).map fun table => (table, rest)
        | none => none
    | '"' :: _ => (string? chars).map fun (text, rest) => (.string text, rest)
    | '\'' :: _ => (string? chars).map fun (text, rest) => (.string text, rest)
    | _ => atom? chars

def elements? : Nat → (room : Nat) → List Char → Reading (List Value)
  | 0, _, _ => none
  | fuel + 1, room, chars =>
    match chars with
    | ']' :: rest => some ([], rest)
    | _ =>
      match value? fuel room chars with
      | none => none
      | some (value, rest) =>
        match filler rest with
        | ',' :: rest =>
          (elements? fuel room (filler rest)).map fun (values, rest) => (value :: values, rest)
        | ']' :: rest => some ([value], rest)
        | _ => none

def pairs? : Nat → (room : Nat) → List Char → Reading (List (List String × Value))
  | 0, _, _ => none
  | fuel + 1, room, chars =>
    match chars with
    | '\x7d' :: rest => some ([], rest)
    | _ =>
      match pair? fuel room chars with
      | none => none
      | some (pair, rest) =>
        match filler rest with
        | ',' :: rest =>
          (pairs? fuel room (filler rest)).map fun (pairs, rest) => (pair :: pairs, rest)
        | '\x7d' :: rest => some ([pair], rest)
        | _ => none

def pair? : Nat → (room : Nat) → List Char → Reading (List String × Value)
  | 0, _, _ => none
  | fuel + 1, room, chars =>
    match key? chars with
    | some (key, rest) =>
      match filler rest with
      | '=' :: rest =>
        (value? fuel room (filler rest)).map fun (value, rest) => ((key, value), rest)
      | _ => none
    | none => none

end

/-! ## Lines -/

def heading? (chars : List Char) : Reading (List String) :=
  match key? chars with
  | some (key, ']' :: rest) => some (key, rest)
  | _ => none

def elementHeading? (chars : List Char) : Reading (List String) :=
  match key? chars with
  | some (key, ']' :: ']' :: rest) => some (key, rest)
  | _ => none

def assignment? (chars : List Char) : Reading (List String × Value) :=
  match key? chars with
  | some (key, '=' :: rest) =>
    (value? (2 * chars.length + 1) maxLevels (skipSpace rest)).map
      fun (value, rest) => ((key, value), rest)
  | _ => none

def statement? (chars : List Char) : Reading (Option Statement) :=
  match chars with
  | [] => some (none, [])
  | '#' :: _ => some (none, chars)
  | '\n' :: _ => some (none, chars)
  | '\r' :: _ => some (none, chars)
  | '[' :: '[' :: rest =>
    (elementHeading? rest).map fun (key, rest) => (some (.openElement key), rest)
  | '[' :: rest => (heading? rest).map fun (key, rest) => (some (.openTable key), rest)
  | _ => (assignment? chars).map fun ((key, value), rest) => (some (.assign key value), rest)

/-- The end of a line: blanks, perhaps a comment, and then a line end or the end of the text. -/
def dropLine? (chars : List Char) : Option (List Char) :=
  match dropComment? (skipSpace chars) with
  | some [] => some []
  | some rest => dropLineEnd? rest
  | none => none

def statements? : Nat → List Char → Option (List Statement)
  | 0, _ => none
  | _ + 1, [] => some []
  | fuel + 1, chars =>
    match statement? (skipSpace chars) with
    | none => none
    | some (statement, rest) =>
      match dropLine? rest with
      | none => none
      | some rest => (statements? fuel rest).map (statement.toList ++ ·)

/-- A mark of the byte order at the beginning of a text does not belong to it. -/
def withoutMark : List Char → List Char
  | '\ufeff' :: rest => rest
  | chars => chars

def read? (text : String) : Option Entries := do
  let chars := withoutMark text.toList
  let statements ← statements? (chars.length + 1) chars
  settledEntries? (← build? statements)

end ComputeMonitor.Toml
