import ComputeMonitor.Text.Letter
import ComputeMonitor.Text.Numeral
import ComputeMonitor.Toml.Value

/-!
Strings, numbers and truth values of TOML, and the values without delimiters.

A reader takes the characters from its beginning on and gives back the ones behind what it has
read.
-/

set_option autoImplicit false

namespace ComputeMonitor.Toml

open ComputeMonitor.Text

def dropLineEnd? : List Char → Option (List Char)
  | '\n' :: rest => some rest
  | '\r' :: '\n' :: rest => some rest
  | _ => none

/-- Controls may not stand in comments and strings; the tab is none. -/
def isControl (c : Char) : Bool := (c.toNat < 32 && c ≠ '\t') || c.toNat = 127

/-! ## Strings -/

def codePoint? (digits : List Char) : Option Char := do
  let code := (← digits.mapM hexValue?).foldl (fun total digit => total * 16 + digit) 0
  if code.isValidChar then some (Char.ofNat code) else none

def codeEscape? (count : Nat) (chars : List Char) : Reading Char :=
  let digits := chars.take count
  if digits.length = count then (codePoint? digits).map fun c => (c, chars.drop count) else none

def escape? : List Char → Reading Char
  | 'b' :: rest => some ('\x08', rest)
  | 't' :: rest => some ('\t', rest)
  | 'n' :: rest => some ('\n', rest)
  | 'f' :: rest => some ('\x0c', rest)
  | 'r' :: rest => some ('\r', rest)
  | 'e' :: rest => some ('\x1b', rest)
  | '"' :: rest => some ('"', rest)
  | '\\' :: rest => some ('\\', rest)
  | 'x' :: rest => codeEscape? 2 rest
  | 'u' :: rest => codeEscape? 4 rest
  | 'U' :: rest => codeEscape? 8 rest
  | _ => none

def isSpace (c : Char) : Bool := c = ' ' || c = '\t'

def dropBlankLines : List Char → List Char
  | '\r' :: '\n' :: rest => dropBlankLines rest
  | c :: rest => if isSpace c || c = '\n' then dropBlankLines rest else c :: rest
  | [] => []

/-- The blanks and line ends that a backslash at the end of a line joins lines over. -/
def dropJoint? (chars : List Char) : Option (List Char) :=
  (dropLineEnd? (chars.dropWhile isSpace)).map dropBlankLines

def basicRest? : Nat → List Char → List Char → Reading String
  | 0, _, _ => none
  | fuel + 1, seen, chars =>
    match chars with
    | '"' :: rest => some (String.ofList seen.reverse, rest)
    | '\\' :: rest =>
      match escape? rest with
      | some (c, rest) => basicRest? fuel (c :: seen) rest
      | none => none
    | c :: rest => if isControl c then none else basicRest? fuel (c :: seen) rest
    | [] => none

def literalRest? (chars : List Char) : Reading String :=
  match splitFirst? '\'' chars with
  | some (text, rest) => if text.any isControl then none else some (String.ofList text, rest)
  | none => none

/-- The end of a string of several lines: three quotes, and up to two before them that belong to
the string. -/
def closing? (quote : Char) (chars : List Char) : Option (Nat × List Char) :=
  let quotes := (chars.takeWhile (· = quote)).length
  if 3 ≤ quotes then
    let kept := min (quotes - 3) 2
    some (kept, chars.drop (kept + 3))
  else none

/-- The rest of a string of several lines, behind its opening quotes. Line ends are kept as they
are written. -/
def linesRest? (quote : Char) : Nat → List Char → List Char → Reading String
  | 0, _, _ => none
  | fuel + 1, seen, chars =>
    match closing? quote chars with
    | some (kept, rest) =>
      some (String.ofList ((List.replicate kept quote ++ seen).reverse), rest)
    | none =>
      match chars with
      | [] => none
      | '\r' :: '\n' :: rest => linesRest? quote fuel ('\n' :: '\r' :: seen) rest
      | c :: rest =>
        if c = '\\' && quote = '"' then
          match dropJoint? rest with
          | some rest => linesRest? quote fuel seen rest
          | none =>
            match escape? rest with
            | some (c, rest) => linesRest? quote fuel (c :: seen) rest
            | none => none
        else if isControl c && c ≠ '\n' then none
        else linesRest? quote fuel (c :: seen) rest

/-- A string of several lines; a line end right behind the opening quotes does not belong to it. -/
def lines? (quote : Char) (chars : List Char) : Reading String :=
  linesRest? quote (chars.length + 1) [] ((dropLineEnd? chars).getD chars)

def lineString? : List Char → Reading String
  | '"' :: rest => basicRest? (rest.length + 1) [] rest
  | '\'' :: rest => literalRest? rest
  | _ => none

def string? : List Char → Reading String
  | '"' :: '"' :: '"' :: rest => lines? '"' rest
  | '\'' :: '\'' :: '\'' :: rest => lines? '\'' rest
  | chars => lineString? chars

/-! ## Numbers -/

/-- Digits with single underscores between them. -/
def groupedDigits? (isDigit : Char → Bool) (chars : List Char) : Option (List Char) :=
  let groups := splitAll '_' chars
  if groups.all (fun group => !group.isEmpty && group.all isDigit) then some groups.flatten else none

def splitSign : List Char → Bool × List Char
  | '-' :: rest => (true, rest)
  | '+' :: rest => (false, rest)
  | chars => (false, chars)

def decimalDigits? (chars : List Char) : Option (List Char) := do
  let digits ← groupedDigits? isDigit chars
  if chars.head? = some '0' ∧ 1 < chars.length then none else some digits

def isBaseDigit (base : Nat) (c : Char) : Bool :=
  match hexValue? c with
  | some value => value < base
  | none => false

def baseNumber? (base : Nat) (chars : List Char) : Option Nat :=
  (groupedDigits? (isBaseDigit base) chars).map fun digits =>
    digits.foldl (fun total digit => total * base + (hexValue? digit).getD 0) 0

def wholeNumber? (atom : List Char) : Option Int :=
  match atom with
  | '0' :: 'x' :: digits => (baseNumber? 16 digits).map Int.ofNat
  | '0' :: 'o' :: digits => (baseNumber? 8 digits).map Int.ofNat
  | '0' :: 'b' :: digits => (baseNumber? 2 digits).map Int.ofNat
  | _ =>
    let (negative, digits) := splitSign atom
    (decimalDigits? digits).map fun digits =>
      if negative then -(digitsValue digits 0 : Int) else digitsValue digits 0

def isExponent (chars : List Char) : Bool := (groupedDigits? isDigit (splitSign chars).2).isSome

def isMantissa (chars : List Char) : Bool :=
  match splitFirst? '.' chars with
  | some (whole, fraction) =>
    (decimalDigits? whole).isSome && (groupedDigits? isDigit fraction).isSome
  | none => (decimalDigits? chars).isSome

/-- Whether an atom is a number with a point, an exponent or a name. -/
def isFloat (atom : List Char) : Bool :=
  let unsigned := (splitSign atom).2
  if unsigned = "inf".toList || unsigned = "nan".toList then true
  else
    let mantissa := unsigned.takeWhile fun c => c ≠ 'e' && c ≠ 'E'
    match unsigned.drop mantissa.length with
    | _ :: exponent => isMantissa mantissa && isExponent exponent
    | [] => mantissa.contains '.' && isMantissa mantissa

/-! ## Atoms -/

def isAtomChar (c : Char) : Bool :=
  isDigit c || isAsciiLetter c || c = '_' || c = '+' || c = '-' || c = '.' || c = ':'

/-- The characters of a value without delimiters. A blank belongs to it between a date and a time. -/
def splitAtom (chars : List Char) : List Char × List Char :=
  let atom := chars.takeWhile isAtomChar
  match date? atom, chars.drop atom.length with
  | some (_, []), ' ' :: digit :: rest =>
    if isDigit digit then
      let time := (digit :: rest).takeWhile isAtomChar
      (atom ++ ' ' :: time, (digit :: rest).drop time.length)
    else (atom, ' ' :: digit :: rest)
  | _, rest => (atom, rest)

def atom? (chars : List Char) : Reading Value :=
  let (atom, rest) := splitAtom chars
  let value : Option Value :=
    if atom = "true".toList then some (.bool true)
    else if atom = "false".toList then some (.bool false)
    else match wholeNumber? atom with
      | some number => some (.integer number)
      | none =>
        if isFloat atom then some (.float (String.ofList atom))
        else (DateTime.read? atom).map .dateTime
  value.map fun value => (value, rest)

end ComputeMonitor.Toml
