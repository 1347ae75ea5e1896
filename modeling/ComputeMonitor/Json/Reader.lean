import ComputeMonitor.Json.Value

/-!
Reading JSON texts.

The grammar is the one of RFC 8259: no leading zeros, no control characters in strings, nothing
but blanks after the value.
-/

set_option autoImplicit false

namespace ComputeMonitor.Json

open ComputeMonitor.Text (isDigit hexValue? dropLeading?)

def isSpace (c : Char) : Bool := c == ' ' || c == '\n' || c == '\t' || c == '\r'

def skipSpace (chars : List Char) : List Char := chars.dropWhile isSpace

def hexCode? : List Char → Option (Nat × List Char)
  | a :: b :: c :: d :: rest => do
    let a ← hexValue? a
    let b ← hexValue? b
    let c ← hexValue? c
    let d ← hexValue? d
    return (((a * 16 + b) * 16 + c) * 16 + d, rest)
  | _ => none

def isHighSurrogate (code : Nat) : Bool := 0xD800 ≤ code && code ≤ 0xDBFF

def isLowSurrogate (code : Nat) : Bool := 0xDC00 ≤ code && code ≤ 0xDFFF

def pairedChar (high low : Nat) : Char := Char.ofNat (0x10000 + (high - 0xD800) * 1024 + (low - 0xDC00))

/-- A character by its code after the mark of the escape. The character is missing where the code
is half of a pair without the other half. -/
def codeEscape? (chars : List Char) : Option ((Option Char) × List Char) := do
  let (code, rest) ← hexCode? chars
  if isHighSurrogate code then
    match rest with
    | '\\' :: 'u' :: afterMark =>
      let (low, afterPair) ← hexCode? afterMark
      if isLowSurrogate low then some (some (pairedChar code low), afterPair) else some (none, rest)
    | _ => some (none, rest)
  else if isLowSurrogate code then some (none, rest)
  else some (some (Char.ofNat code), rest)

def shortEscape? : Char → Option Char
  | '"' => some '"'
  | '\\' => some '\\'
  | '/' => some '/'
  | 'b' => some '\x08'
  | 'f' => some '\x0c'
  | 'n' => some '\n'
  | 'r' => some '\r'
  | 't' => some '\t'
  | _ => none

/-- The rest of a string after its opening quote. What was read so far is kept in reverse, and
missing once a half character has been met. -/
def stringRest? : Nat → Option (List Char) → List Char → Option ((Option String) × List Char)
  | 0, _, _ => none
  | _ + 1, _, [] => none
  | fuel + 1, seen, c :: rest =>
    if c = '"' then some (seen.map fun seen => String.ofList seen.reverse, rest)
    else if c = '\\' then
      match rest with
      | 'u' :: rest =>
        match codeEscape? rest with
        | some (char, rest) =>
          stringRest? fuel (seen.bind fun seen => char.map fun char => char :: seen) rest
        | none => none
      | mark :: rest =>
        match shortEscape? mark with
        | some char => stringRest? fuel (seen.map (char :: ·)) rest
        | none => none
      | [] => none
    else if c.toNat < 32 then none
    else stringRest? fuel (seen.map (c :: ·)) rest

def string? (chars : List Char) : Option ((Option String) × List Char) := stringRest? (chars.length + 1) (some []) chars

/-- The digits before a point: a single zero or digits without a leading zero. -/
def wholeDigits? (chars : List Char) : Option ((List Char) × List Char) :=
  match chars with
  | '0' :: rest =>
    match rest with
    | c :: _ => if isDigit c then none else some (['0'], rest)
    | [] => some (['0'], [])
  | chars =>
    let digits := chars.takeWhile isDigit
    if digits.isEmpty then none else some (digits, chars.dropWhile isDigit)

def fractionDigits? (chars : List Char) : Option ((Option (List Char)) × List Char) :=
  match chars with
  | '.' :: rest =>
    let digits := rest.takeWhile isDigit
    if digits.isEmpty then none else some (some digits, rest.dropWhile isDigit)
  | rest => some (none, rest)

def exponentDigits? (chars : List Char) : Option ((Option (Bool × List Char)) × List Char) :=
  match chars with
  | mark :: rest =>
    if mark = 'e' || mark = 'E' then
      let (negative, rest) := match rest with
        | '-' :: rest => (true, rest)
        | '+' :: rest => (false, rest)
        | rest => (false, rest)
      let digits := rest.takeWhile isDigit
      if digits.isEmpty then none else some (some (negative, digits), rest.dropWhile isDigit)
    else some (none, mark :: rest)
  | [] => some (none, [])

def number? (chars : List Char) : Option (Numeral × List Char) := do
  let (negative, chars) := match chars with
    | '-' :: rest => (true, rest)
    | rest => (false, rest)
  let (whole, chars) ← wholeDigits? chars
  let (fraction, chars) ← fractionDigits? chars
  let (exponent, chars) ← exponentDigits? chars
  return (⟨negative, whole, fraction, exponent⟩, chars)

def word? (word : String) (value : Value) (chars : List Char) : Option (Value × List Char) :=
  (dropLeading? word.toList chars).map fun rest => (value, rest)

mutual

/-- A value at the start of a text. The fuel bounds the nesting and the length together. -/
def value? : Nat → List Char → Option (Value × List Char)
  | 0, _ => none
  | fuel + 1, chars =>
    match skipSpace chars with
    | 'n' :: rest => word? "ull" .null rest
    | 't' :: rest => word? "rue" (.bool true) rest
    | 'f' :: rest => word? "alse" (.bool false) rest
    | '"' :: rest => (string? rest).map fun (text, rest) => (.string text, rest)
    | '[' :: rest =>
      match skipSpace rest with
      | ']' :: rest => some (.array [], rest)
      | rest => elements? fuel [] rest
    | c :: rest =>
      if c = '\x7b' then
        match skipSpace rest with
        | [] => none
        | c :: rest => if c = '\x7d' then some (.object [], rest) else members? fuel [] (c :: rest)
      else (number? (c :: rest)).map fun (numeral, rest) => (.number numeral, rest)
    | [] => none

/-- The elements of an array after the first ones, which are kept in reverse. -/
def elements? : Nat → List Value → List Char → Option (Value × List Char)
  | 0, _, _ => none
  | fuel + 1, seen, chars =>
    match value? fuel chars with
    | none => none
    | some (element, rest) =>
      match skipSpace rest with
      | ',' :: rest => elements? fuel (element :: seen) rest
      | ']' :: rest => some (.array (element :: seen).reverse, rest)
      | _ => none

def members? : Nat → List (Option String × Value) → List Char → Option (Value × List Char)
  | 0, _, _ => none
  | fuel + 1, seen, chars =>
    match skipSpace chars with
    | '"' :: rest =>
      match string? rest with
      | none => none
      | some (name, rest) =>
        match skipSpace rest with
        | ':' :: rest =>
          match value? fuel rest with
          | none => none
          | some (value, rest) =>
            match skipSpace rest with
            | ',' :: rest => members? fuel ((name, value) :: seen) rest
            | c :: rest =>
              if c = '\x7d' then some (.object ((name, value) :: seen).reverse, rest) else none
            | [] => none
        | _ => none
    | _ => none

end

def read? (text : String) : Option Value :=
  let chars := text.toList
  match value? (2 * chars.length + 2) chars with
  | some (value, rest) => if (skipSpace rest).isEmpty then some value else none
  | none => none

end ComputeMonitor.Json
