import ComputeMonitor.DomainName.Reading

/-!
Hosts of web addresses: names, and addresses of both versions of the internet protocol.

A host whose last label is a number is an address of version 4, and one in square brackets an
address of version 6. Names are kept in ASCII.
-/

set_option autoImplicit false

namespace ComputeMonitor.Gateway

open ComputeMonitor.Text

inductive AddressFault where
  | relative
  | emptyHost
  | hostName
  | port
  | addressVersion4
  | addressVersion6
  | hostCharacter
  deriving DecidableEq, Repr

def AddressFault.message : AddressFault → String
  | .relative => "relative URL without a base"
  | .emptyHost => "empty host"
  | .hostName => "invalid international domain name"
  | .port => "invalid port number"
  | .addressVersion4 => "invalid IPv4 address"
  | .addressVersion6 => "invalid IPv6 address"
  | .hostCharacter => "invalid domain character"

inductive Host where
  | name (text : String)
  | version4 (address : Nat)
  | version6 (pieces : List Nat)
  deriving DecidableEq, Repr

/-! ## Addresses of version 4 -/

/-- A number in decimal, octal with a leading zero, or hexadecimal; without digits behind its
mark it is zero. The number is missing where the text is none. -/
def readPart? (part : List Char) : Option Nat :=
  let read (base : Nat) (digits : List Char) : Option Nat := do
    let values ← digits.mapM hexValue?
    if values.all (· < base) then some (values.foldl (fun total digit => total * base + digit) 0) else none
  match part with
  | [] => none
  | '0' :: 'x' :: digits => read 16 digits
  | '0' :: 'X' :: digits => read 16 digits
  | '0' :: digit :: digits => read 8 (digit :: digits)
  | digits => read 10 digits

/-- The labels of a name, without the empty one behind a point at the end. -/
def labels (name : List Char) : List (List Char) :=
  match (splitAll '.' name).reverse with
  | [] :: rest => rest.reverse
  | all => all.reverse

/-- Whether the last label of a name is a number, so that the name has to be an address. -/
def endsInNumber (name : List Char) : Bool :=
  match (labels name).reverse with
  | last :: _ => (!last.isEmpty && last.all isDigit) || (readPart? last).isSome
  | [] => false

/-- The address of up to four numbers: all but the last are bytes, the last fills the rest. -/
def readVersion4? (name : List Char) : Option Nat := do
  let parts ← (labels name).mapM readPart?
  match parts.reverse with
  | [] => none
  | last :: front =>
    if front.length ≤ 3 ∧ last < Nat.pow 256 (4 - front.length) ∧ front.all (· < 256) then
      some (front.reverse.zipIdx.foldl (fun total (byte, place) => total + byte * Nat.pow 256 (3 - place)) last)
    else none

def version4Text (address : Nat) : String :=
  ".".intercalate ([3, 2, 1, 0].map fun place => numeral (address / Nat.pow 256 place % 256))

/-! ## Addresses of version 6 -/

def readPiece? (digits : List Char) : Option Nat :=
  if digits.isEmpty || 4 < digits.length then none
  else (digits.mapM hexValue?).map (·.foldl (fun total digit => total * 16 + digit) 0)

def readByte? (digits : List Char) : Option Nat := do
  let value ← digits? digits
  if value < 256 ∧ digits = digitsOf value then some value else none

def readEmbedded? (text : List Char) : Option (List Nat) := do
  match ← (splitAll '.' text).mapM readByte? with
  | [a, b, c, d] => some [a * 256 + b, c * 256 + d]
  | _ => none

def readPieces? : List (List Char) → Option (List Nat)
  | [] => some []
  | [last] => if last.contains '.' then readEmbedded? last else (readPiece? last).map fun piece => [piece]
  | first :: rest => do return (← readPiece? first) :: (← readPieces? rest)

def readSide? (text : List Char) : Option (List Nat) :=
  if text.isEmpty then some [] else readPieces? (splitAll ':' text)

/-- Eight pieces, or fewer around a gap of two colons that stands for at least one zero. -/
def readVersion6? (text : List Char) : Option (List Nat) := do
  match splitAtText? "::".toList text with
  | none =>
    let pieces ← readPieces? (splitAll ':' text)
    if pieces.length = 8 then some pieces else none
  | some (before, after) =>
    let front ← if before.contains '.' then none else readSide? before
    let back ← readSide? after
    if front.length + back.length ≤ 7 then
      some (front ++ List.replicate (8 - front.length - back.length) 0 ++ back)
    else none

def leadingZeros (pieces : List Nat) : Nat := (pieces.takeWhile (· == 0)).length

def longestZeros (pieces : List Nat) : Nat × Nat :=
  (List.range pieces.length).foldl (fun best place =>
    let run := leadingZeros (pieces.drop place)
    if best.2 < run then (place, run) else best) (0, 0)

def piecesText (pieces : List Nat) : String :=
  ":".intercalate (pieces.map fun piece => String.ofList (hexDigitsOf piece))

/-- The shortest form: two colons stand for the longest run of two zeros at least. -/
def version6Text (pieces : List Nat) : String :=
  let (place, run) := longestZeros pieces
  if run < 2 then piecesText pieces
  else piecesText (pieces.take place) ++ "::" ++ piecesText (pieces.drop (place + run))

def Host.text : Host → String
  | .name text => text
  | .version4 address => version4Text address
  | .version6 pieces => "[" ++ version6Text pieces ++ "]"

/-! ## Names -/

def unescapedBytes : List UInt8 → List UInt8
  | 37 :: high :: low :: rest =>
    match hexValue? (Char.ofNat high.toNat), hexValue? (Char.ofNat low.toNat) with
    | some high, some low => UInt8.ofNat (high * 16 + low) :: unescapedBytes rest
    | _, _ => 37 :: unescapedBytes (high :: low :: rest)
  | byte :: rest => byte :: unescapedBytes rest
  | [] => []

def unescaped? (text : List Char) : Option (List Char) :=
  (String.fromUTF8? ⟨(unescapedBytes (String.ofList text).toUTF8.toList).toArray⟩).map String.toList

def readHost (text : List Char) : Except AddressFault Host :=
  match text with
  | '[' :: rest =>
    match dropTrailing? [']'] rest with
    | none => .error .addressVersion6
    | some inner =>
      match readVersion6? inner with
      | some pieces => .ok (.version6 pieces)
      | none => .error .addressVersion6
  | _ =>
    match unescaped? text with
    | none => .error .hostName
    | some chars =>
      match DomainName.ascii? chars with
      | none => .error .hostName
      | some name =>
        if name.isEmpty then .error .emptyHost
        else if endsInNumber name then
          match readVersion4? name with
          | some address => .ok (.version4 address)
          | none => .error .addressVersion4
        else .ok (.name (String.ofList name))

def isForbiddenInOther (c : Char) : Bool :=
  c.toNat = 0 || "\t\n\r #/:<>?@[\\]^|".toList.contains c

def checkOtherHost (text : List Char) : Except AddressFault Unit :=
  match text with
  | '[' :: _ => do let _ ← readHost text
  | _ => if text.any isForbiddenInOther then .error .hostCharacter else .ok ()

end ComputeMonitor.Gateway
