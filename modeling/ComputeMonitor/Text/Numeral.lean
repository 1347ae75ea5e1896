import ComputeMonitor.Text.Blank

/-!
Decimal numerals: whole numbers written in ASCII digits, and their reading.

Reading takes an optional plus sign and at least one digit, leading zeros included, and refuses
everything else. Writing uses the fewest digits.
-/

set_option autoImplicit false

namespace ComputeMonitor.Text

inductive NumeralError where
  | empty
  | invalidDigit
  | tooLarge
  deriving DecidableEq, Repr

def isDigit (c : Char) : Bool := '0'.toNat ≤ c.toNat && c.toNat ≤ '9'.toNat

def digitValue (c : Char) : Nat := c.toNat - '0'.toNat

/-- The number that digits denote, continued from a value already read. -/
def digitsValue (digits : List Char) (value : Nat) : Nat :=
  digits.foldl (fun total c => total * 10 + digitValue c) value

def digits? (chars : List Char) : Option Nat :=
  if chars.isEmpty || !chars.all isDigit then none else some (digitsValue chars 0)

def digitsOf (n : Nat) : List Char :=
  if n < 10 then [Char.ofNat ('0'.toNat + n)]
  else digitsOf (n / 10) ++ [Char.ofNat ('0'.toNat + n % 10)]
termination_by n

def numeral (n : Nat) : String := String.ofList (digitsOf n)

def signedNumeral (n : Int) : String := if n < 0 then "-" ++ numeral n.natAbs else numeral n.natAbs

def paddedDigits (width n : Nat) : List Char :=
  let digits := digitsOf n
  List.replicate (width - digits.length) '0' ++ digits

/-- Read a number no larger than a limit. A digit that is no digit is reported before the size
of what follows it, as reading goes from left to right. -/
def readDigits (limit : Nat) : List Char → Nat → Except NumeralError Nat
  | [], value => .ok value
  | c :: rest, value =>
    if isDigit c then
      let next := value * 10 + digitValue c
      if next ≤ limit then readDigits limit rest next else .error .tooLarge
    else .error .invalidDigit

def readUnsigned (limit : Nat) (chars : List Char) : Except NumeralError Nat :=
  match chars with
  | [] => .error .empty
  | ['+'] => .error .invalidDigit
  | '+' :: rest => readDigits limit rest 0
  | chars => readDigits limit chars 0

def maxUInt64 : Nat := 18446744073709551615

def readUInt64? (chars : List Char) : Option Nat := (readUnsigned maxUInt64 chars).toOption

def readUInt16? (chars : List Char) : Option Nat := (readUnsigned 65535 chars).toOption

def hexDigit (n : Nat) : Char := if n < 10 then Char.ofNat ('0'.toNat + n) else Char.ofNat ('a'.toNat + (n - 10))

def hexDigitsOf (n : Nat) : List Char :=
  if n < 16 then [hexDigit n] else hexDigitsOf (n / 16) ++ [hexDigit (n % 16)]
termination_by n

def hexValue? (c : Char) : Option Nat :=
  let code := c.toNat
  if isDigit c then some (digitValue c)
  else if 'a'.toNat ≤ code && code ≤ 'f'.toNat then some (code - 'a'.toNat + 10)
  else if 'A'.toNat ≤ code && code ≤ 'F'.toNat then some (code - 'A'.toNat + 10)
  else none

end ComputeMonitor.Text
