import ComputeMonitor.Json.Value

/-!
Building JSON values and writing them, without any blanks.
-/

set_option autoImplicit false

namespace ComputeMonitor.Json

def hex4 (n : Nat) : List Char :=
  let digits := Text.hexDigitsOf n
  List.replicate (4 - digits.length) '0' ++ digits

def escapedChar (c : Char) : List Char :=
  if c = '"' then ['\\', '"']
  else if c = '\\' then ['\\', '\\']
  else if c.toNat < 32 then '\\' :: 'u' :: hex4 c.toNat
  else [c]

def writeString (out text : String) : String :=
  (text.toList.foldl (fun out c => (escapedChar c).foldl String.push out) (out.push '"')).push '"'

namespace Numeral

def chars (numeral : Numeral) : List Char :=
  (if numeral.negative then ['-'] else []) ++ numeral.whole ++
    (match numeral.fraction with
      | some digits => '.' :: digits
      | none => []) ++
    (match numeral.exponent with
      | some (negative, digits) => 'e' :: (if negative then ['-'] else []) ++ digits
      | none => [])

end Numeral

namespace Value

mutual

/-- Write a value after what has been written already. A string without a text is written as an
empty one. -/
def write (out : String) : Value → String
  | .null => out ++ "null"
  | .bool true => out ++ "true"
  | .bool false => out ++ "false"
  | .number numeral => numeral.chars.foldl String.push out
  | .string text => writeString out (text.getD "")
  | .array elements => (writeElements (out.push '[') elements).push ']'
  | .object members => (writeMembers (out.push '\x7b') members).push '\x7d'

def writeElements (out : String) : List Value → String
  | [] => out
  | [element] => element.write out
  | element :: rest => writeElements ((element.write out).push ',') rest

def writeMembers (out : String) : List (Option String × Value) → String
  | [] => out
  | [(name, value)] => value.write ((writeString out (name.getD "")).push ':')
  | (name, value) :: rest =>
    writeMembers ((value.write ((writeString out (name.getD "")).push ':')).push ',') rest

end

def text (value : String) : Value := .string (some value)

def ofInt (n : Int) : Value := .number ⟨n < 0, Text.digitsOf n.natAbs, none, none⟩

def ofNat (n : Nat) : Value := .ofInt n

def decimal (n : Nat) : Value := .text (Text.numeral n)

def bits (number : Number.Binary64) : Value :=
  if number.isNaN then .text "nan"
  else
    let digits := Text.hexDigitsOf number.toBits
    .text (String.ofList (List.replicate (16 - digits.length) '0' ++ digits))

def ofOption {α : Type} (encode : α → Value) : Option α → Value
  | some value => encode value
  | none => .null

def listOf {α : Type} (encode : α → Value) (values : List α) : Value := .array (values.map encode)

def record (members : List (String × Value)) : Value :=
  .object (members.map fun (name, value) => (some name, value))

end Value
end ComputeMonitor.Json
