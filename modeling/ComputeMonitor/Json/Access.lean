import ComputeMonitor.Json.Record

/-!
Taking JSON values apart, with a reason where one is not as expected.

A missing member and a `null` one are the same here. Whole numbers may be given as decimal texts,
and floating-point numbers as the hexadecimal digits of their bits or by name.
-/

set_option autoImplicit false

namespace ComputeMonitor.Json

open ComputeMonitor.Number (Binary64)

inductive AccessError where
  | missing (name : String)
  | expected (what : String)
  | undecodable
  deriving DecidableEq, Repr

def AccessError.message : AccessError → String
  | .missing name => "missing field " ++ name
  | .expected what => "expected " ++ what
  | .undecodable => "decode"

abbrev Access := Except AccessError

def orExpected {α : Type} (what : String) : Option α → Access α
  | some value => .ok value
  | none => .error (.expected what)

namespace Value

def member? (value : Value) (name : String) : Option Value :=
  match value with
  | .object members =>
    match (members.reverse.find? fun member => member.1 == some name).map Prod.snd with
    | some .null => none
    | found => found
  | _ => none

def asText (value : Value) : Access String := orExpected "a text" value.toText?

def asBool (value : Value) : Access Bool := orExpected "a truth value" value.toBool?

def asList : Value → Access (List Value)
  | .array elements => .ok elements
  | _ => .error (.expected "a list")

def signed? (negative : Bool) (digits : List Char) : Option Int :=
  (Text.digits? digits).map fun n => if negative then -(n : Int) else n

def asInt (value : Value) : Access Int :=
  orExpected "a whole number" <| match value with
    | .number numeral => if numeral.isWhole then signed? numeral.negative numeral.whole else none
    | .string (some text) =>
      match text.toList with
      | '-' :: rest => signed? true rest
      | '+' :: rest => signed? false rest
      | digits => signed? false digits
    | _ => none

def asNat (value : Value) : Access Nat := do
  let number ← value.asInt
  if number < 0 then .error (.expected "a natural number") else return number.toNat

def asBinary64 (value : Value) : Access Binary64 :=
  orExpected "a number" <| match value with
    | .number numeral => numeral.toBinary64?
    | .string (some "nan") => some .nan
    | .string (some "inf") => some (.infinite false)
    | .string (some "-inf") => some (.infinite true)
    | .string (some text) => do
      let digits ← text.toList.mapM Text.hexValue?
      return .ofBits (digits.foldl (fun total digit => total * 16 + digit) 0)
    | _ => none

/-- A duration in milliseconds: a number of them, or a record of seconds. -/
def asMilliseconds (value : Value) : Access Nat :=
  match value.member? "secs" with
  | some seconds => do return (← seconds.asNat) * 1000
  | none => value.asNat

def asListOf {α : Type} (decode : Value → Access α) (value : Value) : Access (List α) := do
  (← value.asList).mapM decode

def get {α : Type} (value : Value) (name : String) (decode : Value → Access α) : Access α :=
  match value.member? name with
  | some found => decode found
  | none => .error (.missing name)

def get? {α : Type} (value : Value) (name : String) (decode : Value → Access α) :
    Access (Option α) :=
  match value.member? name with
  | some found => do return some (← decode found)
  | none => .ok none

def getD {α : Type} (value : Value) (name : String) (decode : Value → Access α) (default : α) :
    Access α := do return (← value.get? name decode).getD default

def textAt (value : Value) (name : String) : Access String := value.get name asText

def natAt (value : Value) (name : String) : Access Nat := value.get name asNat

def listAt {α : Type} (value : Value) (name : String) (decode : Value → Access α) : Access (List α) :=
  value.getD name (asListOf decode) []

/-- The members of an object, each name once, with the last value given for it. -/
def lastMembers (members : List (Option String × Value)) : List (Option String × Value) :=
  members.foldl (fun kept member => kept.filter (·.1 != member.1) ++ [member]) []

mutual

def lastWins : Value → Value
  | .array elements => .array (lastWinsAll elements)
  | .object members => .object (lastMembers (lastWinsMembers members))
  | value => value

def lastWinsAll : List Value → List Value
  | [] => []
  | element :: rest => element.lastWins :: lastWinsAll rest

def lastWinsMembers : List (Option String × Value) → List (Option String × Value)
  | [] => []
  | (name, value) :: rest => (name, value.lastWins) :: lastWinsMembers rest

end

def decodeBy {α : Type} (ofJson? : Value → Option α) (value : Value) : Access α :=
  match ofJson? value.lastWins with
  | some found => .ok found
  | none => .error .undecodable

def asNamed {α : Type} (decode : Value → Access α) : Value → Access (List (String × α))
  | .object members => members.mapM fun (name, value) => do return (name.getD "", ← decode value)
  | _ => .error (.expected "a record")

end Value
end ComputeMonitor.Json
