import ComputeMonitor.Json.Reader

/-!
Reading records from JSON values.

A record is an object or an array. In an object unknown members are left aside and no known one
may come twice; in an array the fields stand in their fixed order, and fields at the end may be
left out. A missing field takes its default, if it has one. A value of another type, `null`
included, is refused.
-/

set_option autoImplicit false

namespace ComputeMonitor.Json

open ComputeMonitor.Number (Binary64)

/-- The value of a member that may be missing but not come twice. -/
def member? (name : String) (members : List (Option String × Value)) : Option (Option Value) :=
  match members.filter (·.1 == some name) with
  | [] => some none
  | [(_, value)] => some (some value)
  | _ => none

def fields? (names : List String) : Value → Option (List (Option Value))
  | .object members =>
    if members.all (·.1.isSome) then names.mapM fun name => member? name members else none
  | .array elements =>
    if elements.length ≤ names.length then
      some (elements.map some ++ List.replicate (names.length - elements.length) none)
    else none
  | _ => none

def optional? {α : Type} (read : Value → Option α) (default : α) : Option Value → Option α
  | some value => read value
  | none => some default

def required? {α : Type} (read : Value → Option α) : Option Value → Option α
  | some value => read value
  | none => none

namespace Value

def toText? : Value → Option String
  | .string text => text
  | _ => none

def toBool? : Value → Option Bool
  | .bool value => some value
  | _ => none

def toBinary64? : Value → Option Binary64
  | .number numeral => numeral.toBinary64?
  | _ => none

def toNat? (limit : Nat) : Value → Option Nat
  | .number numeral => numeral.toNat? limit
  | _ => none

def toListOf? {α : Type} (read : Value → Option α) : Value → Option (List α)
  | .array elements => elements.mapM read
  | _ => none

end Value
end ComputeMonitor.Json
