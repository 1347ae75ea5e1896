import ComputeMonitor.DocumentSource
import ComputeMonitor.Json.Record

/-!
What a gateway's answer says by its status: success, or a failure with the cleaned text of its
body.
-/

set_option autoImplicit false

namespace ComputeMonitor.Gateway

open ComputeMonitor.Json
open ComputeMonitor.Text

def nullable? {α : Type} (read : Value → Option α) : Value → Option (Option α)
  | .null => some none
  | value => (read value).map some

def errorField? (body : String) : Option String := do
  match ← fields? ["error"] (← read? body) with
  | [some value] => (← nullable? Value.toText? value)
  | _ => none

/-- Whether a body is told as it is: a short plain text. -/
def isPlainText (body : String) : Bool :=
  body.utf8ByteSize < 100 && !body.toList.contains '\x7b' && !isBlankText body

def errorText (status : Nat) (body : String) : String :=
  let told (text : String) : String := "gateway error (" ++ numeral status ++ "): " ++ text
  match (errorField? body).filter (· ≠ "") with
  | some text => told text
  | none =>
    if isPlainText body then told (trim body) else "gateway returned " ++ numeral status

def isSuccess (status : Nat) : Bool := 200 ≤ status && status < 300

def checkStatus (status : Nat) (body : String) : Except Failure String :=
  if isSuccess status then .ok body else .error (.ofText (errorText status body))

end ComputeMonitor.Gateway
