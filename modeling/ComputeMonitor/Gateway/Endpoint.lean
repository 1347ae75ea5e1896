import ComputeMonitor.DocumentSource
import ComputeMonitor.Gateway.WebAddress
import ComputeMonitor.Text.Quoted

/-!
The gateway as the program is told to reach it: an address without blanks around it and slashes
at its end, and how long to wait for an answer.
-/

set_option autoImplicit false

namespace ComputeMonitor.Gateway

open ComputeMonitor.Text

/-- An address without the blanks around it and then without the slashes at its end. -/
def normalizedBase (address : String) : String :=
  String.ofList (dropEndWhile (· == '/') (trimChars address.toList))

inductive EndpointFault where
  | empty
  | unreadable (base : String) (fault : AddressFault)
  | scheme (name : String)
  deriving DecidableEq, Repr

def EndpointFault.failure : EndpointFault → Failure
  | .empty => .ofText "client.base_url must not be empty"
  | .unreadable base fault => ⟨["parse client.base_url " ++ quoted base, fault.message]⟩
  | .scheme name => .ofText ("client.base_url must use http or https, got " ++ quoted name)

/-- A gateway's address in normal form, and the longest time to wait for it in milliseconds. -/
structure Endpoint where
  base : String
  timeout : Nat
  deriving DecidableEq, Repr

namespace Endpoint

def ofAddress (address : String) (timeout : Nat) : Except EndpointFault Endpoint :=
  let base := normalizedBase address
  if base.isEmpty then .error .empty
  else match readAddress base with
    | .error fault => .error (.unreadable base fault)
    | .ok (.other scheme) => .error (.scheme scheme)
    | .ok (.web _) => .ok { base, timeout }

def request? (endpoint : Endpoint) (path : String) : Option WebAddress :=
  match readAddress (endpoint.base ++ path) with
  | .ok (.web address) => some address
  | _ => none

def requestText (endpoint : Endpoint) (path : String) : String :=
  match endpoint.request? path with
  | some address => address.text
  | none => endpoint.base ++ path

def statePath : String := "/state"

def messagesPath (after : Nat) : String := "/messages?after=" ++ numeral after

def requestFault (endpoint : Endpoint) (path : String) : String :=
  if (endpoint.request? path).all (·.isSendable) then "error sending request" else "builder error"

def unreachable (endpoint : Endpoint) (path : String) : Failure :=
  .ofText ("cannot reach " ++ endpoint.base ++ " -- is the client gateway running? (" ++
    endpoint.requestFault path ++ " for url (" ++ endpoint.requestText path ++ "))")

end Endpoint
end ComputeMonitor.Gateway
