import ComputeMonitor.DocumentSource

/-!
A source that follows a script: each refresh takes the next step. When the script is over every
refresh succeeds and changes nothing.
-/

set_option autoImplicit false

namespace ComputeMonitor.Simulation

open ComputeMonitor.Client

inductive Step where
  | snapshot (state : State) (messages : List Message)
  /-- A failure, which leaves the document as it was. -/
  | fail (text : String)
  | restart (state : State)
  deriving Repr, Inhabited

structure Script where
  steps : List Step := []
  document : Document := {}
  link : Link := .disconnected
  session : Nat := 0
  refreshes : Nat := 0
  deriving Inhabited

namespace Script

/-- The log of a script is never cut: it can hold as many messages as there are numbers. -/
def messageLimit : Nat := 18446744073709551615

def refresh (script : Script) : Except Failure Unit × Script :=
  let script := { script with refreshes := script.refreshes + 1 }
  match script.steps with
  | [] => (.ok (), { script with link := .connected })
  | .snapshot state messages :: steps =>
    let document := ({ script.document with state }.appendMessages messages messageLimit).1
    (.ok (), { script with steps, document, link := .connected })
  | .fail text :: steps =>
    let link := if script.link = .connected then Link.reconnecting else .disconnected
    (.error (.ofText text), { script with steps, link })
  | .restart state :: steps =>
    (.ok (), { script with
      steps, document := { state }, link := .connected, session := script.session + 1 })

instance : DocumentSource Script where
  refresh script := (script.refresh.1.mapError .failed, script.refresh.2)
  document := Script.document
  link := Script.link
  session := Script.session

end Script
end ComputeMonitor.Simulation
