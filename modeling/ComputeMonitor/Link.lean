/-!
The state of the link to the client whose work is shown.
-/

set_option autoImplicit false

namespace ComputeMonitor

inductive Link where
  | connected
  | reconnecting
  | disconnected
  deriving DecidableEq, Repr

namespace Link

instance : Inhabited Link := ⟨.disconnected⟩

def ofFlags (connected reconnecting : Bool) : Link :=
  if connected then .connected else if reconnecting then .reconnecting else .disconnected

def label : Link → String
  | .connected => "connected"
  | .reconnecting => "reconnecting"
  | .disconnected => "disconnected"

def isConnected (link : Link) : Bool := link == .connected

def isReconnecting (link : Link) : Bool := link == .reconnecting

end Link
end ComputeMonitor
