import ComputeMonitor.Gateway.ToldGateway
import ComputeMonitor.Simulation.Demo
import ComputeMonitor.Simulation.Script

/-!
The simulated sources of documents under one type: a script, the demonstration, or a remote
document over a gateway that answers as it was told.
-/

set_option autoImplicit false

namespace ComputeMonitor.Simulation

open ComputeMonitor.Gateway (RemoteDocument ToldGateway)

inductive Source where
  | script (script : Script)
  | demo (demo : Demo)
  | remote (remote : RemoteDocument ToldGateway)

namespace Source

def refresh : Source → Except Stop Unit × Source
  | .script inner => let (result, next) := DocumentSource.refresh inner; (result, .script next)
  | .demo inner => let (result, next) := DocumentSource.refresh inner; (result, .demo next)
  | .remote inner =>
    let (result, next) := DocumentSource.refresh
      { inner with fetcher := { inner.fetcher with calls := [] } }
    (result, .remote next)

instance : DocumentSource Source where
  refresh := refresh
  document
    | .script inner => DocumentSource.document inner
    | .demo inner => DocumentSource.document inner
    | .remote inner => DocumentSource.document inner
  link
    | .script inner => DocumentSource.link inner
    | .demo inner => DocumentSource.link inner
    | .remote inner => DocumentSource.link inner
  session
    | .script inner => DocumentSource.session inner
    | .demo inner => DocumentSource.session inner
    | .remote inner => DocumentSource.session inner

end Source
end ComputeMonitor.Simulation
