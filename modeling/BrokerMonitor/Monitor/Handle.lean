import BrokerMonitor.Endpoint
import BrokerMonitor.Generation
import BrokerMonitor.Text.Quoted
/-!
# Connection handles

A handle stands for one connection: the endpoint it is bound to, stamped with the generation that it
opened. Two handles of one monitor are the same exactly when their generations are, whatever their
endpoints.
-/

namespace BrokerMonitor

/-- One connection to one endpoint. -/
structure Handle where
  generation : Generation
  endpoint : Endpoint
deriving DecidableEq, Repr

namespace Handle

def isSame (a b : Handle) : Bool := a.generation == b.generation

/-- A handle's form in diagnostics, with the transport left out. -/
def debugText (h : Handle) : String :=
  "ConnectionHandle \x7b generation: HandleGeneration(" ++ Nat.repr h.generation.toNat ++
    "), endpoint: " ++ Text.quoted h.endpoint.text ++ ", .. \x7d"

end Handle

end BrokerMonitor
