import BrokerMonitor.Error.StreamError
/-!
# Errors of a monitor

A connect fails because its endpoint is invalid or because no transport could be made for it. A
number that is no stream status is the third error.
-/

namespace BrokerMonitor

/-- An error of the monitor. -/
inductive MonitorError where
  | invalidEndpoint (url reason : String)
  | transportFailure (reason : String)
  | invalidStatusCode (code : UInt8)
deriving DecidableEq, Repr, Inhabited

namespace MonitorError

def message : MonitorError → String
  | .invalidEndpoint url reason => "Invalid broker endpoint '" ++ url ++ "': " ++ reason
  | .transportFailure reason => "Transport failure: " ++ reason
  | .invalidStatusCode code => "Invalid stream status code: " ++ Nat.repr code.toNat

/-- A failed call counts as a transport failure, and its code leads the reason. -/
def ofStream : StreamError → MonitorError
  | .invalidEndpoint endpoint reason => .invalidEndpoint endpoint reason
  | .transport reason => .transportFailure reason
  | .status code message => .transportFailure (code.name ++ ": " ++ message)

end MonitorError

end BrokerMonitor
