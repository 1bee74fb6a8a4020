import BrokerMonitor.Error.RpcCode
/-!
# Errors of a stream

What can go wrong between this program and the broker: the endpoint is no usable URL, no transport
could be made for it, or a call ended with a status.
-/

namespace BrokerMonitor

/-- An error of an endpoint, a transport or a call. -/
inductive StreamError where
  | invalidEndpoint (endpoint reason : String)
  | transport (reason : String)
  | status (code : RpcCode) (message : String)
deriving DecidableEq, Repr, Inhabited

namespace StreamError

def message : StreamError → String
  | .invalidEndpoint endpoint reason => "Invalid endpoint '" ++ endpoint ++ "': " ++ reason
  | .transport reason => "gRPC transport error: " ++ reason
  | .status code message => "gRPC status " ++ code.name ++ ": " ++ message

/-- The broker could not be reached at all, as opposed to answering with an error. -/
def isUnreachable : StreamError → Bool
  | .invalidEndpoint .. => false
  | .transport _ => true
  | .status code _ => code == .unavailable

/-- The broker was reached and does not serve the call. -/
def isUnimplemented : StreamError → Bool
  | .status code _ => code == .unimplemented
  | _ => false

end StreamError

end BrokerMonitor
