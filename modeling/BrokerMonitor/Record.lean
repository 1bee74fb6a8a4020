import BrokerMonitor.Resource
/-!
# Listed records

What one entry of a listing says: a channel with its parties, or an adapter with its statistics.
-/

namespace BrokerMonitor

/-- A pub/sub topic and who takes part in it. -/
structure Channel where
  topic : String
  publishers : List String
  subscribers : List String
  messageCount : UInt32
deriving DecidableEq, Repr, Inhabited

/-- A broker adapter and its state. -/
structure Adapter where
  name : String
  live : Bool
  description : String
  stats : List String
deriving DecidableEq, Repr, Inhabited

/-- The records that a listing of this resource is made of. -/
abbrev Resource.Record : Resource → Type
  | .channels => Channel
  | .adapters => Adapter

end BrokerMonitor
