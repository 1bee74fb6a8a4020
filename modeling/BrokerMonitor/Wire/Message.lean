import BrokerMonitor.Record
/-!
# Messages on the wire

What the broker's streams carry: one message is one complete listing. A channel on the wire counts
its messages in a signed number; a negative count is read as zero when the entry becomes a record.
-/

namespace BrokerMonitor

/-- A channel as the broker sends it. -/
structure ChannelEntry where
  topic : String := ""
  subscribers : List String := []
  publishers : List String := []
  messageCount : Int32 := 0
deriving DecidableEq, Repr, Inhabited

/-- An adapter as the broker sends it. -/
structure AdapterEntry where
  name : String := ""
  live : Bool := false
  description : String := ""
  stats : List String := []
deriving DecidableEq, Repr, Inhabited

/-- What the channels stream is asked with: nothing. -/
structure ChannelRequest where
deriving DecidableEq, Repr, Inhabited

/-- What the adapters stream is asked with: how often to send, in hertz; 0 leaves it to the broker. -/
structure AdapterRequest where
  hz : UInt32 := 0
deriving DecidableEq, Repr, Inhabited

/-- The record of a channel entry; a negative count becomes zero. -/
def ChannelEntry.record (e : ChannelEntry) : Channel :=
  ⟨e.topic, e.publishers, e.subscribers,
    if e.messageCount < 0 then 0 else e.messageCount.toUInt32⟩

/-- The record of an adapter entry, field by field. -/
def AdapterEntry.record (e : AdapterEntry) : Adapter := ⟨e.name, e.live, e.description, e.stats⟩

/-- The entries that a message about this resource is made of. -/
abbrev Resource.Entry : Resource → Type
  | .channels => ChannelEntry
  | .adapters => AdapterEntry

/-- One message of a resource's stream: a complete listing. -/
abbrev Resource.Message (r : Resource) : Type := List r.Entry

/-- The record of an entry. -/
def Resource.record : (r : Resource) → r.Entry → r.Record
  | .channels => ChannelEntry.record
  | .adapters => AdapterEntry.record

/-- The listing that a message carries: one record per entry, in order. -/
def Resource.listing (r : Resource) (m : r.Message) : List r.Record := m.map r.record

@[simp] theorem Resource.length_listing (r : Resource) (m : r.Message) :
    (r.listing m).length = m.length := by
  simp [listing]

end BrokerMonitor
