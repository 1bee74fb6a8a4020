import BrokerMonitor.Wire.Message
import BrokerMonitor.Wire.Rule
/-!
# Encoding and decoding the messages

The fields of each message, beside the way it is written. A field that has its default is not
written; the entries of a listing and the texts of a repeated field always are.
-/

namespace BrokerMonitor

namespace ChannelEntry

open Wire

/-- The fields of a channel. -/
def rule : Rule ChannelEntry where
  name := "PubSubChannel"
  field?
    | 1 => some (.text "topic" fun s e => { e with topic := s })
    | 2 => some (.text "subscribers" fun s e => { e with subscribers := e.subscribers ++ [s] })
    | 3 => some (.text "publishers" fun s e => { e with publishers := e.publishers ++ [s] })
    | 4 => some (.varint "message_count" fun n e => { e with messageCount := n.toUInt32.toInt32 })
    | _ => none

/-- A negative count is written in 64 bits. -/
def encode (e : ChannelEntry) : List UInt8 :=
  writeTextUnlessEmpty 1 e.topic ++ e.subscribers.flatMap (writeText 2) ++
    e.publishers.flatMap (writeText 3) ++ writeVarint 4 e.messageCount.toInt64.toUInt64

end ChannelEntry

namespace AdapterEntry

open Wire

/-- The fields of an adapter. -/
def rule : Rule AdapterEntry where
  name := "Adapter"
  field?
    | 1 => some (.text "name" fun s e => { e with name := s })
    | 2 => some (.varint "live" fun n e => { e with live := n != 0 })
    | 3 => some (.text "description" fun s e => { e with description := s })
    | 4 => some (.text "stats" fun s e => { e with stats := e.stats ++ [s] })
    | _ => none

def encode (e : AdapterEntry) : List UInt8 :=
  writeTextUnlessEmpty 1 e.name ++ writeVarint 2 (if e.live then 1 else 0) ++
    writeTextUnlessEmpty 3 e.description ++ e.stats.flatMap (writeText 4)

end AdapterEntry

namespace Resource

open Wire

/-- The fields of a listing: its entries. -/
def rule : (r : Resource) → Rule r.Message
  | .channels => {
      name := "ChannelResponse"
      field?
        | 1 => some (.message "channels" ChannelEntry.rule {} fun e m => m ++ [e])
        | _ => none }
  | .adapters => {
      name := "AdapterResponse"
      field?
        | 1 => some (.message "adapters" AdapterEntry.rule {} fun e m => m ++ [e])
        | _ => none }

def encodeEntry : (r : Resource) → r.Entry → List UInt8
  | .channels => ChannelEntry.encode
  | .adapters => AdapterEntry.encode

/-- The octets of a listing. -/
def encode (r : Resource) (m : r.Message) : List UInt8 :=
  m.flatMap fun e => writeDelimited 1 (r.encodeEntry e)

/-- Reads a listing. -/
def decode (r : Resource) (octets : List UInt8) : Except DecodeError r.Message :=
  r.rule.decode [] octets

end Resource

namespace ChannelRequest

open Wire

/-- The request for channels declares no field. -/
def rule : Rule ChannelRequest where
  name := "ChannelRequest"
  field? _ := none

def encode (_ : ChannelRequest) : List UInt8 := []

def decode (octets : List UInt8) : Except DecodeError ChannelRequest := rule.decode {} octets

end ChannelRequest

namespace AdapterRequest

open Wire

def rule : Rule AdapterRequest where
  name := "AdapterRequest"
  field?
    | 1 => some (.varint "hz" fun n _ => { hz := n.toUInt32 })
    | _ => none

def encode (q : AdapterRequest) : List UInt8 := writeVarint 1 q.hz.toUInt64

def decode (octets : List UInt8) : Except DecodeError AdapterRequest := rule.decode {} octets

end AdapterRequest

end BrokerMonitor
