import BrokerMonitor.Generation
import BrokerMonitor.Json.Struct
import BrokerMonitor.Json.Value
import BrokerMonitor.Record
import BrokerMonitor.StreamStatus
/-!
# Records as JSON

How channels, adapters, resources, statuses and generations are written as JSON and read back.
-/

namespace BrokerMonitor

namespace Channel

def json (c : Channel) : Json :=
  .object [("topic", .string c.topic), ("publishers", .strings c.publishers),
    ("subscribers", .strings c.subscribers), ("message_count", .number c.messageCount.toNat)]

/-- The fields of a channel as far as they have been read. -/
structure Parts where
  topic : Option String := none
  publishers : Option (List String) := none
  subscribers : Option (List String) := none
  messageCount : Option Nat := none

def Parts.channel (p : Parts) : Channel where
  topic := p.topic.getD ""
  publishers := p.publishers.getD []
  subscribers := p.subscribers.getD []
  messageCount := UInt32.ofNat (p.messageCount.getD 0)

open Json in
def structReader : StructReader Parts where
  name := "Channel"
  fields := [
    .of "topic" (·.topic) (fun v p => { p with topic := some v }) (readText "a string"),
    .of "publishers" (·.publishers) (fun v p => { p with publishers := some v })
      (readList (readText "a string")),
    .of "subscribers" (·.subscribers) (fun v p => { p with subscribers := some v })
      (readList (readText "a string")),
    .of "message_count" (·.messageCount) (fun v p => { p with messageCount := some v })
      (readNat UInt32.size "u32")]

/-- Reads a channel. -/
def readJson : Json.Reader Channel := fun text => do
  let (parts, rest) ← structReader.read {} text
  return (parts.channel, rest)

end Channel

namespace Adapter

def json (a : Adapter) : Json :=
  .object [("name", .string a.name), ("live", .bool a.live), ("description", .string a.description),
    ("stats", .strings a.stats)]

/-- The fields of an adapter as far as they have been read. -/
structure Parts where
  name : Option String := none
  live : Option Bool := none
  description : Option String := none
  stats : Option (List String) := none

def Parts.adapter (p : Parts) : Adapter where
  name := p.name.getD ""
  live := p.live.getD false
  description := p.description.getD ""
  stats := p.stats.getD []

open Json in
def structReader : StructReader Parts where
  name := "Adapter"
  fields := [
    .of "name" (·.name) (fun v p => { p with name := some v }) (readText "a string"),
    .of "live" (·.live) (fun v p => { p with live := some v }) readBool,
    .of "description" (·.description) (fun v p => { p with description := some v })
      (readText "a string"),
    .of "stats" (·.stats) (fun v p => { p with stats := some v })
      (readList (readText "a string"))]

/-- Reads an adapter. -/
def readJson : Json.Reader Adapter := fun text => do
  let (parts, rest) ← structReader.read {} text
  return (parts.adapter, rest)

end Adapter

namespace Resource

def json (r : Resource) : Json := .string r.name

/-- Reads the name of a resource. -/
def readJson : Json.Reader Resource := Json.readName ofName? (all.map name)

/-- A record of this resource. -/
def recordJson : (r : Resource) → r.Record → Json
  | .channels => Channel.json
  | .adapters => Adapter.json

/-- Reads a record of this resource. -/
def readRecord : (r : Resource) → Json.Reader r.Record
  | .channels => Channel.readJson
  | .adapters => Adapter.readJson

end Resource

namespace StreamStatus

def json (s : StreamStatus) : Json := .string s.name

/-- Reads the name of a status. -/
def readJson : Json.Reader StreamStatus := Json.readName ofName? (all.map name)

end StreamStatus

namespace Generation

def json (g : Generation) : Json := .number g.toNat

/-- Reads a generation. -/
def readJson : Json.Reader Generation := fun text => do
  let (n, rest) ← Json.readNat UInt64.size "u64" text
  return (⟨UInt64.ofNat n⟩, rest)

end Generation

end BrokerMonitor
