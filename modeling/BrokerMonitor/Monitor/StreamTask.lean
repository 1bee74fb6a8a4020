import BrokerMonitor.Log
import BrokerMonitor.Monitor.Feed
import BrokerMonitor.Monitor.Handle
import BrokerMonitor.Reporter
import BrokerMonitor.Snapshot
/-!
# Stream tasks

A stream task follows one resource over one connection. It says that it is connecting, opens its
stream, and puts each message into the resource's slot until the stream ends or fails, the task is
cancelled, or the slot has moved on to another generation. A task without a connection says that it
is idle and ends.
-/

namespace BrokerMonitor

/-- How a stream task ended. -/
inductive Outcome where
  /-- There was no connection. -/
  | idle
  /-- The stream ended by itself. -/
  | completed (messages : Nat)
  | failed (messages : Nat) (reason : String)
  /-- The task was cancelled, or its generation was over. -/
  | superseded (messages : Nat)
deriving DecidableEq, Repr, Inhabited

namespace Outcome

/-- How many messages the task put into its slot. -/
def messages : Outcome → Nat
  | .idle => 0
  | .completed n => n
  | .failed n _ => n
  | .superseded n => n

end Outcome

/-- What a reading task changes: its slot, its reporter, its reports and its count. -/
structure Reading (r : Resource) where
  slot : Slot r.Record
  reporter : Reporter
  reports : List Report := []
  accepted : Nat

namespace Reading

variable {r : Resource}

/-- Says a status, if it is news. -/
def report (p : Reading r) (s : StreamStatus) : Reading r :=
  let (reporter, told) := p.reporter.report s
  { p with reporter, reports := p.reports ++ told.toList }

/-- Puts a message of generation `g` into the slot, unless the slot has moved on. -/
def accept? (p : Reading r) (g : Generation) (m : r.Message) : Option (Reading r) :=
  (p.slot.replace? g (r.listing m)).map fun slot =>
    { p with slot, accepted := p.accepted + 1 }.report .streaming

/-- Reads the pending items in order, and the end if the stream is `closed` after them. There is no
outcome when the task has to wait for more. -/
def consume (g : Generation) (closed : Bool) : List r.Item → Reading r → Reading r × Option Outcome
  | [], p => (p, if closed then some (.completed p.accepted) else none)
  | .error e :: _, p => (p, some (.failed p.accepted e.message))
  | .ok m :: rest, p =>
    match p.accept? g m with
    | none => (p, some (.superseded p.accepted))
    | some p => consume g closed rest p

end Reading

/-- Who is told what a stream task reports. -/
inductive Audience where
  /-- The monitor's status board. -/
  | board
  /-- The task's own log. -/
  | log
deriving DecidableEq, Repr, Inhabited

/-- How far a stream task is. -/
inductive TaskPhase where
  | spawned
  /-- The stream is open; without a feed it stays silent for ever. -/
  | reading (feed : Option Nat)
  /-- The task is over, with no outcome if it was aborted. -/
  | ended (outcome : Option Outcome)
deriving DecidableEq, Repr, Inhabited

/-- A task that follows one resource. -/
structure StreamTask where
  resource : Resource
  /-- The connection, if there is one. -/
  target : Option Handle
  /-- The rate that the adapters stream is asked for; 0 leaves it to the broker. -/
  rate : UInt32
  audience : Audience
  reporter : Reporter
  log : Log Report := {}
  accepted : Nat := 0
  /-- The task's token was cancelled: it ends before it reads another item. -/
  cancelled : Bool := false
  /-- The task was aborted: it ends when it is next run. -/
  aborted : Bool := false
  phase : TaskPhase := .spawned
deriving Repr

/-- A stream that was opened: for which host, about what, and at which rate if it has one. -/
structure StreamRequest where
  host : String
  resource : Resource
  rate : Option UInt32
deriving DecidableEq, Repr, Inhabited

namespace StreamTask

/-- A task that follows a resource over a connection. -/
def attached (r : Resource) (h : Handle) (rate : UInt32) (audience : Audience) : StreamTask where
  resource := r
  target := some h
  rate
  audience
  reporter := { resource := r, generation := h.generation }

/-- A task of a generation without a connection. -/
def detached (r : Resource) (g : Generation) (audience : Audience) : StreamTask where
  resource := r
  target := none
  rate := 0
  audience
  reporter := { resource := r, generation := g }

def generation (t : StreamTask) : Generation := t.reporter.generation

def hasEnded (t : StreamTask) : Bool := t.phase matches .ended _

def outcome? (t : StreamTask) : Option Outcome :=
  match t.phase with
  | .ended outcome => outcome
  | _ => none

/-- The place of the feed that the task holds. -/
def feed? (t : StreamTask) : Option Nat :=
  match t.phase with
  | .reading feed => feed
  | _ => none

/-- Cancels the task's token. -/
def cancel (t : StreamTask) : StreamTask := { t with cancelled := true }

/-- Cancels the task's token and aborts the task. -/
def abort (t : StreamTask) : StreamTask := { t with cancelled := true, aborted := true }

/-- The stream that the task opens on a connection. Channels have no rate. -/
def request (t : StreamTask) (h : Handle) : StreamRequest where
  host := h.endpoint.host
  resource := t.resource
  rate := match t.resource with
    | .channels => none
    | .adapters => some t.rate

end StreamTask

end BrokerMonitor
