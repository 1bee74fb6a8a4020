import BrokerMonitor.Error.StreamError
import BrokerMonitor.Wire.Message
/-!
# Feeds

A feed is the broker's end of one stream. It is offered for a host until a stream opens it or
another feed is offered for the same host. What is sent waits in the feed for its reader; once the
reader has let go of the feed, nothing more can be sent.
-/

namespace BrokerMonitor

/-- What a stream yields: a message, or the error that it fails with. -/
abbrev Resource.Item (r : Resource) : Type := Except StreamError r.Message

/-- Who reads a feed. -/
inductive Reader where
  /-- No stream has opened the feed yet. -/
  | offered
  /-- A stream reads the feed. -/
  | held
  /-- Nobody will read the feed any more. -/
  | released
deriving DecidableEq, Repr, Inhabited

/-- The broker's end of one stream. -/
structure Feed (r : Resource) where
  host : String
  pending : List r.Item := []
  /-- Nothing more will be sent. -/
  closed : Bool := false
  reader : Reader := .offered

namespace Feed

variable {r : Resource}

/-- The feed is on offer for a host. -/
def isOffered (f : Feed r) (host : String) : Bool := f.reader == .offered && f.host == host

def isReleased (f : Feed r) : Bool := f.reader == .released

/-- The reader lets go, and what was pending is lost. -/
def release (f : Feed r) : Feed r := { f with pending := [], reader := .released }

/-- Puts an item in, unless nobody will read it. -/
def send (f : Feed r) (item : r.Item) : Feed r :=
  if f.isReleased then f else { f with pending := f.pending ++ [item] }

/-- Ends the feed: after what is pending nothing more comes. -/
def close (f : Feed r) : Feed r := { f with closed := true }

/-- A reader would get something: an item or the end. -/
def hasNews (f : Feed r) : Bool := !f.pending.isEmpty || f.closed

/-- A reader takes everything that is pending. -/
def drain (f : Feed r) : Feed r := { f with pending := [] }

@[simp] theorem isReleased_release (f : Feed r) : f.release.isReleased = true := by
  simp [release, isReleased]

theorem pending_send {f : Feed r} (h : f.isReleased = false) (item : r.Item) :
    (f.send item).pending = f.pending ++ [item] := by
  simp [send, h]

@[simp] theorem reader_send (f : Feed r) (item : r.Item) : (f.send item).reader = f.reader := by
  unfold send
  split <;> rfl

@[simp] theorem closed_send (f : Feed r) (item : r.Item) : (f.send item).closed = f.closed := by
  unfold send
  split <;> rfl

end Feed

/-- The feeds of one resource, each known by its place. -/
abbrev Feeds (r : Resource) := List (Feed r)

namespace Feeds

variable {r : Resource}

/-- Offers a new feed for a host, in place of one that no stream has opened. -/
def offer (fs : Feeds r) (host : String) : Feeds r :=
  (fs.map fun f => if f.isOffered host then f.release else f) ++ [({ host := host } : Feed r)]

/-- The place of the feed on offer for a host. -/
def offered? (fs : Feeds r) (host : String) : Option Nat := fs.findIdx? (·.isOffered host)

/-- A stream opens the feed at a place. -/
def hold (fs : Feeds r) (i : Nat) : Feeds r := fs.modify i fun f => { f with reader := .held }

@[simp] theorem length_offer (fs : Feeds r) (host : String) :
    (fs.offer host).length = fs.length + 1 := by
  simp [offer]

end Feeds

end BrokerMonitor
