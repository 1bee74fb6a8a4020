import BrokerMonitor.BrokerStatus
import BrokerMonitor.Cell
/-!
# The status board

The board keeps the overall status and tells it in two ways: a watch sees the latest status, and a
listener is sent every status from the moment it registers, in order. A listener that has been
dropped is struck off when it is next sent something.
-/

namespace BrokerMonitor

/-- One listener's line: what it has been sent and has not yet taken. -/
structure Listener where
  inbox : List BrokerStatus
  /-- Somebody still reads the line. -/
  alive : Bool := true
  /-- The board still sends to the line. -/
  registered : Bool := true
deriving DecidableEq, Repr, Inhabited

namespace Listener

/-- Sends a status; a line that nobody reads is struck off instead. -/
def send (l : Listener) (s : BrokerStatus) : Listener :=
  if l.registered then
    if l.alive then { l with inbox := l.inbox ++ [s] } else { l with registered := false }
  else l

/-- Takes everything that was sent. -/
def take (l : Listener) : Listener × List BrokerStatus := ({ l with inbox := [] }, l.inbox)

/-- Nobody reads the line any more, and what it held is gone. -/
def drop (l : Listener) : Listener := { l with inbox := [], alive := false }

end Listener

/-- The overall status, and everyone who is told of it. A listener is known by its place. -/
structure StatusBoard where
  status : Cell BrokerStatus
  listeners : List Listener
deriving Repr, Inhabited

namespace StatusBoard

/-- The board before any connect. -/
def initial : StatusBoard := ⟨⟨.detached .initial, 0⟩, []⟩

def current (b : StatusBoard) : BrokerStatus := b.status.value

/-- Makes `s` the status, announces it, and sends it to every listener. -/
def publish (b : StatusBoard) (s : BrokerStatus) : StatusBoard :=
  ⟨b.status.announce s, b.listeners.map (·.send s)⟩

/-- Opens a generation. -/
def begin (b : StatusBoard) (g : Generation) (attached : Bool) : StatusBoard :=
  b.publish (.begin g attached)

/-- Takes a report; a stale one changes nothing and is told to nobody. -/
def report (b : StatusBoard) (r : Report) : StatusBoard :=
  match b.current.accept? r with
  | some s => b.publish s
  | none => b

/-- Takes reports in order. -/
def reportAll (b : StatusBoard) (reports : List Report) : StatusBoard := reports.foldl report b

/-- Registers a listener, whose first status is the current one. -/
def listen (b : StatusBoard) : StatusBoard × Nat :=
  ({ b with listeners := b.listeners ++ [{ inbox := [b.current] }] }, b.listeners.length)

/-- What listener `i` was sent since it last took something. -/
def take (b : StatusBoard) (i : Nat) : StatusBoard × List BrokerStatus :=
  match b.listeners[i]? with
  | some l => ({ b with listeners := b.listeners.set i l.take.1 }, l.take.2)
  | none => (b, [])

/-- Listener `i` is dropped. -/
def unlisten (b : StatusBoard) (i : Nat) : StatusBoard :=
  { b with listeners := b.listeners.modify i Listener.drop }

def inbox (b : StatusBoard) (i : Nat) : List BrokerStatus :=
  ((b.listeners[i]?).map (·.inbox)).getD []

@[simp] theorem current_publish (b : StatusBoard) (s : BrokerStatus) :
    (b.publish s).current = s := rfl

@[simp] theorem current_begin (b : StatusBoard) (g : Generation) (a : Bool) :
    (b.begin g a).current = .begin g a := rfl

@[simp] theorem current_listen (b : StatusBoard) : b.listen.1.current = b.current := rfl

@[simp] theorem current_unlisten (b : StatusBoard) (i : Nat) :
    (b.unlisten i).current = b.current := rfl

/-- A stale report changes nothing. -/
theorem report_of_stale {b : StatusBoard} {r : Report}
    (h : r.generation ≠ b.current.generation) : b.report r = b := by
  simp [report, BrokerStatus.accept?, h]

end StatusBoard

end BrokerMonitor
