import BrokerMonitor.Monitor.Schedule
/-!
# Scenarios

A scenario says what a broker does: whether a transport to it can be made, and what its streams
yield at which time. Played to a monitor that has just connected, it gives a course: the states that
the monitor goes through, one for each time at which something happens. Times are in milliseconds
after the connect.
-/

namespace BrokerMonitor

/-- A value with the time that it belongs to. -/
structure Timed (α : Type) where
  time : Nat
  value : α
deriving DecidableEq, Repr, Inhabited

namespace Timed

variable {α : Type}

/-- What happens in the order of the list: nothing comes before what stands ahead of it. -/
def inOrder (now : Nat) : List (Timed α) → List (Timed α)
  | [] => []
  | e :: later => { e with time := max now e.time } :: inOrder (max now e.time) later

@[simp] theorem length_inOrder (now : Nat) (es : List (Timed α)) :
    (inOrder now es).length = es.length := by
  induction es generalizing now with
  | nil => rfl
  | cons e es ih => simp [inOrder, ih]

theorem le_time_of_mem_inOrder {now : Nat} {es : List (Timed α)} {e : Timed α}
    (h : e ∈ inOrder now es) : now ≤ e.time := by
  induction es generalizing now with
  | nil => simp [inOrder] at h
  | cons e' es ih =>
    simp only [inOrder, List.mem_cons] at h
    rcases h with rfl | h
    · exact Nat.le_max_left ..
    · exact Nat.le_trans (Nat.le_max_left ..) (ih h)

end Timed

/-- What can happen on a stream: it yields an item, or it ends. -/
inductive StreamEvent (r : Resource) where
  | item (i : r.Item)
  | finished

/-- What happens on a stream, and when. -/
abbrev StreamEvents (r : Resource) := List (Timed (StreamEvent r))

/-- The states that a monitor goes through once it has connected. -/
structure Course where
  /-- The monitor right after the connect, before any of its tasks has run. -/
  start : Monitor
  /-- The monitor after each time at which something happens. -/
  later : List (Timed Monitor)

namespace Course

/-- The states with their times, the first one at time zero. -/
def states (c : Course) : List (Timed Monitor) := ⟨0, c.start⟩ :: c.later

/-- The state that the course ends with. -/
def last (c : Course) : Monitor := (c.later.getLast?.map (·.value)).getD c.start

/-- The part of a course before a time; its start always belongs to it. -/
def before (c : Course) (time : Nat) : Course :=
  { c with later := c.later.takeWhile (·.time < time) }

@[simp] theorem start_before (c : Course) (time : Nat) : (c.before time).start = c.start := rfl

@[simp] theorem later_before_zero (c : Course) : (c.before 0).later = [] := by
  unfold before
  cases c.later <;> simp

end Course

/-- What a broker does. -/
structure Scenario where
  /-- The error with which making a transport fails. -/
  refusal? : Endpoint → Option StreamError := fun _ => none
  streams : EachResource StreamEvents := .build fun _ => []
  /-- The adapters stream starts with a message that repeats the rate it was asked for. -/
  repeatsRate : Bool := false

namespace Scenario

/-- The scenario in which nobody listens at any address: a transport is made as ever, and every
stream fails at once. What the library that secures connections says of an endpoint is left
open. -/
def unreachable (secure? : Endpoint → Option String := fun _ => none) : Scenario where
  refusal? e := match e.transport secure? with
    | .ok () => none
    | .error e => some e
  streams := .build fun _ => [⟨0, .item (.error (.status .unavailable "tcp connect error"))⟩]

/-- The message that repeats a rate: one adapter, named for it. -/
def rateMessage (rate : UInt32) : Resource.adapters.Message :=
  [{ name := "hz=" ++ Nat.repr rate.toNat }]

/-- What happens on the streams that are asked for with a rate. -/
def events (s : Scenario) (rate : UInt32) : EachResource StreamEvents where
  channels := Timed.inOrder 0 s.streams.channels
  adapters :=
    (if s.repeatsRate then [⟨0, .item (.ok (rateMessage rate))⟩] else []) ++
      Timed.inOrder 0 s.streams.adapters

/-- The times at which something happens, in order; there is always something to do at first. -/
def times (events : EachResource StreamEvents) : List Nat :=
  ((0 :: events.channels.map (·.time) ++ events.adapters.map (·.time)).mergeSort).eraseReps

/-- What happens at one time on one stream, which reads the feed at `place`. Nothing comes after its
end. -/
def deliver (r : Resource) (place : Nat) (m : Monitor) : List (StreamEvent r) → Monitor
  | [] => m
  | .item i :: rest => deliver r place (m.send ⟨r, place⟩ i).1 rest
  | .finished :: _ => m.close ⟨r, place⟩

/-- What happens at one time on all streams, and then every task that is ready. -/
def happen (events : EachResource StreamEvents) (places : EachResource fun _ => Nat) (time : Nat)
    (m : Monitor) : Monitor :=
  (Resource.all.foldl (fun m r =>
    deliver r (places.get r) m (((events.get r).filter (·.time == time)).map (·.value))) m).settle

/-- What happens at some times, one after the other. -/
def statesAfter (events : EachResource StreamEvents) (places : EachResource fun _ => Nat) :
    List Nat → Monitor → List (Timed Monitor)
  | [], _ => []
  | time :: rest, m =>
    let m := happen events places time m
    ⟨time, m⟩ :: statesAfter events places rest m

/-- The course of a monitor that has just connected. -/
def play (s : Scenario) (m : Monitor) (h : Handle) : Course :=
  let (m, channels) := m.offer .channels h.endpoint.host
  let (m, adapters) := m.offer .adapters h.endpoint.host
  let events := s.events (m.rate.getD 0)
  ⟨m, statesAfter events ⟨channels.place, adapters.place⟩ (times events) m⟩

/-- Connects a monitor to an address in this scenario. -/
def connect (s : Scenario) (m : Monitor) (url : String) : Monitor × Monitor.Connected :=
  match (Endpoint.parse url).toOption.bind s.refusal? with
  | some e => (m.refuse e).connect url
  | none => m.connect url

end Scenario

end BrokerMonitor
