import BrokerMonitor.Error.MonitorError
import BrokerMonitor.Monitor.StreamTask
import BrokerMonitor.StatusBoard
/-!
# The monitor

A monitor holds at most one connection and follows every resource over it. Each connect and each
shutdown opens a new generation: the tasks of the old one are cancelled, the slots are emptied, and
the status starts again, so that nothing of an old generation reaches the current state.

Besides the monitor itself the state holds what surrounds it: the broker's feeds, and everyone who
observes the status. The operations here change the state at once and run no task.
-/

namespace BrokerMonitor

/-- A party that is told every status, by a task of its own. -/
structure Observer where
  /-- The observer's place among the board's listeners. -/
  line : Nat
  heard : Log BrokerStatus := {}
  aborted : Bool := false
  finished : Bool := false
deriving Repr, Inhabited

/-- A task that can run: a stream task or an observer's, by its place. -/
inductive Job where
  | stream (i : Nat)
  | observer (i : Nat)
deriving DecidableEq, Repr, Inhabited

/-- The place of a feed. -/
structure FeedId where
  resource : Resource
  place : Nat
deriving DecidableEq, Repr, Inhabited

/-- A monitor with its broker and its observers. -/
structure Monitor where
  /-- The rate that the adapters stream is asked for, if one is configured. -/
  rate : Option UInt32
  /-- The monitor has not been dropped. -/
  alive : Bool := true
  /-- The generation of the latest connect or shutdown. -/
  generation : Generation := .initial
  handle : Option Handle := none
  /-- The places of the tasks of this generation. -/
  own : List Nat := []
  tasks : List StreamTask := []
  observers : List Observer := []
  board : StatusBoard := .initial
  store : Store := .initial
  /-- The error that the next attempt to make a transport fails with. -/
  refusal : Option StreamError := none
  feeds : EachResource Feeds := .build fun _ => []
  requests : Log StreamRequest := {}
  /-- The tasks that are ready, in the order in which they became so. -/
  queue : List Job := []

namespace Monitor

/-- A monitor before any connect. -/
def initial (rate : Option UInt32) : Monitor := { rate }

def status (m : Monitor) : BrokerStatus := m.board.current

def snapshot (m : Monitor) (r : Resource) : Snapshot r.Record := (m.store.get r).value

/-- Nobody can report to the board any more. -/
def boardGone (m : Monitor) : Bool :=
  !m.alive && m.tasks.all fun t => t.audience != .board || t.hasEnded

/-- Nobody can write to the store any more. -/
def storeGone (m : Monitor) : Bool := !m.alive && m.tasks.all (·.hasEnded)

/-! ### Readiness -/

/-- The feed that a task reads has an item or has ended. -/
def feedHasNews (m : Monitor) (t : StreamTask) : Bool :=
  match t.feed?.bind fun i => (m.feeds.get t.resource)[i]? with
  | some feed => feed.hasNews
  | none => false

/-- A stream task is ready when it has not started, when it was cancelled or aborted, and when its
feed has news. -/
def streamReady (m : Monitor) (t : StreamTask) : Bool :=
  !t.hasEnded && (t.phase == .spawned || t.cancelled || t.aborted || m.feedHasNews t)

/-- An observer is ready when it was sent something, when it was aborted, and when the board is
gone. -/
def observerReady (m : Monitor) (o : Observer) : Bool :=
  !o.finished && (o.aborted || !(m.board.inbox o.line).isEmpty || m.boardGone)

/-- A task that is there and ready. -/
def isReady (m : Monitor) : Job → Bool
  | .stream i => (m.tasks[i]?).any m.streamReady
  | .observer i => (m.observers[i]?).any m.observerReady

/-- Every task. -/
def jobs (m : Monitor) : List Job :=
  (List.range m.tasks.length).map .stream ++ (List.range m.observers.length).map .observer

/-- Queues the tasks that have become ready, behind those that were. -/
def enqueueReady (m : Monitor) : Monitor :=
  { m with queue := m.queue ++ m.jobs.filter fun j => m.isReady j && !m.queue.contains j }

/-! ### The broker -/

/-- Offers a feed for a host, in place of one that no stream has opened. -/
def offer (m : Monitor) (r : Resource) (host : String) : Monitor × FeedId :=
  ({ m with feeds := m.feeds.modify r (·.offer host) }, ⟨r, (m.feeds.get r).length⟩)

def feed? (m : Monitor) (id : FeedId) : Option (Feed id.resource) :=
  (m.feeds.get id.resource)[id.place]?

def modifyFeed (m : Monitor) (r : Resource) (i : Nat) (f : Feed r → Feed r) : Monitor :=
  { m with feeds := m.feeds.modify r fun fs => fs.modify i f }

/-- Nobody reads the feed any more. -/
def isAbandoned (m : Monitor) (id : FeedId) : Bool := (m.feed? id).any (·.isReleased)

/-- Sends an item; false if nobody will read it. -/
def send (m : Monitor) (id : FeedId) (item : id.resource.Item) : Monitor × Bool :=
  ((m.modifyFeed id.resource id.place (·.send item)).enqueueReady, !m.isAbandoned id)

/-- Ends a feed. -/
def close (m : Monitor) (id : FeedId) : Monitor :=
  (m.modifyFeed id.resource id.place (·.close)).enqueueReady

/-- The next attempt to make a transport fails with `e`. -/
def refuse (m : Monitor) (e : StreamError) : Monitor := { m with refusal := some e }

/-! ### The connection -/

/-- Cancels and aborts the tasks of this generation. -/
def abandonTasks (m : Monitor) : Monitor :=
  { m with tasks := m.own.foldl (fun ts i => ts.modify i (·.abort)) m.tasks, own := [] }

/-- Starts a task. -/
def spawn (m : Monitor) (t : StreamTask) : Monitor := { m with tasks := m.tasks ++ [t] }

/-- The task by which the monitor follows a resource in a generation. -/
def taskFor (m : Monitor) (g : Generation) (h : Option Handle) (r : Resource) : StreamTask :=
  match h with
  | some h => .attached r h (m.rate.getD 0) .board
  | none => .detached r g .board

/-- Opens a generation, with or without a connection. -/
def attach (m : Monitor) (g : Generation) (h : Option Handle) : Monitor :=
  let m := m.abandonTasks
  { m with
    store := m.store.reset g
    board := m.board.begin g h.isSome
    tasks := m.tasks ++ Resource.all.map (m.taskFor g h)
    own := (List.range Resource.all.length).map (m.tasks.length + ·)
    generation := g
    handle := h }.enqueueReady

/-- What a connect comes to. -/
inductive Connected where
  | ok (h : Handle)
  | error (e : MonitorError)
  /-- There is no generation left. -/
  | exhausted

/-- Connects to an endpoint. Where the text is no endpoint or no transport can be made, nothing
changes, except that a transport's refusal is used up. -/
def connect (m : Monitor) (url : String) : Monitor × Connected :=
  match Endpoint.parse url with
  | .error e => (m, .error (.ofStream e))
  | .ok endpoint =>
    match m.refusal with
    | some e => ({ m with refusal := none }, .error (.ofStream e))
    | none =>
      match m.generation.next? with
      | none => (m, .exhausted)
      | some g => (m.attach g (some ⟨g, endpoint⟩), .ok ⟨g, endpoint⟩)

/-- Lets go of the connection; there is no result when there is no generation left. -/
def shutdown? (m : Monitor) : Option Monitor := m.generation.next?.map fun g => m.attach g none

/-- Drops the monitor: its tasks are abandoned, and what it was stays as it is. -/
def drop (m : Monitor) : Monitor := { m.abandonTasks with alive := false }.enqueueReady

/-! ### Observers and clients -/

/-- Starts an observer, whose first status is the current one. -/
def observe (m : Monitor) : Monitor × Nat :=
  let (board, line) := m.board.listen
  let m' := { m with board, observers := m.observers ++ [({ line := line } : Observer)] }
  (m'.enqueueReady, m.observers.length)

/-- Aborts an observer. -/
def unobserve (m : Monitor) (i : Nat) : Monitor :=
  { m with observers := m.observers.modify i fun o => { o with aborted := true } }.enqueueReady

/-- Starts a client: a task besides the monitor's own, which keeps its own log. -/
def startClient (m : Monitor) (t : StreamTask) : Monitor × Nat :=
  ((m.spawn t).enqueueReady, m.tasks.length)

/-- A client over a connection. -/
def clientTask (m : Monitor) (r : Resource) (h : Handle) : StreamTask :=
  .attached r h (m.rate.getD 0) .log

/-- Cancels a task's token. -/
def cancel (m : Monitor) (i : Nat) : Monitor :=
  { m with tasks := m.tasks.modify i (·.cancel) }.enqueueReady

end Monitor

end BrokerMonitor
