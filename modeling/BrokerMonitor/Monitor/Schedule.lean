import BrokerMonitor.Monitor.State
/-!
# Running tasks

`run` runs one task until it has to wait or ends. `settle` runs ready tasks, first in first out,
until none is ready. It ends because a stream task that has run is not ready again until the broker
or a caller does something, and an observer becomes ready only by what a stream task reports.
-/

namespace BrokerMonitor.Monitor

/-- Tells reports to those whom a task reports to. -/
def tell (m : Monitor) (i : Nat) (audience : Audience) (reports : List Report) : Monitor :=
  match audience with
  | .board => { m with board := m.board.reportAll reports }
  | .log => { m with
      tasks := m.tasks.modify i fun t => { t with log := t.log.add reports } }

def setPhase (m : Monitor) (i : Nat) (phase : TaskPhase) : Monitor :=
  { m with tasks := m.tasks.modify i fun t => { t with phase } }

/-- Reports a status for task `i`, if it is news. -/
def reportFor (m : Monitor) (i : Nat) (t : StreamTask) (s : StreamStatus) : Monitor :=
  let (reporter, told) := t.reporter.report s
  { m with tasks := m.tasks.modify i fun t => { t with reporter } }.tell i t.audience told.toList

/-- Lets go of the feed that a task holds. -/
def releaseFeed (m : Monitor) (t : StreamTask) : Monitor :=
  match t.feed? with
  | some place => m.modifyFeed t.resource place (·.release)
  | none => m

/-- Ends task `i`. -/
def finish (m : Monitor) (i : Nat) (t : StreamTask) (outcome : Option Outcome) : Monitor :=
  (m.releaseFeed t).setPhase i (.ended outcome)

/-- Opens the stream of task `i`, which then holds the feed on offer for its host, if any. -/
def openStream (m : Monitor) (i : Nat) (t : StreamTask) (h : Handle) : Monitor :=
  let request := t.request h
  let place := (m.feeds.get t.resource).offered? request.host
  { m with
    requests := m.requests.add [request]
    feeds := match place with
      | some place => m.feeds.modify t.resource (·.hold place)
      | none => m.feeds
    tasks := m.tasks.modify i fun t => { t with phase := .reading place } }

/-- Task `i` takes what feed `place` holds. -/
def readFeed (m : Monitor) (i : Nat) (t : StreamTask) (place : Nat) : Monitor :=
  match (m.feeds.get t.resource)[place]? with
  | none => m
  | some feed =>
    let start : Reading t.resource := ⟨m.store.get t.resource, t.reporter, [], t.accepted⟩
    let (reading, outcome) := Reading.consume t.generation feed.closed feed.pending start
    let m := { m with
      store := m.store.set t.resource reading.slot
      feeds := m.feeds.modify t.resource fun fs => fs.modify place (·.drain)
      tasks := m.tasks.modify i fun t =>
        { t with reporter := reading.reporter, accepted := reading.accepted } }
    let m := m.tell i t.audience reading.reports
    match outcome with
    | none => m
    | some outcome => m.finish i t (some outcome)

/-- Task `i` goes on with its open stream. Cancellation comes before any item. -/
def continueStream (m : Monitor) (i : Nat) : Monitor :=
  match m.tasks[i]? with
  | none => m
  | some t =>
    if t.cancelled then m.finish i t (some (.superseded t.accepted))
    else match t.feed? with
      | none => m
      | some place => m.readFeed i t place

/-- Runs stream task `i`. -/
def runStream (m : Monitor) (i : Nat) : Monitor :=
  match m.tasks[i]? with
  | none => m
  | some t =>
    if t.hasEnded then m
    else if t.aborted then m.finish i t none
    else if t.phase = .spawned then
      match t.target with
      | none => (m.reportFor i t .idle).finish i t (some .idle)
      | some h => ((m.reportFor i t .connecting).openStream i t h).continueStream i
    else m.continueStream i

/-- Runs observer `i`: it hears what it was sent, and ends with the board. -/
def runObserver (m : Monitor) (i : Nat) : Monitor :=
  match m.observers[i]? with
  | none => m
  | some o =>
    if o.finished then m
    else if o.aborted then
      { m with
        board := m.board.unlisten o.line
        observers := m.observers.modify i fun o => { o with finished := true } }
    else
      let (board, sent) := m.board.take o.line
      { m with
        board
        observers := m.observers.modify i fun o =>
          { o with heard := o.heard.add sent, finished := m.boardGone } }

/-- Runs a task, and queues those that become ready by it. -/
def run (m : Monitor) (j : Job) : Monitor :=
  let m := { m with queue := m.queue.erase j }
  (match j with
    | .stream i => m.runStream i
    | .observer i => m.runObserver i).enqueueReady

/-- Runs the tasks of the queue, first in first out, at most `runs` of them. -/
def settleWithin (m : Monitor) : Nat → Monitor
  | 0 => m
  | runs + 1 =>
    match m.queue with
    | [] => m
    | j :: _ => (m.run j).settleWithin runs

/-- More runs than it can take until no task is ready: each stream task runs at most once, and each
observer at most once between two runs of stream tasks. -/
def settleBound (m : Monitor) : Nat := (m.tasks.length + 1) * (m.observers.length + 1)

/-- Runs ready tasks, first in first out, until none is ready. -/
def settle (m : Monitor) : Monitor := m.settleWithin m.settleBound

/-- No task is ready. -/
def isSettled (m : Monitor) : Bool := m.jobs.all fun j => !m.isReady j

end BrokerMonitor.Monitor
