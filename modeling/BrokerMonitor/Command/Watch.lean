import BrokerMonitor.Scenario
import BrokerMonitor.Output.Render
/-!
# Watching

Whoever watches a monitor is told the status at once, and from then on every change of the status
and of each listing, as its latest value. There are three sources of news, and `handle` takes up one
of them; in which order they are taken up is left open.
-/

namespace BrokerMonitor

/-- One piece of news: the status, or the listing of a resource. -/
inductive Update where
  | status (s : BrokerStatus)
  | listing (r : Resource) (records : List r.Record)

namespace Update

/-- An update in a format. -/
def render (format : OutputFormat) (url : String) (coloured : Bool) : Update → String
  | .status s => Output.renderStatus format url coloured s
  | .listing r records => Output.renderListing format r records

end Update

/-- The format of a log: JSON takes one line for each entry. -/
def OutputFormat.inLog : OutputFormat → OutputFormat
  | .table => .table
  | .json => .jsonCompact
  | .jsonCompact => .jsonCompact

/-- Where news can come from. -/
inductive Source where
  | status
  | listing (r : Resource)
deriving DecidableEq, Repr, Inhabited

namespace Source

/-- Every source, the status first. -/
def all : List Source := .status :: Resource.all.map .listing

theorem mem_all (s : Source) : s ∈ all := by
  cases s with
  | status => exact .head _
  | listing r => exact .tail _ (List.mem_map_of_mem (Resource.mem_all r))

end Source

/-- A party that watches a monitor: what it has seen of each source. -/
structure Watch where
  status : Receiver
  listings : EachResource fun _ => Receiver

namespace Watch

/-- Starts to watch a monitor. The first update is its status. -/
def start (m : Monitor) : Watch × Update :=
  (⟨m.board.status.subscribe, .build fun r => (m.store.get r).subscribe⟩, .status m.status)

/-- A source has news. -/
def isReady (w : Watch) (m : Monitor) : Source → Bool
  | .status => !m.board.status.seenBy w.status
  | .listing r => !(m.store.get r).seenBy (w.listings.get r)

/-- Takes up the news of a source, if there are any. -/
def handle (w : Watch) (m : Monitor) : Source → Watch × Option Update
  | .status =>
    match m.board.status.poll false w.status with
    | (.fresh s, status) => ({ w with status }, some (.status s))
    | _ => (w, none)
  | .listing r =>
    match (m.store.get r).poll false (w.listings.get r) with
    | (.fresh s, receiver) =>
      ({ w with listings := w.listings.set r receiver }, some (.listing r s.records))
    | _ => (w, none)

/-- Takes up the news of some sources, one after the other. -/
def handleAll (w : Watch) (m : Monitor) : List Source → Watch × List Update
  | [] => (w, [])
  | source :: rest =>
    let (w, update) := w.handle m source
    let (w, updates) := handleAll w m rest
    (w, update.toList ++ updates)

/-- The updates at each of some states, all news of a state being taken up before the next. -/
def follow (w : Watch) : List (Timed Monitor) → List (Timed Update)
  | [] => []
  | state :: later =>
    let (w, updates) := w.handleAll state.value Source.all
    updates.map (⟨state.time, ·⟩) ++ w.follow later

end Watch

end BrokerMonitor
