import BrokerMonitor.Monitor.Schedule
import BrokerMonitor.Roster
import BrokerMonitor.Subscription
/-!
# Sessions

A session is a monitor together with names for the feeds, handles, observers, watches, followers and
clients around it. `act` carries out one action on named things and gives its answer. No task runs
in an action, except that `run` runs one ready task and `settle` all of them.
-/

namespace BrokerMonitor

/-- What the broker's side does. -/
inductive BrokerAction where
  | offer (name : String) (host : String) (r : Resource)
  | send (name : String) (r : Resource) (message : r.Message)
  | fail (name : String) (e : StreamError)
  | close (name : String)
  | isAbandoned (name : String)
  | refuse (e : StreamError)
  | requests

/-- What is done about the connection. -/
inductive ConnectionAction where
  | connect (name : String) (url : String)
  | shutdown
  | isSame (a b : String)
  | drop

/-- What those do who look at the status and the listings. -/
inductive SubscriberAction where
  | observe (name : String)
  | seen (name : String)
  | unobserve (name : String)
  | watch (name : String)
  | watched (name : String)
  | subscribe (name : String) (r : Resource)
  | current (name : String)
  | latest (name : String)
  | changed (name : String)
  | intoStream (name : String)
  | next (name : String)

/-- What is done about clients, which follow a resource beside the monitor's own tasks. -/
inductive ClientAction where
  /-- Starts a client over a kept handle. -/
  | startOver (name : String) (r : Resource) (handle : String)
  /-- Starts a client of a generation, without a connection. -/
  | startDetached (name : String) (r : Resource) (g : Generation)
  | cancel (name : String)
  | state (name : String)

/-- One step of a session. -/
inductive Action where
  | broker (a : BrokerAction)
  | connection (a : ConnectionAction)
  | subscriber (a : SubscriberAction)
  | client (a : ClientAction)
  | run (j : Job)
  | settle

/-- Which part of an action names something that is not there. -/
inductive Missing where
  | name
  | handle
  | first
  | second
deriving DecidableEq, Repr, Inhabited

/-- The answer to an action. -/
inductive Answer where
  | done
  | said (yes : Bool)
  | missing (what : Missing)
  /-- The thing of that name cannot do this. -/
  | unable
  /-- The monitor has been dropped. -/
  | dropped
  /-- There is no generation left. -/
  | exhausted
  | refused (e : MonitorError)
  | connected (h : Handle)
  | requested (streams : List StreamRequest)
  | seen (statuses : List BrokerStatus) (finished : Bool)
  | change (c : Change BrokerStatus)
  | snapshot (r : Resource) (s : Snapshot r.Record)
  | next (r : Resource) (n : Next r.Record)
  | client (reports : List Report) (outcome : Option Outcome)

/-- A party that follows one resource's listings by polling. -/
inductive Follower where
  | subscription (r : Resource) (s : Subscription r.Record)
  | stream (r : Resource) (s : ListingStream)

/-- A monitor and the names of what is around it. -/
structure Session where
  monitor : Monitor
  feeds : Roster FeedId := {}
  handles : Roster Handle := {}
  observers : Roster Nat := {}
  watches : Roster Receiver := {}
  followers : Roster Follower := {}
  clients : Roster Nat := {}

namespace Session

/-- A session with a monitor that nothing has happened to. -/
def start (rate : Option UInt32) : Session := { monitor := .initial rate }

/-- Does something with the thing of a name. -/
def withNamed {α : Type} (s : Session) (roster : Roster α) (name : String)
    (k : α → Session × Answer) : Session × Answer :=
  match roster.get? name with
  | some a => k a
  | none => (s, .missing .name)

/-! ### The broker -/

/-- Names a new feed. A feed that had the name ends, as nobody can send to it any more. -/
def offer (s : Session) (name : String) (host : String) (r : Resource) : Session :=
  let (monitor, id) := s.monitor.offer r host
  let monitor := match s.feeds.get? name with
    | some old => monitor.close old
    | none => monitor
  { s with monitor, feeds := s.feeds.put name id }

/-- Puts an item in a feed. -/
def sendTo (s : Session) (id : FeedId) (item : id.resource.Item) : Session × Answer :=
  let (monitor, taken) := s.monitor.send id item
  ({ s with monitor }, .said taken)

def actBroker (s : Session) : BrokerAction → Session × Answer
  | .offer name host r => (s.offer name host r, .done)
  | .send name r message => s.withNamed s.feeds name fun id =>
    if h : r = id.resource then s.sendTo id (.ok (h ▸ message)) else (s, .unable)
  | .fail name e => s.withNamed s.feeds name fun id => s.sendTo id (.error e)
  | .close name =>
    match s.feeds.get? name with
    | some id =>
      ({ s with monitor := s.monitor.close id, feeds := s.feeds.erase name }, .said true)
    | none => (s, .said false)
  | .isAbandoned name => s.withNamed s.feeds name fun id =>
    (s, .said (s.monitor.isAbandoned id))
  | .refuse e => ({ s with monitor := s.monitor.refuse e }, .done)
  | .requests =>
    let (requests, news) := s.monitor.requests.read
    ({ s with monitor := { s.monitor with requests } }, .requested news)

/-! ### The connection -/

def connect (s : Session) (name : String) (url : String) : Session × Answer :=
  match s.monitor.connect url with
  | (monitor, .ok h) => ({ s with monitor, handles := s.handles.put name h }, .connected h)
  | (monitor, .error e) => ({ s with monitor }, .refused e)
  | (monitor, .exhausted) => ({ s with monitor }, .exhausted)

def actConnection (s : Session) : ConnectionAction → Session × Answer
  | .connect name url => if s.monitor.alive then s.connect name url else (s, .dropped)
  | .shutdown =>
    if s.monitor.alive then
      match s.monitor.shutdown? with
      | some monitor => ({ s with monitor }, .done)
      | none => (s, .exhausted)
    else (s, .dropped)
  | .isSame a b =>
    match s.handles.get? a, s.handles.get? b with
    | none, _ => (s, .missing .first)
    | some _, none => (s, .missing .second)
    | some a, some b => (s, .said (a.isSame b))
  | .drop =>
    if s.monitor.alive then ({ s with monitor := s.monitor.drop }, .said true)
    else (s, .said false)

/-! ### Subscribers -/

/-- What an observer has heard since it was last asked, and whether its task has ended. -/
def seen (s : Session) (i : Nat) : Session × Answer :=
  match s.monitor.observers[i]? with
  | none => (s, .missing .name)
  | some o =>
    let (heard, news) := o.heard.read
    let observers := s.monitor.observers.set i { o with heard }
    ({ s with monitor := { s.monitor with observers } }, .seen news o.finished)

/-- Asks a subscription for the next change. -/
def changed (s : Session) (name : String) (r : Resource) (f : Subscription r.Record) :
    Session × Answer :=
  let (f, next) := f.changed (s.monitor.store.get r) s.monitor.storeGone
  ({ s with followers := s.followers.put name (.subscription r f) }, .next r next)

/-- Asks a stream of listings for its next item. -/
def next (s : Session) (name : String) (r : Resource) (f : ListingStream) : Session × Answer :=
  let (f, next) := f.next (s.monitor.store.get r) s.monitor.storeGone
  ({ s with followers := s.followers.put name (.stream r f) }, .next r next)

def actSubscriber (s : Session) : SubscriberAction → Session × Answer
  | .observe name =>
    if s.monitor.alive then
      let (monitor, i) := s.monitor.observe
      ({ s with monitor, observers := s.observers.put name i }, .done)
    else (s, .dropped)
  | .seen name => s.withNamed s.observers name s.seen
  | .unobserve name => s.withNamed s.observers name fun i =>
    ({ s with monitor := s.monitor.unobserve i }, .done)
  | .watch name =>
    if s.monitor.alive then
      ({ s with watches := s.watches.put name s.monitor.board.status.subscribe }, .done)
    else (s, .dropped)
  | .watched name => s.withNamed s.watches name fun w =>
    let (change, w) := s.monitor.board.status.poll s.monitor.boardGone w
    ({ s with watches := s.watches.put name w }, .change change)
  | .subscribe name r =>
    if s.monitor.alive then
      let f := Follower.subscription r (.start (s.monitor.store.get r))
      ({ s with followers := s.followers.put name f }, .done)
    else (s, .dropped)
  | .current name => s.withNamed s.followers name fun
    | .subscription r f => (s, .snapshot r f.current)
    | .stream .. => (s, .unable)
  | .latest name => s.withNamed s.followers name fun
    | .subscription r _ => (s, .snapshot r (s.monitor.snapshot r))
    | .stream .. => (s, .unable)
  | .changed name => s.withNamed s.followers name fun
    | .subscription r f => s.changed name r f
    | .stream .. => (s, .unable)
  | .intoStream name => s.withNamed s.followers name fun
    | .subscription r f =>
      ({ s with followers := s.followers.put name (.stream r f.intoStream) }, .done)
    | .stream .. => (s, .unable)
  | .next name => s.withNamed s.followers name fun
    | .subscription .. => (s, .unable)
    | .stream r f => s.next name r f

/-! ### Clients -/

/-- Names a new client. A client that had the name goes on without it. -/
def startClient (s : Session) (name : String) (t : StreamTask) : Session × Answer :=
  let (monitor, i) := s.monitor.startClient t
  ({ s with monitor, clients := s.clients.put name i }, .done)

/-- What a client has reported since it was last asked, and how it ended. -/
def clientState (s : Session) (i : Nat) : Session × Answer :=
  match s.monitor.tasks[i]? with
  | none => (s, .missing .name)
  | some t =>
    let (log, news) := t.log.read
    let tasks := s.monitor.tasks.set i { t with log }
    ({ s with monitor := { s.monitor with tasks } }, .client news t.outcome?)

def actClient (s : Session) : ClientAction → Session × Answer
  | .startOver name r handle =>
    if s.monitor.alive then
      match s.handles.get? handle with
      | some h => s.startClient name (s.monitor.clientTask r h)
      | none => (s, .missing .handle)
    else (s, .dropped)
  | .startDetached name r g =>
    if s.monitor.alive then s.startClient name (.detached r g .log) else (s, .dropped)
  | .cancel name => s.withNamed s.clients name fun i =>
    ({ s with monitor := s.monitor.cancel i }, .done)
  | .state name => s.withNamed s.clients name s.clientState

/-! ### Actions -/

/-- Carries out one action. -/
def act (s : Session) : Action → Session × Answer
  | .broker a => s.actBroker a
  | .connection a => s.actConnection a
  | .subscriber a => s.actSubscriber a
  | .client a => s.actClient a
  | .run j =>
    if s.monitor.isReady j then ({ s with monitor := s.monitor.run j }, .done) else (s, .unable)
  | .settle => ({ s with monitor := s.monitor.settle }, .done)

/-- The session after a run of actions. -/
def actAll (s : Session) (actions : List Action) : Session :=
  actions.foldl (fun s a => (s.act a).1) s

/-- The answers of a run of actions. -/
def answers (s : Session) : List Action → List Answer
  | [] => []
  | a :: rest =>
    let (s, answer) := s.act a
    answer :: s.answers rest

/-- The resource of the feed of a name. -/
def feedResource? (s : Session) (name : String) : Option Resource :=
  (s.feeds.get? name).map (·.resource)

end Session

end BrokerMonitor
