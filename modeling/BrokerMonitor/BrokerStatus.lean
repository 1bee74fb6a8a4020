import BrokerMonitor.Reporter
/-!
# Overall status

The status of a connection as a whole is folded from the reports of its streams. `begin` opens a
generation with every resource idle; `accept?` takes one report of that generation. The first
`streaming` report ends the loading and makes the connection connected, and it stays so until the
next `begin`.
-/

namespace BrokerMonitor

/-- Coarse phase of a connection. -/
inductive Phase where
  | disconnected
  | connecting
  | connected
deriving DecidableEq, Repr, Inhabited

def Phase.name : Phase → String
  | .disconnected => "disconnected"
  | .connecting => "connecting"
  | .connected => "connected"

/-- The status of a connection as a whole. -/
structure BrokerStatus where
  /-- A connect was issued and no resource has delivered yet. -/
  loading : Bool
  /-- Some resource has delivered since the last connect. -/
  connected : Bool
  /-- How far each resource stream has come. -/
  streams : ResourceMap StreamStatus
  /-- The generation that the rest is about. -/
  generation : Generation
deriving DecidableEq, Repr, Inhabited

namespace BrokerStatus

/-- The status without a handle: every resource idle, nothing loading. -/
def detached (g : Generation) : BrokerStatus := ⟨false, false, .const .idle, g⟩

/-- The status that a generation starts with; it is loading when a handle is attached. -/
def begin (g : Generation) (attached : Bool) : BrokerStatus :=
  { detached g with loading := attached }

/-- A resource that is not listed counts as idle. -/
def statusOf (s : BrokerStatus) (r : Resource) : StreamStatus := (s.streams.get? r).getD .idle

def phase (s : BrokerStatus) : Phase :=
  if s.loading then .connecting else if s.connected then .connected else .disconnected

/-- Every stream of generation `g` has delivered. -/
def isFullyUp (s : BrokerStatus) (g : Generation) : Bool :=
  s.generation == g && s.streams.values.all (·.isUp)

/-- Takes one report; a report of another generation is stale and is not taken. -/
def accept? (s : BrokerStatus) (report : Report) : Option BrokerStatus :=
  if report.generation = s.generation then
    let streams := s.streams.insert report.resource report.status
    let up := streams.values.any (·.isUp)
    some { s with streams, loading := s.loading && !up, connected := s.connected || up }
  else none

@[simp] theorem generation_detached (g : Generation) : (detached g).generation = g := rfl

@[simp] theorem generation_begin (g : Generation) (a : Bool) : (begin g a).generation = g := rfl

@[simp] theorem statusOf_detached (g : Generation) (r : Resource) :
    (detached g).statusOf r = .idle := by
  simp [detached, statusOf]

@[simp] theorem statusOf_begin (g : Generation) (a : Bool) (r : Resource) :
    (begin g a).statusOf r = .idle := by
  simp [begin, statusOf, detached]

/-- A report is taken exactly when it carries the current generation. -/
theorem accept?_isSome_iff (s : BrokerStatus) (report : Report) :
    (s.accept? report).isSome = true ↔ report.generation = s.generation := by
  unfold accept?; split <;> simp_all

theorem generation_of_accept? {s t : BrokerStatus} {report : Report}
    (h : s.accept? report = some t) : t.generation = s.generation := by
  unfold accept? at h
  split at h
  · cases h; rfl
  · cases h

end BrokerStatus

end BrokerMonitor
