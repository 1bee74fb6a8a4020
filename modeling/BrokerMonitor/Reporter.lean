import BrokerMonitor.Generation
import BrokerMonitor.Resource
import BrokerMonitor.StreamStatus
/-!
# Reporting a stream's progress

A reporter belongs to one stream. It passes on a status only when it is higher than every status
before it, so a repeated status is said once and a move backwards is not said at all.
-/

namespace BrokerMonitor

/-- What a stream says about itself: which resource, in which generation, has come how far. -/
structure Report where
  resource : Resource
  generation : Generation
  status : StreamStatus
deriving DecidableEq, Repr, Inhabited

/-- A stream's reporter, with the last status that it passed on. -/
structure Reporter where
  resource : Resource
  generation : Generation
  last : Option StreamStatus := none
deriving DecidableEq, Repr, Inhabited

namespace Reporter

/-- A status is news when it is the first one or above the last one passed on. -/
def isNews (r : Reporter) (s : StreamStatus) : Bool :=
  match r.last with
  | none => true
  | some l => decide (l < s)

/-- Reports a status: the reporter after it and the report passed on, if the status is news. -/
def report (r : Reporter) (s : StreamStatus) : Reporter × Option Report :=
  if r.isNews s then ({ r with last := some s }, some ⟨r.resource, r.generation, s⟩)
  else (r, none)

/-- Reports statuses in order, and collects what is passed on. -/
def reportAll (r : Reporter) : List StreamStatus → Reporter × List Report
  | [] => (r, [])
  | s :: rest =>
    let (r₁, told) := r.report s
    let (r₂, later) := r₁.reportAll rest
    (r₂, told.toList ++ later)

@[simp] theorem report_resource (r : Reporter) (s : StreamStatus) :
    (r.report s).1.resource = r.resource := by
  unfold report; split <;> rfl

@[simp] theorem report_generation (r : Reporter) (s : StreamStatus) :
    (r.report s).1.generation = r.generation := by
  unfold report; split <;> rfl

end Reporter

end BrokerMonitor
