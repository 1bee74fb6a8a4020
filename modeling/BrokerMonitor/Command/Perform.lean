import BrokerMonitor.Command.Wait
import BrokerMonitor.Command.Watch
import BrokerMonitor.Settings.Resolve
/-!
# Commands

A command sees the course of a monitor that has connected, up to the moment when the command's time
is over. The two listings wait for the first listing of their resource, `status` waits until every
stream is up, and `watch` follows all news until it is interrupted. What they print is cut into
pieces, each with the time at which it is printed.
-/

namespace BrokerMonitor

namespace Course

/-- The first state that shows a listing of generation `g`, among those that a subscriber gets to
look at. -/
def firstListing? (c : Course) (r : Resource) (g : Generation) : Option (Timed Monitor) :=
  Cell.await (fun state => state.value.store.get r) (·.isListingOf g)
    (c.start.store.get r).subscribe c.states

/-- The first state in which every stream of generation `g` is up, among those that a watch of the
status gets to look at. -/
def firstFullyUp? (c : Course) (g : Generation) : Option (Timed Monitor) :=
  Cell.await (·.value.board.status) (·.isFullyUp g) c.start.board.status.subscribe c.states

end Course

/-- What a command waits for, in words. -/
def Resource.awaited : Resource → String
  | .channels => "channel listing"
  | .adapters => "adapter listing"

/-- What a command works with. -/
structure CommandContext where
  options : CommandLine.Options
  resolved : Resolved
  handle : Handle
  coloured : Bool

/-- How a command ended: what it has printed and when, when it ended and in which state of the
monitor, and what it failed with. A command that only an interrupt would end has no end without
one. -/
structure Ending where
  printed : List (Timed String)
  time : Option Nat
  monitor : Monitor
  failure : Option CommandError := none

namespace CommandContext

/-- What goes to standard output for a text at a time, if anything does. -/
def print (p : CommandContext) (text : Timed String) : List (Timed String) :=
  [{ text with value := Output.printed p.options.quiet text.value }].filter (!·.value.isEmpty)

/-- Ends with a text printed at a state. -/
def printOnce (p : CommandContext) (state : Timed Monitor) (text : String) : Ending where
  printed := p.print ⟨state.time, text⟩
  time := some state.time
  monitor := state.value

/-- Prints the first listing that arrives, within so many seconds. -/
def list (p : CommandContext) (r : Resource) (wait : UInt64) (c : Course) : Ending :=
  let c := c.before (1000 * wait.toNat)
  match c.firstListing? r p.handle.generation with
  | some state => p.printOnce state
      (Output.renderListing p.resolved.output r (state.value.snapshot r).records)
  | none => {
      printed := []
      time := some (1000 * wait.toNat)
      monitor := c.last
      failure := some (.timeout p.handle.endpoint.text r.awaited wait) }

/-- Prints the status once every stream is up, or after so many seconds. -/
def status (p : CommandContext) (wait : UInt64) (c : Course) : Ending :=
  let c := c.before (1000 * wait.toNat)
  let state := (c.firstFullyUp? p.handle.generation).getD ⟨1000 * wait.toNat, c.last⟩
  p.printOnce state (Output.renderStatus p.resolved.output p.handle.endpoint.text p.coloured
    state.value.status)

/-- Prints all news until the interrupt. -/
def watch (p : CommandContext) (interrupt : Option Nat) (c : Course) : Ending :=
  let c := match interrupt with
    | some time => c.before time
    | none => c
  let (w, first) := Watch.start c.start
  let updates := ⟨0, first⟩ :: w.follow c.states
  { printed := updates.flatMap fun u => p.print { u with
      value := u.value.render p.resolved.output.inLog p.handle.endpoint.text p.coloured }
    time := interrupt
    monitor := c.last }

/-- Carries out a command. -/
def perform (p : CommandContext) (interrupt : Option Nat) (c : Course) : Ending :=
  let wait := p.options.wait.getD CommandLine.defaultWait
  match p.options.command with
  | .watch => p.watch interrupt c
  | .channels => p.list .channels wait c
  | .adapters => p.list .adapters wait c
  | .status => p.status wait c

end CommandContext

end BrokerMonitor
