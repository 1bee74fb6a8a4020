import BrokerMonitor.Command.Perform
/-!
# Runs of the program

A run reads the settings, connects a monitor, carries out one command and shuts the monitor down
again, also where the command has failed. It ends with an exit code: zero, or that of its failure.
-/

namespace BrokerMonitor

/-- What the program meets outside of its command line. -/
structure Surroundings where
  env : Environment
  /-- The text of the settings file, if there is one. -/
  file : Option String := none
  broker : Scenario := {}
  /-- Standard output goes to a terminal. -/
  terminal : Bool := false
  /-- When the program is interrupted, in milliseconds after the connect. -/
  interrupt : Option Nat := none

/-- Whether standard output shows colours. -/
def Surroundings.showsColour (s : Surroundings) : Bool :=
  s.terminal && (s.env (.exact "NO_COLOR")).isNone

/-- What a run comes to. -/
structure Run where
  printed : List (Timed String) := []
  time : Option Nat := some 0
  failure : Option CommandError := none
  /-- The monitor after its shutdown, if it had connected. -/
  monitor : Option Monitor := none

namespace Run

def exitCode (r : Run) : UInt8 :=
  match r.failure with
  | none => 0
  | some e => e.exitCode

/-- Everything that goes to standard output. -/
def stdout (r : Run) : String := String.join (r.printed.map (·.value))

def ofFailure (e : CommandError) : Run := { failure := some e }

/-- A run whose command has ended: the monitor is shut down. -/
def ofEnding (e : Ending) : Run where
  printed := e.printed
  time := e.time
  failure := e.failure
  monitor := e.monitor.shutdown?

end Run

namespace CommandError

/-- The error of a failed connect: a transport failure is said to be at the address as given. -/
def ofConnect (url : String) : MonitorError → CommandError
  | .transportFailure reason => .connectionFailed url reason
  | e => .ofMonitor e

end CommandError

namespace CommandLine.Options

/-- Runs the program with settings that are resolved. -/
def runResolved (o : Options) (r : Resolved) (s : Surroundings) : Run :=
  match s.broker.connect (.initial r.adapterHz) r.url with
  | (_, .error e) => .ofFailure (.ofConnect r.url e)
  | (_, .exhausted) => {}
  | (m, .ok h) =>
    let context : CommandContext := ⟨o, r, h, o.color.isOn s.showsColour⟩
    .ofEnding (context.perform s.interrupt (s.broker.play m h))

/-- Runs the program. -/
def run (o : Options) (s : Surroundings) : Run :=
  match (Settings.load s.file s.env).bind (·.resolve o) with
  | .error e => .ofFailure e
  | .ok r => o.runResolved r s

end CommandLine.Options

end BrokerMonitor
