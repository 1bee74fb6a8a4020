import BrokerMonitor.Command.Run
import BrokerMonitor.Text.Utf8
/-!
# The program

Reads the arguments, the variables and the settings file, runs the command and prints what the run
has printed, each piece at its time. There is no network here: every stream is one that nobody
answers, so that the program shows what it does while its broker is down.
-/

namespace BrokerMonitor

/-- The variables that are set, in the order of the system's list. -/
def readVariables : IO Environment := do
  let octets := (← IO.FS.readBinFile "/proc/self/environ").toList
  let lines := (octets.splitOn 0).filterMap Utf8.decode?
  return .ofList (lines.filterMap Environment.readLine?)

/-- Where the settings are looked for if no file is named. -/
def settingsFile : IO String := do
  let home ← match ← IO.getEnv "XDG_CONFIG_HOME" with
    | some folder => pure folder
    | none => pure (((← IO.getEnv "HOME").getD "") ++ "/.config")
  return home ++ "/victory-admin/config.toml"

/-- The text of a file, if it can be read. -/
def readText? (path : String) : IO (Option String) :=
  try
    return some (← IO.FS.readFile path)
  catch _ =>
    return none

/-- Waits from one time to another, in milliseconds. -/
def waitUntil (now time : Nat) : IO Unit := IO.sleep (min (time - now) (UInt32.size - 1)).toUInt32

/-- Prints each piece at its time, and gives the time of the last one. -/
def printAll (now : Nat) : List (Timed String) → IO Nat
  | [] => return now
  | piece :: rest => do
    waitUntil now piece.time
    IO.print piece.value
    (← IO.getStdout).flush
    printAll (max now piece.time) rest

/-- Prints what a run has printed, and waits for its end, for ever if it has none. -/
def showRun (run : Run) : IO UInt32 := do
  let now ← printAll 0 run.printed
  match run.time with
  | some time => waitUntil now time
  | none => while true do IO.sleep 60000
  if let some e := run.failure then
    IO.eprintln (e.code ++ "\n" ++ (e.message.getD "The settings file is not well-formed"))
    if let some help := e.help then IO.eprintln help
  return run.exitCode.toUInt32

/-- Answers a command line that is not carried out. -/
def showRefusal (r : CommandLine.Refusal) : IO UInt32 := do
  let text := r.message?.getD CommandLine.usage
  if r.exitCode = 0 then IO.print text else IO.eprint text
  return r.exitCode.toUInt32

end BrokerMonitor

open BrokerMonitor in
def main (words : List String) : IO UInt32 := do
  let env ← readVariables
  match CommandLine.parse words env with
  | .error r => showRefusal r
  | .ok o =>
    let path ← match o.config with
      | some path => pure path
      | none => settingsFile
    let file ← readText? path
    let terminal ← (← IO.getStdout).isTty
    showRun (o.run { env, file, terminal, broker := .unreachable })
