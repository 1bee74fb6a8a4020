import BrokerMonitor.Error.MonitorError
/-!
# Errors of a command

What a run of the program can fail with. Each error has a text, an exit code by which scripts tell
the causes apart, a diagnostic code, and sometimes a hint for the reader.
-/

namespace BrokerMonitor

/-- An error that ends a run of the program. -/
inductive CommandError where
  /-- The address is no endpoint. -/
  | invalidUrl (url reason : String)
  /-- No transport could be made for the address. -/
  | connectionFailed (url reason : String)
  /-- What was waited for did not come in time. -/
  | timeout (url waitingFor : String) (seconds : UInt64)
  /-- A setting has a value that it cannot have. -/
  | validation (field reason : String)
  /-- The settings cannot be read; a file that is not well-formed at all has no reason. -/
  | config (reason : Option String)
  /-- The output cannot be written as JSON. -/
  | json (reason : String)
deriving DecidableEq, Repr, Inhabited

namespace CommandError

/-- The text of an error; there is none for a settings file that is not well-formed. -/
def message : CommandError → Option String
  | .invalidUrl url reason => some ("Invalid broker URL '" ++ url ++ "': " ++ reason)
  | .connectionFailed url reason =>
    some ("Could not reach broker admin service at " ++ url ++ ": " ++ reason)
  | .timeout url waitingFor seconds =>
    some ("No " ++ waitingFor ++ " from " ++ url ++ " after " ++ Nat.repr seconds.toNat ++ "s")
  | .validation field reason => some ("Invalid value for " ++ field ++ ": " ++ reason)
  | .config reason => reason
  | .json reason => some ("Could not serialize output: " ++ reason)

/-- The exit code: 2 for an invalid value, 7 and 8 for the broker, 1 for the rest. -/
def exitCode : CommandError → UInt8
  | .invalidUrl .. => 2
  | .connectionFailed .. => 7
  | .timeout .. => 8
  | .validation .. => 2
  | .config _ => 1
  | .json _ => 1

/-- The diagnostic code without the name of the program. -/
def diagnostic : CommandError → String
  | .invalidUrl .. => "invalid_url"
  | .connectionFailed .. => "connection_failed"
  | .timeout .. => "timeout"
  | .validation .. => "validation"
  | .config _ => "config"
  | .json _ => "json"

/-- The diagnostic code in full. -/
def code (e : CommandError) : String := "victory_admin::" ++ e.diagnostic

def help : CommandError → Option String
  | .invalidUrl .. =>
    some "Pass an http(s) URL with a host, e.g. --url http://localhost:5050"
  | .connectionFailed url _ =>
    some ("Check that the broker is running with its admin service enabled.\nURL: " ++ url)
  | .timeout .. =>
    some ("Increase the wait with --wait, or run \x60victory-admin status\x60 to see which " ++
      "streams are up.")
  | .validation .. => none
  | .config _ => none
  | .json _ => none

/-- An error of the monitor as an error of a command. A transport failure does not say for which
address it was. -/
def ofMonitor : MonitorError → CommandError
  | .invalidEndpoint url reason => .invalidUrl url reason
  | .transportFailure reason => .connectionFailed "(unknown)" reason
  | .invalidStatusCode code =>
    .validation "status code" (Nat.repr code.toNat ++ " is not a stream status")

end CommandError

end BrokerMonitor
