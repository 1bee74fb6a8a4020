import BrokerMonitor.Environment
import BrokerMonitor.Error.CommandError
import BrokerMonitor.Settings.Variable
import BrokerMonitor.Toml.Document
/-!
# Settings

Settings come from the variables, from the settings file, and from what is built in, in this order:
a variable hides what the file says, even where that is no value for the setting.
-/

namespace BrokerMonitor

/-- The settings of the program. Times are in seconds. -/
structure Settings where
  url : String := "http://localhost:5050"
  /-- How often adapters are sampled; the broker decides if it is not given. -/
  adapterHz : Option UInt32 := none
  connectTimeout : Option UInt64 := none
  tcpKeepalive : Option UInt64 := none
  output : String := "table"
deriving DecidableEq, Repr, Inhabited

namespace Settings

/-- Where the value of a setting was found. -/
inductive Source where
  | file
  | variable
deriving DecidableEq, Repr, Inhabited

/-- How a message names a setting and where its value was found. -/
def Source.place (key : String) : Source → String
  | .file => "for key \"default." ++ key ++ "\" in <config> TOML file"
  | .variable =>
    "for key \"" ++ key.toUpper ++ "\" in \x60" ++ Environment.scope ++
      "\x60 environment variable(s)"

/-- The first source that gives a setting, and the value. -/
def find (file : Toml.Entries) (env : Environment) (key : String) : Option (Source × Raw) :=
  ((env.setting key).map fun text => (.variable, Variable.read text)) <|>
  ((file.lookup key).map fun v => (.file, Raw.ofToml v))

/-- The value of a setting, if any source gives one. -/
def get? {α : Type} (read : Raw → Except Raw.Misfit α) (file : Toml.Entries) (env : Environment)
    (key : String) : Except CommandError (Option α) :=
  match find file env key with
  | none => .ok none
  | some (source, raw) =>
    match read raw with
    | .ok a => .ok (some a)
    | .error m => .error (.config (some (m.message ++ " " ++ source.place key)))

/-- The settings of a file and of the variables. They are checked in the order of their names. -/
def ofEntries (file : Toml.Entries) (env : Environment) : Except CommandError Settings := do
  let built : Settings := {}
  let adapterHz ← get? Raw.asWord32 file env "adapter_hz"
  let connectTimeout ← get? Raw.asWord64 file env "connect_timeout"
  let output ← get? Raw.asText file env "output"
  let tcpKeepalive ← get? Raw.asWord64 file env "tcp_keepalive"
  let url ← get? Raw.asText file env "url"
  return {
    url := url.getD built.url
    adapterHz
    connectTimeout
    tcpKeepalive
    output := output.getD built.output }

/-- Loads the settings. A file that is missing says nothing; one that is not well-formed is an
error. -/
def load (file : Option String) (env : Environment) : Except CommandError Settings :=
  match file with
  | none => ofEntries [] env
  | some text =>
    match Toml.parse text with
    | some entries => ofEntries entries env
    | none => .error (.config none)

end Settings

end BrokerMonitor
