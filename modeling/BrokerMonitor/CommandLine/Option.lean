/-!
# What can be asked for on the command line

The output formats, the colour modes, the commands and the options, with their names.
-/

namespace BrokerMonitor

/-- How listings and statuses are written. -/
inductive OutputFormat where
  | table
  /-- JSON over several lines. -/
  | json
  /-- JSON in one line. -/
  | jsonCompact
deriving DecidableEq, Repr, Inhabited

namespace OutputFormat

def all : List OutputFormat := [.table, .json, .jsonCompact]

def name : OutputFormat → String
  | .table => "table"
  | .json => "json"
  | .jsonCompact => "json-compact"

/-- The format of a name, which has to be spelled exactly. -/
def ofName? (text : String) : Option OutputFormat := all.find? (·.name == text)

@[simp] theorem ofName?_name (f : OutputFormat) : ofName? f.name = some f := by cases f <;> rfl

end OutputFormat

/-- When output is coloured. -/
inductive ColorMode where
  | auto
  | always
  | never
deriving DecidableEq, Repr, Inhabited

namespace ColorMode

def all : List ColorMode := [.auto, .always, .never]

def name : ColorMode → String
  | .auto => "auto"
  | .always => "always"
  | .never => "never"

def ofName? (text : String) : Option ColorMode := all.find? (·.name == text)

/-- Whether output is coloured, where `terminal` says that it goes to one that shows colours. -/
def isOn (terminal : Bool) : ColorMode → Bool
  | .auto => terminal
  | .always => true
  | .never => false

end ColorMode

/-- What the program is to do. -/
inductive Command where
  | watch
  | channels
  | adapters
  | status
deriving DecidableEq, Repr, Inhabited

namespace Command

def all : List Command := [.watch, .channels, .adapters, .status]

def name : Command → String
  | .watch => "watch"
  | .channels => "channels"
  | .adapters => "adapters"
  | .status => "status"

/-- The short name of a command. -/
def shortName : Command → String
  | .watch => "w"
  | .channels => "ch"
  | .adapters => "ad"
  | .status => "st"

/-- The command of a name or a short name. -/
def ofName? (text : String) : Option Command :=
  all.find? fun c => c.name == text || c.shortName == text

/-- The command waits for the broker for a limited time. -/
def waits : Command → Bool
  | .watch => false
  | _ => true

end Command

namespace CommandLine

/-- An option. -/
inductive Flag where
  | url
  | hz
  | config
  | output
  | color
  | connectTimeout
  | verbose
  | quiet
  | wait
  | help
  | version
deriving DecidableEq, Repr, Inhabited

namespace Flag

/-- The options that are understood before and after the command. -/
def common : List Flag :=
  [.url, .hz, .config, .output, .color, .connectTimeout, .verbose, .quiet, .help, .version]

def longName : Flag → String
  | .url => "url"
  | .hz => "hz"
  | .config => "config"
  | .output => "output"
  | .color => "color"
  | .connectTimeout => "connect-timeout"
  | .verbose => "verbose"
  | .quiet => "quiet"
  | .wait => "wait"
  | .help => "help"
  | .version => "version"

def letter? : Flag → Option Char
  | .url => some 'u'
  | .output => some 'o'
  | .verbose => some 'v'
  | .quiet => some 'q'
  | .help => some 'h'
  | .version => some 'V'
  | _ => none

def takesValue : Flag → Bool
  | .verbose | .quiet | .help | .version => false
  | _ => true

end Flag

/-- A place on the command line: before the command, or after it. -/
inductive Level where
  | program
  | command (c : Command)
deriving DecidableEq, Repr, Inhabited

namespace Level

/-- The options that are understood here. -/
def flags : Level → List Flag
  | .program => Flag.common
  | .command c => (if c.waits then [.wait] else []) ++ Flag.common

def ofLongName? (l : Level) (name : String) : Option Flag := l.flags.find? (·.longName == name)

def ofLetter? (l : Level) (c : Char) : Option Flag := l.flags.find? (·.letter? == some c)

/-- The name and the version of the program, and of the command if the question comes after one. -/
def versionText : Level → String
  | .program => "victory-admin 0.1.0\n"
  | .command c => "victory-admin-" ++ c.name ++ " 0.1.0\n"

end Level

/-- How the program is called. -/
def usage : String :=
  "Usage: victory-admin [OPTIONS] <" ++ "|".intercalate (Command.all.map (·.name)) ++ ">\n"

end CommandLine

end BrokerMonitor
