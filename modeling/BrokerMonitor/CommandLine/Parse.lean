import BrokerMonitor.CommandLine.Option
import BrokerMonitor.Environment
import BrokerMonitor.Text.Integer
/-!
# Reading the command line

Words are read from left to right: options, then a command, then more options. An option is given at
most once before and once after the command, and the one after it counts; `--verbose` is counted
instead. What is not given is taken from the environment, whose variables have to be well-formed
unless the option is given both before and after the command.
-/

namespace BrokerMonitor.CommandLine

/-- Why a command line is not carried out. -/
inductive Refusal where
  | help
  | version (text : String)
  /-- Nothing at all was asked for. -/
  | nothingGiven
  | noCommand
  | unknownCommand
  | unknownArgument
  /-- A value is missing, or is none of those that can be chosen. -/
  | unsuitableValue
  /-- A value is not of the form that it has to have. -/
  | malformedValue
  /-- An option is given twice. -/
  | repeated
  /-- An option that takes no value is given one. -/
  | unwantedValue
deriving DecidableEq, Repr, Inhabited

namespace Refusal

/-- Asking for help or for the version is no failure. -/
def exitCode : Refusal → UInt8
  | .help => 0
  | .version _ => 0
  | _ => 2

/-- The text that is answered; help texts are left out. -/
def message? : Refusal → Option String
  | .version text => some text
  | _ => none

end Refusal

/-- What is given in one place. -/
structure Given where
  url : Option String := none
  hz : Option UInt32 := none
  config : Option String := none
  output : Option OutputFormat := none
  color : Option ColorMode := none
  connectTimeout : Option UInt64 := none
  wait : Option UInt64 := none
  verbose : Option UInt8 := none
  quiet : Option Bool := none
deriving DecidableEq, Repr, Inhabited

/-! ### Values -/

def readUrl (text : String) : Except Refusal String := .ok text

def readHz (text : String) : Except Refusal UInt32 :=
  match Text.word32? text with
  | some n => .ok n
  | none => .error .malformedValue

/-- Reads the name of a file, which cannot be empty. -/
def readConfig (text : String) : Except Refusal String :=
  if text.isEmpty then .error .unsuitableValue else .ok text

def readOutput (text : String) : Except Refusal OutputFormat :=
  match OutputFormat.ofName? text with
  | some f => .ok f
  | none => .error .unsuitableValue

def readColor (text : String) : Except Refusal ColorMode :=
  match ColorMode.ofName? text with
  | some m => .ok m
  | none => .error .unsuitableValue

def readSeconds (text : String) : Except Refusal UInt64 :=
  match Text.word64? text with
  | some n => .ok n
  | none => .error .malformedValue

/-- Reads the value of an option that must not have been given before. -/
def once {α : Type} (before : Option α) (value : Except Refusal α) : Except Refusal (Option α) :=
  match before with
  | some _ => .error .repeated
  | none => value.map some

namespace Given

/-- Gives an option that takes a value. -/
def put (g : Given) (text : String) : Flag → Except Refusal Given
  | .url => (once g.url (readUrl text)).map fun url => { g with url }
  | .hz => (once g.hz (readHz text)).map fun hz => { g with hz }
  | .config => (once g.config (readConfig text)).map fun config => { g with config }
  | .output => (once g.output (readOutput text)).map fun output => { g with output }
  | .color => (once g.color (readColor text)).map fun color => { g with color }
  | .connectTimeout =>
    (once g.connectTimeout (readSeconds text)).map fun connectTimeout => { g with connectTimeout }
  | .wait => (once g.wait (readSeconds text)).map fun wait => { g with wait }
  | .verbose | .quiet | .help | .version => .error .unwantedValue

/-- One more, as far as an octet counts. -/
def countUp (count : Option UInt8) : UInt8 :=
  match count with
  | none => 1
  | some n => if n = 255 then 255 else n + 1

/-- Gives an option that takes no value. -/
def raise (g : Given) (l : Level) : Flag → Except Refusal Given
  | .verbose => .ok { g with verbose := some (countUp g.verbose) }
  | .quiet => (once g.quiet (.ok true)).map fun quiet => { g with quiet }
  | .help => .error .help
  | .version => .error (.version l.versionText)
  | _ => .error .unsuitableValue

/-- What is not given here is what is given there. -/
def orElse (g h : Given) : Given where
  url := g.url <|> h.url
  hz := g.hz <|> h.hz
  config := g.config <|> h.config
  output := g.output <|> h.output
  color := g.color <|> h.color
  connectTimeout := g.connectTimeout <|> h.connectTimeout
  wait := g.wait <|> h.wait
  verbose := g.verbose <|> h.verbose
  quiet := g.quiet <|> h.quiet

/-- Takes what is not given from the environment. -/
def fromEnvironment (g : Given) (env : Environment) : Except Refusal Given := do
  let look {α : Type} (given : Option α) (name : String) (read : String → Except Refusal α) :
      Except Refusal (Option α) :=
    match given, env.own name with
    | some a, _ => .ok (some a)
    | none, none => .ok none
    | none, some text => (read text).map some
  let url ← look g.url "URL" readUrl
  let hz ← look g.hz "HZ" readHz
  let config ← look g.config "CONFIG" readConfig
  let output ← look g.output "OUTPUT" readOutput
  return { g with url, hz, config, output }

end Given

/-! ### Words -/

/-- What has been read in one place. -/
structure Progress where
  given : Given := {}
  /-- The latest option that takes its value from the next word, and that word if it has come. -/
  pending : Option (Flag × Option String) := none

namespace Progress

/-- The next word may be the value of an option. -/
def awaits (p : Progress) : Bool :=
  match p.pending with
  | some (_, none) => true
  | _ => false

/-- Takes the latest option, which has to have its value by now. -/
def flush (p : Progress) : Except Refusal Given :=
  match p.pending with
  | none => .ok p.given
  | some (_, none) => .error .unsuitableValue
  | some (f, some text) => p.given.put text f

/-- An option with its value. -/
def put (p : Progress) (f : Flag) (text : String) : Except Refusal Progress := do
  return { given := ← (← p.flush).put text f }

/-- An option whose value is the next word. -/
def await (p : Progress) (f : Flag) : Except Refusal Progress := do
  return { given := ← p.flush, pending := some (f, none) }

/-- An option without a value. -/
def raise (p : Progress) (l : Level) (f : Flag) : Except Refusal Progress := do
  return { given := ← (← p.flush).raise l f }

/-- The value of the option that waits for one. -/
def supply (p : Progress) (text : String) : Progress :=
  { p with pending := p.pending.map fun (f, _) => (f, some text) }

/-- Reads the letters after one dash. The first option that takes a value takes the rest of the
word, less an equals sign at its start, or else the next word. -/
def letters (l : Level) : List Char → Progress → Except Refusal Progress
  | [], p => .ok p
  | c :: rest, p =>
    match l.ofLetter? c with
    | none => .error .unknownArgument
    | some f =>
      if f.takesValue then
        match rest with
        | [] => p.await f
        | '=' :: value => p.put f (String.ofList value)
        | value => p.put f (String.ofList value)
      else do letters l rest (← p.raise l f)

/-- Reads what stands after two dashes: a name, and a value after an equals sign. -/
def long (l : Level) (text : List Char) (p : Progress) : Except Refusal Progress :=
  let name := text.takeWhile (· != '=')
  match l.ofLongName? (String.ofList name) with
  | none => .error .unknownArgument
  | some f =>
    match text.dropWhile (· != '=') with
    | _ :: value => if f.takesValue then p.put f (String.ofList value) else .error .unwantedValue
    | [] => if f.takesValue then p.await f else p.raise l f

end Progress

/-- A word that is no option and no value. Before a command it looks like an unknown one. -/
def strayWord (l : Level) (afterDashes : Bool) (word : String) : Refusal :=
  match l with
  | .command _ => .unknownArgument
  | .program =>
    if afterDashes && (word == "help" || (Command.ofName? word).isSome) then .unknownArgument
    else .unknownCommand

/-- Answers `help` and the names of commands after it. -/
def helpFor : List String → Refusal
  | [] => .help
  | [word] =>
    if word == "help" || (Command.ofName? word).isSome then .help else .unknownCommand
  | _ => .unknownCommand

/-- Reads words in one place, up to a command or to the end. -/
def readWords (l : Level) : List String → Progress →
    Except Refusal (Progress × Option (Command × List String))
  | [], p => .ok (p, none)
  | word :: rest, p =>
    let command? := if l = .program ∧ !p.awaits then Command.ofName? word else none
    match command? with
    | some c => .ok (p, some (c, rest))
    | none =>
      if l = .program ∧ !p.awaits ∧ word = "help" then .error (helpFor rest)
      else match word.toList with
        | ['-', '-'] =>
          match rest with
          | [] => .ok (p, none)
          | word :: _ => .error (strayWord l true word)
        | '-' :: '-' :: name => do readWords l rest (← p.long l name)
        | '-' :: c :: letters => do readWords l rest (← p.letters l (c :: letters))
        | _ =>
          if p.awaits then readWords l rest (p.supply word) else .error (strayWord l false word)

/-! ### The whole command line -/

/-- How long commands wait unless they are told, in seconds. -/
def defaultWait : UInt64 := 10

/-- A command line that can be carried out. -/
structure Options where
  command : Command
  /-- How long the command waits, in seconds, if it does. -/
  wait : Option UInt64
  url : Option String
  hz : Option UInt32
  config : Option String
  output : Option OutputFormat
  color : ColorMode
  connectTimeout : Option UInt64
  verbose : UInt8
  quiet : Bool
deriving DecidableEq, Repr, Inhabited

/-- The options of a command and what is given with it. -/
def Given.options (g : Given) (c : Command) : Options where
  command := c
  wait := if c.waits then some (g.wait.getD defaultWait) else none
  url := g.url
  hz := g.hz
  config := g.config
  output := g.output
  color := g.color.getD .auto
  connectTimeout := g.connectTimeout
  verbose := g.verbose.getD 0
  quiet := g.quiet.getD false

/-- Reads a command line. -/
def parse (words : List String) (env : Environment) : Except Refusal Options := do
  match ← readWords .program words {} with
  | (before, some (c, rest)) =>
    let (after, _) ← readWords (.command c) rest {}
    let after ← after.flush
    let _ ← after.fromEnvironment env
    let before ← before.flush
    let _ ← before.fromEnvironment env
    return (← (after.orElse before).fromEnvironment env).options c
  | (before, none) =>
    let before ← (← before.flush).fromEnvironment env
    if before = {} then .error .nothingGiven else .error .noCommand

end BrokerMonitor.CommandLine
