import BrokerMonitor.CommandLine.Parse
import BrokerMonitor.Settings.Load
/-!
# What a command works with

What the command line says, directly or by its own variables, comes before the settings.
-/

namespace BrokerMonitor

/-- What a command works with. Times are in seconds. -/
structure Resolved where
  /-- The broker's address, which is checked on connecting. -/
  url : String
  output : OutputFormat
  adapterHz : Option UInt32
  connectTimeout : Option UInt64
  tcpKeepalive : Option UInt64
deriving DecidableEq, Repr, Inhabited

/-- The output format of a setting, whatever the case of its letters. -/
def OutputFormat.ofSetting (text : String) : Except CommandError OutputFormat :=
  match OutputFormat.ofName? text.toLower with
  | some f => .ok f
  | none => .error (.validation "output"
      ("expected 'table', 'json' or 'json-compact', got '" ++ text ++ "'"))

/-- What a command line and settings amount to. -/
def Settings.resolve (s : Settings) (o : CommandLine.Options) : Except CommandError Resolved := do
  let output ← match o.output with
    | some f => .ok f
    | none => OutputFormat.ofSetting s.output
  return {
    url := o.url.getD s.url
    output
    adapterHz := o.hz <|> s.adapterHz
    connectTimeout := o.connectTimeout <|> s.connectTimeout
    tcpKeepalive := s.tcpKeepalive }

end BrokerMonitor
