import BrokerMonitor.Error.StreamError
import BrokerMonitor.Url.Web
/-!
# Endpoints

The address of a broker's admin service: a web address in normal form. A text is read without the
blanks around it, and a refusal quotes it with them.
-/

namespace BrokerMonitor

/-- The address of a broker's admin service. -/
structure Endpoint where
  url : Url.Web
deriving DecidableEq, Repr

/-- Why a text is no endpoint. -/
inductive EndpointFault where
  | empty
  | url (fault : Url.Fault)
  | unsupportedScheme (scheme : String)
deriving DecidableEq, Repr

def EndpointFault.message : EndpointFault → String
  | .empty => "endpoint is empty"
  | .url fault => fault.message
  | .unsupportedScheme scheme =>
    "unsupported scheme '" ++ scheme ++ "' (expected http or https)"

namespace Endpoint

/-- The normal form of the address. -/
def text (e : Endpoint) : String := e.url.text

def host (e : Endpoint) : String := e.url.authority.host.text

/-- The port, unless it is the scheme's own. -/
def port (e : Endpoint) : Option Nat := e.url.authority.port

/-- Reads an endpoint from a text without blanks around it. -/
def read (text : List Char) : Except EndpointFault Endpoint :=
  if text.isEmpty then .error .empty
  else match Url.read text with
    | .error fault => .error (.url fault)
    | .ok (.other scheme) => .error (.unsupportedScheme scheme)
    | .ok (.web url) => .ok ⟨url⟩

/-- Reads an endpoint; a refusal quotes the text as given. -/
def parse (text : String) : Except StreamError Endpoint :=
  match read (Text.trim text.toList) with
  | .ok endpoint => .ok endpoint
  | .error fault => .error (.invalidEndpoint text fault.message)

/-- What is no endpoint is said to be none. -/
theorem exists_of_parse_eq_error {text : String} {error : StreamError}
    (h : parse text = .error error) : ∃ reason, error = .invalidEndpoint text reason := by
  unfold parse at h
  split at h
  · cases h
  · exact ⟨_, (Except.error.inj h).symm⟩

theorem exists_of_isOk {text : String} (h : (parse text).isOk = true) :
    ∃ e, parse text = .ok e := by
  cases hparse : parse text with
  | error error => simp [hparse, Except.isOk, Except.toBool] at h
  | ok e => exact ⟨e, rfl⟩

/-- The longest address that a transport takes, in octets. -/
def maxTransportLength : Nat := 65534

/-- Characters that a transport takes in no host. -/
def isUntransportable (c : Char) : Bool := ['\x7b', '\x7d', '"', '\x60'].contains c

/-- Why no transport can be made for the endpoint. Nothing is sent yet, so an address is refused
only if it cannot stand in a request, or if its scheme is the secure one and the library that
secures the connection does not take it: `secure?` is what this library says. -/
def transportFault? (secure? : Endpoint → Option String) (e : Endpoint) : Option String :=
  if maxTransportLength < e.text.utf8ByteSize ∨ e.host.toList.any isUntransportable then
    some "invalid URI"
  else match e.url.scheme with
    | .http => none
    | .https => secure? e

/-- Makes a transport for the endpoint. -/
def transport (e : Endpoint) (secure? : Endpoint → Option String := fun _ => none) :
    Except StreamError Unit :=
  match e.transportFault? secure? with
  | none => .ok ()
  | some reason => .error (.transport reason)

end Endpoint

end BrokerMonitor
