import BrokerMonitor.Idna.Domain
import BrokerMonitor.Url.Ipv4
import BrokerMonitor.Url.Ipv6
import BrokerMonitor.Url.Percent
/-!
# Hosts

The host of a URL is a domain name in ASCII, or an address. A name that ends in a number has to be
an address, and brackets enclose an address of eight pieces.
-/

namespace BrokerMonitor.Url

/-- Why a text is no URL. -/
inductive Fault where
  | noBase
  | emptyHost
  | invalidPort
  | invalidIpv4
  | invalidIpv6
  | invalidName
  | invalidOpaqueHost
deriving DecidableEq, Repr, Inhabited

namespace Fault

def message : Fault → String
  | .noBase => "relative URL without a base"
  | .emptyHost => "empty host"
  | .invalidPort => "invalid port number"
  | .invalidIpv4 => "invalid IPv4 address"
  | .invalidIpv6 => "invalid IPv6 address"
  | .invalidName => "invalid international domain name"
  | .invalidOpaqueHost => "invalid domain character"

end Fault

/-- The host of a URL. -/
inductive Host where
  | domain (name : String)
  | ipv4 (address : Ipv4)
  | ipv6 (address : Ipv6)
deriving DecidableEq, Repr

namespace Host

def text : Host → String
  | .domain name => name
  | .ipv4 address => address.text
  | .ipv6 address => "[" ++ String.ofList address.text ++ "]"

/-- Reads what stands between brackets, if the text begins with one. -/
def bracketed? (text : List Char) : Option (Except Fault Host) :=
  match text with
  | '[' :: rest =>
    match rest.reverse with
    | ']' :: inner =>
      match Ipv6.ofText? inner.reverse with
      | some address => some (.ok (.ipv6 address))
      | none => some (.error .invalidIpv6)
    | _ => some (.error .invalidIpv6)
  | _ => none

/-- The host that a name in ASCII form denotes. -/
def ofAscii (name : List Char) : Except Fault Host :=
  if name.isEmpty then .error .emptyHost
  else if Ipv4.endsInNumber name then
    match Ipv4.ofName? name with
    | some address => .ok (.ipv4 address)
    | none => .error .invalidIpv4
  else .ok (.domain (String.ofList name))

/-- Reads a host: percent coding is undone, and the name is brought into ASCII form. -/
def parse (text : List Char) : Except Fault Host :=
  match bracketed? text with
  | some result => result
  | none =>
    match Utf8.decode? (decode (Utf8.encode (String.ofList text))) with
    | none => .error .invalidName
    | some name =>
      match Idna.toAscii? name.toList with
      | none => .error .invalidName
      | some ascii => ofAscii ascii

/-- A character that not even a host without a meaning of its own may contain. -/
def isForbiddenAnywhere (c : Char) : Bool := "\x00\t\n\r #/:<>?@[\\]^|".toList.contains c

/-- Checks a host of a scheme that gives hosts no meaning. -/
def checkOpaque (text : List Char) : Except Fault Unit :=
  match bracketed? text with
  | some (.ok _) => .ok ()
  | some (.error fault) => .error fault
  | none => if text.any isForbiddenAnywhere then .error .invalidOpaqueHost else .ok ()

end Host

end BrokerMonitor.Url
