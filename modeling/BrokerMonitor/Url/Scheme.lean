/-!
# Schemes

The part of a URL in front of the first colon. A few schemes are special: their URLs always have a
host, a backslash counts as a slash in them, and most have a port of their own.
-/

namespace BrokerMonitor.Url

/-- How the rest of a URL reads, by its scheme. -/
inductive SchemeKind where
  /-- A host is needed; the port is the one that goes without saying. -/
  | special (port : Nat)
  | file
  | ordinary
deriving DecidableEq, Repr

/-- The kind of a scheme in lower case. -/
def schemeKind (scheme : String) : SchemeKind :=
  match scheme with
  | "http" | "ws" => .special 80
  | "https" | "wss" => .special 443
  | "ftp" => .special 21
  | "file" => .file
  | _ => .ordinary

def SchemeKind.isSpecial : SchemeKind → Bool
  | .ordinary => false
  | _ => true

def isSchemeChar (c : Char) : Bool := c.isAlphanum || c == '+' || c == '-' || c == '.'

/-- Cuts a text at its scheme, which is brought into lower case. -/
def cutScheme? (text : List Char) : Option (String × List Char) :=
  match text with
  | first :: _ =>
    if first.isAlpha then
      match text.span isSchemeChar with
      | (scheme, ':' :: rest) => some (String.ofList (scheme.map Char.toLower), rest)
      | _ => none
    else none
  | [] => none

end BrokerMonitor.Url
