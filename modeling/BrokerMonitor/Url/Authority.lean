import BrokerMonitor.Url.Host
import BrokerMonitor.Url.Scheme
/-!
# Authorities

The part of a URL between its two slashes and its path: who asks, which host, which port. The last
`@` ends the user; a colon outside brackets ends the host.
-/

namespace BrokerMonitor.Url

/-- The character ends an authority. -/
def endsAuthority (special : Bool) (c : Char) : Bool :=
  c == '/' || c == '?' || c == '#' || (special && c == '\\')

/-- Who asks, percent-coded. An empty password is the same as none. -/
structure User where
  name : String := ""
  password : String := ""
deriving DecidableEq, Repr, Inhabited

namespace User

/-- Reads a user: the first colon ends the name. -/
def parse (text : List Char) : User :=
  let (name, rest) := text.span (· != ':')
  ⟨String.ofList (encode inUserSet name), String.ofList (encode inUserSet (rest.drop 1))⟩

/-- The user as it stands in front of the host. -/
def text (u : User) : String :=
  if u.name.isEmpty && u.password.isEmpty then ""
  else if u.password.isEmpty then u.name ++ "@"
  else u.name ++ ":" ++ u.password ++ "@"

end User

/-- Cuts at the last `@`; none if there is none. -/
def cutUser (text : List Char) : Option (List Char × List Char) :=
  match text.reverse.span (· != '@') with
  | (host, _ :: user) => some (user.reverse, host.reverse)
  | (_, []) => none

/-- Cuts at the first colon outside brackets; the colon stays with the rest. -/
def cutHost (inside : Bool) : List Char → List Char × List Char
  | [] => ([], [])
  | c :: rest =>
    if c = ':' ∧ !inside then ([], c :: rest)
    else
      let inside := if c = '[' then true else if c = ']' then false else inside
      let (host, port) := cutHost inside rest
      (c :: host, port)

/-- Reads the digits of a port, which is a 16-bit number; none if there are no digits. -/
def portNumber? (digits : List Char) : Except Fault (Option Nat) :=
  if digits.isEmpty then .ok none
  else
    let n := digits.foldl (fun n d => n * 10 + (d.toNat - '0'.toNat)) 0
    if n < 65536 then .ok (some n) else .error .invalidPort

/-- Reads what follows a host: nothing, or a colon and a port. -/
def parsePort (text : List Char) : Except Fault (Option Nat) :=
  match text with
  | ':' :: rest =>
    let (digits, after) := rest.span Char.isDigit
    match portNumber? digits, after with
    | .error fault, _ => .error fault
    | .ok port, [] => .ok port
    | .ok port, c :: _ =>
      if c = '/' ∨ c = '\\' ∨ c = '?' ∨ c = '#' then .ok port else .error .invalidPort
  | _ => .ok none

/-- Who asks, which host, which port. -/
structure Authority where
  user : User
  host : Host
  /-- None if it is the port of the scheme. -/
  port : Option Nat
deriving DecidableEq, Repr

/-- Reads the authority of a special scheme, whose own port is `ownPort`. -/
def Authority.parse (ownPort : Nat) (text : List Char) : Except Fault Authority := do
  let (user, rest) := match cutUser text with
    | some (user, rest) => (User.parse user, rest)
    | none => ({}, text)
  let (hostText, portText) := cutHost false rest
  if hostText.isEmpty then .error .emptyHost
  else do
    let host ← Host.parse hostText
    let port ← parsePort portText
    .ok ⟨user, host, if port = some ownPort then none else port⟩

/-- Checks the authority of an ordinary scheme, in which the host may be missing. `more` says that
something follows the authority. -/
def checkOrdinaryAuthority (text : List Char) (more : Bool) : Except Fault Unit := do
  let (user, rest) := match cutUser text with
    | some (user, rest) => (some user, rest)
    | none => (none, text)
  let (hostText, portText) := cutHost false rest
  if user = some [] ∧ rest = [] ∧ more then .error .emptyHost
  else do
    Host.checkOpaque hostText
    if hostText.isEmpty ∧ portText ≠ [] then .error .emptyHost
    else do
      let _ ← parsePort portText
      let asked := (user.map fun u => (User.parse u).text) |>.getD ""
      if hostText.isEmpty ∧ asked ≠ "" then .error .emptyHost else .ok ()

end BrokerMonitor.Url
