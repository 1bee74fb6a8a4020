import BrokerMonitor.Text.Blank
import BrokerMonitor.Url.Authority
import BrokerMonitor.Url.Path
/-!
# Web addresses

URLs of the two schemes of the web, in normal form: lower-case scheme and host, coded parts, no dot
segments, and no port where it goes without saying. `Reading` says what any text is as a URL: a web
address, a URL of another scheme, or nothing, with the reason.
-/

namespace BrokerMonitor.Url

/-- The schemes of the web. -/
inductive WebScheme where
  | http
  | https
deriving DecidableEq, Repr, Inhabited

namespace WebScheme

def name : WebScheme → String
  | .http => "http"
  | .https => "https"

/-- The port that goes without saying. -/
def port : WebScheme → Nat
  | .http => 80
  | .https => 443

def ofName? (name : String) : Option WebScheme :=
  match name with
  | "http" => some .http
  | "https" => some .https
  | _ => none

end WebScheme

/-- A web address in normal form. -/
structure Web where
  scheme : WebScheme
  authority : Authority
  path : List String
  query : Option String
  fragment : Option String
deriving DecidableEq, Repr

namespace Web

/-- The normal form, written out. -/
def text (u : Web) : String :=
  u.scheme.name ++ "://" ++ u.authority.user.text ++ u.authority.host.text ++
    (match u.authority.port with
      | some port => ":" ++ Nat.repr port
      | none => "") ++
    pathText u.path ++
    (match u.query with
      | some query => "?" ++ query
      | none => "") ++
    (match u.fragment with
      | some fragment => "#" ++ fragment
      | none => "")

/-- Cuts what follows a path: a query, up to the fragment, and the fragment. -/
def cutTail (text : List Char) : Option (List Char) × Option (List Char) :=
  match text with
  | '?' :: rest =>
    match rest.span (· != '#') with
    | (query, _ :: fragment) => (some query, some fragment)
    | (query, []) => (some query, none)
  | '#' :: fragment => (none, some fragment)
  | _ => (none, none)

/-- Reads what follows the slashes of a web address. -/
def parse (scheme : WebScheme) (text : List Char) : Except Fault Web := do
  let (front, rest) := text.span (! endsAuthority true ·)
  let authority ← Authority.parse scheme.port front
  let (path, tail) := rest.span fun c => c != '?' && c != '#'
  let (query, fragment) := cutTail tail
  .ok ⟨scheme, authority, parsePath path,
    query.map fun q => String.ofList (encode inQuerySet q),
    fragment.map fun f => String.ofList (encode inFragmentSet f)⟩

end Web

/-- What a text is as a URL. -/
inductive Reading where
  | web (url : Web)
  | other (scheme : String)
deriving DecidableEq, Repr

/-- Controls and spaces, which are dropped at both ends of a URL. -/
def isEdge (c : Char) : Bool := c.toNat ≤ 0x20

/-- Tabs and line ends, which are dropped everywhere in a URL. -/
def isBreak (c : Char) : Bool := c == '\t' || c == '\n' || c == '\r'

def isSlash (c : Char) : Bool := c == '/' || c == '\\'

/-- Checks the host of a file URL, if it has one. A drive in its place is none. -/
def checkFile (text : List Char) : Except Fault Unit :=
  match text with
  | a :: b :: rest =>
    if isSlash a && isSlash b then
      let host := rest.takeWhile (! endsAuthority true ·)
      if host.isEmpty || namesDrive host then .ok () else (Host.parse host).map fun _ => ()
    else .ok ()
  | _ => .ok ()

/-- Checks a URL of a scheme that is not special. -/
def checkOrdinary (text : List Char) : Except Fault Unit :=
  match text with
  | '/' :: '/' :: rest =>
    let (front, more) := rest.span (! endsAuthority false ·)
    checkOrdinaryAuthority front (! more.isEmpty)
  | _ => .ok ()

/-- Reads a text as a URL. -/
def read (text : List Char) : Except Fault Reading :=
  let text := (Text.trimBy isEdge text).filter (! isBreak ·)
  match cutScheme? text with
  | none => .error .noBase
  | some (scheme, rest) =>
    match WebScheme.ofName? scheme with
    | some web => (Web.parse web (rest.dropWhile isSlash)).map .web
    | none =>
      match schemeKind scheme with
      | .special port =>
        (Authority.parse port ((rest.dropWhile isSlash).takeWhile (! endsAuthority true ·))).map
          fun _ => .other scheme
      | .file => (checkFile rest).map fun _ => .other scheme
      | .ordinary => (checkOrdinary rest).map fun _ => .other scheme

end BrokerMonitor.Url
