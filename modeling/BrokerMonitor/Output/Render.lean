import BrokerMonitor.BrokerStatus
import BrokerMonitor.CommandLine.Option
import BrokerMonitor.Json.Records
import BrokerMonitor.Output.Table
/-!
# What is printed

Listings and statuses are written as a table or as JSON, over several lines or in one.
-/

namespace BrokerMonitor.Output

/-! ### Listings -/

/-- A channel as a row. -/
def channelRow (c : Channel) : List String :=
  [c.topic, String.intercalate ", " c.publishers, String.intercalate ", " c.subscribers,
    Nat.repr c.messageCount.toNat]

/-- An adapter as a row. -/
def adapterRow (a : Adapter) : List String :=
  [a.name, if a.live then "yes" else "no", a.description, String.intercalate "\n" a.stats]

/-- The header over the records of a resource. -/
def header : Resource → List String
  | .channels => ["Topic", "Publishers", "Subscribers", "Messages"]
  | .adapters => ["Name", "Live", "Description", "Stats"]

/-- A record of a resource as a row. -/
def row : (r : Resource) → r.Record → List String
  | .channels => channelRow
  | .adapters => adapterRow

/-- Records as a table. -/
def listingTable (r : Resource) (records : List r.Record) : Table :=
  ⟨header r, records.map (row r)⟩

/-- Records as JSON. -/
def listingJson (r : Resource) (records : List r.Record) : Json := .ofList r.recordJson records

/-- A listing in a format. -/
def renderListing (format : OutputFormat) (r : Resource) (records : List r.Record) : String :=
  match format with
  | .table => (listingTable r records).text
  | .json => String.ofList (listingJson r records).pretty
  | .jsonCompact => String.ofList (listingJson r records).compact

/-! ### Statuses -/

/-- How a phase is called in a status line. -/
def phaseLabel : Phase → String
  | .connected => "Connected"
  | .connecting => "Connecting..."
  | .disconnected => "Disconnected"

/-- A text after a terminal's code for a style, and before the code that ends it. -/
def styled (start : String) (text : String) (stop : String) : String :=
  "\x1b[" ++ start ++ "m" ++ text ++ "\x1b[" ++ stop ++ "m"

/-- A phase in its colour: bold green, yellow or red. -/
def colouredLabel (p : Phase) : String :=
  match p with
  | .connected => styled "1" (styled "32" (phaseLabel p) "39") "0"
  | .connecting => styled "33" (phaseLabel p) "39"
  | .disconnected => styled "31" (phaseLabel p) "39"

/-- The streams of a status as a table; a stream that is missing has no row. -/
def statusTable (s : BrokerStatus) : Table :=
  ⟨["Resource", "Stream"], s.streams.toList.map fun (r, st) => [r.name, st.name]⟩

/-- A status with the broker's address as JSON. -/
def statusJson (url : String) (s : BrokerStatus) : Json :=
  .object [("url", .string url), ("phase", .string s.phase.name), ("loading", .bool s.loading),
    ("connected", .bool s.connected),
    ("per_resource", .object (s.streams.toList.map fun (r, st) => (r.name, st.json))),
    ("generation", s.generation.json)]

/-- A status in a format. -/
def renderStatus (format : OutputFormat) (url : String) (coloured : Bool) (s : BrokerStatus) :
    String :=
  match format with
  | .table =>
    let label := if coloured then colouredLabel s.phase else phaseLabel s.phase
    url ++ "  " ++ label ++ "\n" ++ (statusTable s).text
  | .json => String.ofList (statusJson url s).pretty
  | .jsonCompact => String.ofList (statusJson url s).compact

/-! ### Printing -/

/-- What goes to standard output for a text: a line, or nothing if the text is empty or the program
is to be quiet. -/
def printed (quiet : Bool) (text : String) : String :=
  if quiet || text.isEmpty then "" else text ++ "\n"

end BrokerMonitor.Output
