/-!
# TOML values

Tables know how they came to be, since that decides what may be added to them later on.
-/

namespace BrokerMonitor.Toml

/-- How a table came to be. -/
inductive Origin where
  /-- A header names a table below this one. -/
  | implied
  /-- A dotted key passes through it. -/
  | dotted
  /-- A header of its own, or the whole document. -/
  | headed
  /-- Written out between braces: nothing is added to it. -/
  | closed
deriving DecidableEq, Repr, Inhabited

/-- A value. Dates and times are told from other values, and that is all. -/
inductive Value where
  | text (s : String)
  | integer (n : Int)
  | fraction (x : Float)
  | truth (b : Bool)
  | moment
  | array (items : List Value)
  | table (origin : Origin) (entries : List (String × Value))
  /-- An array of tables with headers, of which the latest can be added to. -/
  | tables (earlier : List (List (String × Value))) (latest : List (String × Value))
deriving Repr, Inhabited

/-- The entries of a table; each key stands once. -/
abbrev Entries := List (String × Value)

namespace Entries

/-- Gives a key a value in its place, or at the end if it is new. -/
def put (key : String) (value : Value) : Entries → Entries
  | [] => [(key, value)]
  | (k, v) :: rest => if k = key then (k, value) :: rest else (k, v) :: put key value rest

@[simp] theorem lookup_put_self (key : String) (value : Value) (es : Entries) :
    (es.put key value).lookup key = some value := by
  induction es with
  | nil => simp [put]
  | cons e es ih =>
    obtain ⟨k, v⟩ := e
    by_cases h : k = key
    · simp [put, h]
    · have h' : (key == k) = false := by simpa using fun h' => h h'.symm
      simp [put, h, List.lookup_cons, h', ih]

end Entries

/-- Works on the table at the end of a path. Tables on the way that are missing are made. Dotted
keys do not pass through tables that have a header of their own. -/
def descend (byKeys : Bool) (work : Origin → Entries → Option (Origin × Entries)) :
    (path : List String) → Origin → Entries → Option (Origin × Entries)
  | [], origin, entries => work origin entries
  | key :: path, origin, entries =>
    match entries.lookup key with
    | none => do
      let (o, es) ← descend byKeys work path (if byKeys then .dotted else .implied) []
      return (origin, entries.put key (.table o es))
    | some (.table .closed _) => none
    | some (.table below es) =>
      if byKeys ∧ below = .headed then none
      else do
        let (o, es) ← descend byKeys work path below es
        return (origin, entries.put key (.table o es))
    | some (.tables earlier latest) => do
      let (_, es) ← descend byKeys work path .headed latest
      return (origin, entries.put key (.tables earlier es))
    | some _ => none

/-- Adds a value under a key that is new. After a dotted key it is added only to a table that dotted
keys made. -/
def addEntry (afterDots : Bool) (key : String) (value : Value) (origin : Origin)
    (entries : Entries) : Option (Origin × Entries) :=
  if afterDots = decide (origin = .dotted) ∧ (entries.lookup key).isNone then
    some (origin, entries.put key value)
  else none

/-- A key with the names before its last dot. -/
structure Key where
  path : List String
  name : String
deriving DecidableEq, Repr, Inhabited

/-- All names of a key. -/
def Key.names (k : Key) : List String := k.path ++ [k.name]

/-- Gives a key a value, from the table at hand. -/
def assign (k : Key) (value : Value) : Origin → Entries → Option (Origin × Entries) :=
  descend true (addEntry (!k.path.isEmpty) k.name value) k.path

/-- Starts a table with a header. A table that was only implied may still get its header. -/
def startTable (k : Key) (root : Entries) : Option Entries := do
  let work (origin : Origin) (entries : Entries) : Option (Origin × Entries) :=
    match entries.lookup k.name with
    | none => some (origin, entries.put k.name (.table .headed []))
    | some (.table .implied es) => some (origin, entries.put k.name (.table .headed es))
    | some _ => none
  let (_, root) ← descend false work k.path .headed root
  return root

/-- Starts another table of an array of tables. -/
def startElement (k : Key) (root : Entries) : Option Entries := do
  let work (origin : Origin) (entries : Entries) : Option (Origin × Entries) :=
    match entries.lookup k.name with
    | none => some (origin, entries.put k.name (.tables [] []))
    | some (.tables earlier latest) =>
      some (origin, entries.put k.name (.tables (earlier ++ [latest]) []))
    | some _ => none
  let (_, root) ← descend false work k.path .headed root
  return root

/-- Gives a key a value in the table whose header stands last. -/
def assignUnder (header : List String) (k : Key) (value : Value) (root : Entries) :
    Option Entries := do
  let (_, root) ← descend false (assign k value) header .headed root
  return root

/-- A table between braces. -/
def inlineTable (pairs : List (Key × Value)) : Option Value := do
  let step (entries : Entries) (pair : Key × Value) : Option Entries := do
    let (_, entries) ← assign pair.1 pair.2 .headed entries
    return entries
  return .table .closed (← pairs.foldlM step [])

end BrokerMonitor.Toml
