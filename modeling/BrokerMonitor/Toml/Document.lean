import BrokerMonitor.Toml.Number
import BrokerMonitor.Toml.Value
/-!
# TOML documents

A document is a list of lines: headers, and keys with their values. `parse` gives the entries of its
outermost table, or nothing if the text is not well-formed.
-/

namespace BrokerMonitor.Toml

open Text (Reader)

/-- Drops blank space within a line. -/
def dropSpaces (text : List Char) : List Char := text.dropWhile isSpace

/-- Drops blank space, line ends and comments, up to something else. -/
def dropLines : (inComment : Bool) → List Char → List Char
  | false, ' ' :: rest => dropLines false rest
  | false, '\t' :: rest => dropLines false rest
  | false, '#' :: rest => dropLines true rest
  | _, '\n' :: rest => dropLines false rest
  | _, '\r' :: '\n' :: rest => dropLines false rest
  | true, c :: rest => if isPrintable c then dropLines true rest else c :: rest
  | _, text => text

/-- Reads the end of a line or of the text, with a comment before it. -/
def lineEnd : Reader Unit := fun text =>
  let rest := match dropSpaces text with
    | '#' :: rest => rest.dropWhile isPrintable
    | rest => rest
  match rest with
  | [] => some ((), [])
  | rest => newline rest

/-! ### Keys -/

/-- Characters of a name without quotes. -/
def isBare (c : Char) : Bool := c.isAlphanum || c = '_' || c = '-'

/-- Reads a name. -/
def simpleKey : Reader String
  | '"' :: rest => basicText ('"' :: rest)
  | '\'' :: rest => literalText ('\'' :: rest)
  | text => do
    let (cs, rest) ← Reader.run1 isBare text
    return (String.ofList cs, rest)

/-- A key has fewer names than this, and values are nested less deep. -/
def maxDepth : Nat := 80

/-- Reads a name with blank space around it. -/
def spacedKey : Reader String := fun text => do
  let (name, rest) ← simpleKey (dropSpaces text)
  return (name, dropSpaces rest)

/-- The key of a list of names. -/
def Key.ofNames? (names : List String) : Option Key :=
  names.getLast?.map fun name => ⟨names.dropLast, name⟩

/-- Reads a key. -/
def key : Reader Key := fun text => do
  let (names, rest) ← Reader.separated spacedKey (Reader.word ['.']) text
  if names.length < maxDepth then return (← Key.ofNames? names, rest) else none

/-! ### Values -/

/-- Reads a value other than an array or a table. -/
def scalar : Reader Value := fun text =>
  match text with
  | [] => none
  | c :: _ =>
    if c = '"' ∨ c = '\'' then (anyText text).map fun (s, rest) => (.text s, rest)
    else if c = 't' then
      (Reader.word "true".toList text).map fun ((), rest) => (.truth true, rest)
    else if c = 'f' then
      (Reader.word "false".toList text).map fun ((), rest) => (.truth false, rest)
    else
      ((moment text).map fun ((), rest) => (.moment, rest)) <|>
      ((fraction text).map fun (x, rest) => (.fraction x, rest)) <|>
      ((special text).map fun (x, rest) => (.fraction x, rest)) <|>
      ((integer text).map fun (n, rest) => (.integer n, rest))

/-- Reads the items of an array up to its closing bracket. A comma may follow the last one. -/
def arrayBody (item : Reader Value) : Reader (List Value) := fun text => do
  let spaced : Reader Value := fun text => do
    let (v, rest) ← item (dropLines false text)
    return (v, dropLines false rest)
  match ← Reader.optional (Reader.separated spaced (Reader.word [','])) text with
  | (none, rest) =>
    let ((), rest) ← Reader.word [']'] (dropLines false rest)
    return ([], rest)
  | (some items, rest) =>
    let (_, rest) ← Reader.optional (Reader.word [',']) rest
    let ((), rest) ← Reader.word [']'] (dropLines false rest)
    return (items, rest)

/-- Reads a key, an equals sign and a value. -/
def pair (item : Reader Value) : Reader (Key × Value) := fun text => do
  let (k, rest) ← key text
  let ((), rest) ← Reader.word ['='] rest
  let (v, rest) ← item (dropSpaces rest)
  return ((k, v), dropSpaces rest)

/-- Reads the entries of a table up to its closing brace. -/
def tableBody (item : Reader Value) : Reader Value := fun text => do
  let (pairs, rest) ← Reader.optional (Reader.separated (pair item) (Reader.word [','])) text
  let ((), rest) ← Reader.word ['\x7d'] (dropSpaces rest)
  return (← inlineTable (pairs.getD []), rest)

/-- Reads a value that is nested at most so deep. -/
def value : (levels : Nat) → Reader Value
  | 0, '[' :: _ => none
  | 0, '\x7b' :: _ => none
  | levels + 1, '[' :: rest =>
    (arrayBody (value levels) rest).map fun (vs, rest) => (.array vs, rest)
  | levels + 1, '\x7b' :: rest => tableBody (value levels) rest
  | _, text => scalar text

/-! ### Lines -/

/-- A document that is being read: its outermost table, and the latest header. -/
structure Progress where
  root : Entries := []
  header : List String := []

/-- Reads a header after its opening bracket. -/
def header (p : Progress) : Reader Progress
  | '[' :: rest => do
    let (k, rest) ← key rest
    let ((), rest) ← Reader.word [']', ']'] rest
    return ({ root := ← startElement k p.root, header := k.names }, rest)
  | text => do
    let (k, rest) ← key text
    let ((), rest) ← Reader.word [']'] rest
    return ({ root := ← startTable k p.root, header := k.names }, rest)

/-- Reads a line. -/
def line (p : Progress) : Reader Progress := fun text => do
  let (p, rest) ← match dropSpaces text with
    | [] => some (p, [])
    | '[' :: rest => header p rest
    | c :: rest =>
      if c = '#' ∨ c = '\n' ∨ c = '\r' then some (p, c :: rest)
      else do
        let ((k, v), rest) ← pair (value (maxDepth - 1)) (c :: rest)
        some ({ p with root := ← assignUnder p.header k v p.root }, rest)
  let ((), rest) ← lineEnd rest
  return (p, rest)

/-- Reads lines up to the end of the text. Each takes a character at least. -/
def lines : (turns : Nat) → Progress → List Char → Option Progress
  | _, p, [] => some p
  | 0, _, _ => none
  | turns + 1, p, text => do
    let (p, rest) ← line p text
    lines turns p rest

/-- Reads a document, which may start with a byte order mark. -/
def parse (text : String) : Option Entries :=
  let cs := match text.toList with
    | '\ufeff' :: rest => rest
    | cs => cs
  (lines cs.length {} cs).map (·.root)

end BrokerMonitor.Toml
