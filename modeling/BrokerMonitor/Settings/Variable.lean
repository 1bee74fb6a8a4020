import BrokerMonitor.Settings.Raw
import BrokerMonitor.Text.Blank
import BrokerMonitor.Toml.Number
/-!
# Values of variables

The text of a variable is a truth value, a number, a quoted text, a list in brackets or a table in
braces if it is well-formed as one. Otherwise it stands for itself.
-/

namespace BrokerMonitor.Settings.Variable

open Text (Reader)

def isBlank (c : Char) : Bool := c = ' ' || c = '\t' || c = '\n' || c = '\x0c' || c = '\r'

def dropBlanks (text : List Char) : List Char := text.dropWhile isBlank

/-- Characters that end a word. -/
def isDelimiter (c : Char) : Bool :=
  c = ',' || c = '\x7b' || c = '\x7d' || c = '[' || c = ']'

/-- The value of a word: a number with a point, a whole number, or a text. -/
def ofWord (word : List Char) : Raw :=
  let float := if word.contains '.' then readFloat? word else none
  match float, Text.positive? word, Text.integer? word with
  | some x, _, _ => .fraction x
  | none, some n, _ => if n < UInt64.size then .unsigned n else .text (String.ofList word)
  | none, none, some n => if Toml.inRange n then .signed n else .text (String.ofList word)
  | none, none, none => .text (String.ofList word)

/-- Reads a text between double quotes, with escapes; it may have more than one line. -/
def quoted : Reader String
  | '"' :: rest => do
    let piece : Reader (List Char) := fun text =>
      ((Toml.basicChar text).map fun (c, rest) => ([c], rest)) <|>
      ((Toml.escapedLineEnd text).map fun ((), rest) => ([], rest)) <|>
      ((Reader.char (fun c => c = '\n' || c = '\r') text).map fun (c, rest) => ([c], rest))
    let (pieces, rest) ← Reader.many piece rest
    let ((), rest) ← Reader.word ['"'] rest
    return (String.ofList pieces.flatten, rest)
  | _ => none

/-- Reads a single character between single quotes. -/
def character : Reader String
  | '\'' :: c :: '\'' :: rest => some (c.toString, rest)
  | _ => none

/-- Reads items with commas between them up to a closing character. A comma may follow the last. -/
def items (close : Char) (item : Reader Unit) : Reader Unit := fun text => do
  let next : Reader Unit := fun text => do
    let ((), rest) ← Reader.word [','] text
    if rest.head? = some close then none else item rest
  let (_, rest) ← Reader.optional (fun text => do
    if text.head? = some close then none
    else
      let ((), rest) ← item text
      let (_, rest) ← Reader.many next rest
      let (_, rest) ← Reader.optional (Reader.word [',']) rest
      return ((), rest)) text
  Reader.word [close] rest

/-- Reads the name of an entry of a table. -/
def name : Reader Unit := fun text =>
  match text with
  | '"' :: _ => (quoted text).map fun (_, rest) => ((), rest)
  | _ => (Reader.run1 (fun c => c.isAlphanum || c = '_' || c = '-') text).map
      fun (_, rest) => ((), rest)

/-- Reads an entry of a table. -/
def entry (value : Reader Raw) : Reader Unit := fun text => do
  let ((), rest) ← name (dropBlanks text)
  let ((), rest) ← Reader.word ['='] (dropBlanks rest)
  let (_, rest) ← value rest
  return ((), rest)

/-- Reads a value with blank space around it that is nested less deep than `levels`. -/
def value : (levels : Nat) → Reader Raw
  | 0, _ => none
  | levels + 1, text => do
    let text := dropBlanks text
    let (raw, rest) ← match text with
      | 't' :: 'r' :: 'u' :: 'e' :: rest => some (.truth true, rest)
      | 'f' :: 'a' :: 'l' :: 's' :: 'e' :: rest => some (.truth false, rest)
      | '\x7b' :: rest =>
        (items '\x7d' (entry (value levels)) rest).map fun ((), rest) => (.map, rest)
      | '[' :: rest =>
        let item : Reader Unit := fun text => (value levels text).map fun (_, rest) => ((), rest)
        (items ']' item rest).map fun ((), rest) => (.sequence, rest)
      | '"' :: _ => (quoted text).map fun (s, rest) => (.text s, rest)
      | '\'' :: _ => (character text).map fun (s, rest) => (.text s, rest)
      | _ => do
        let (word, rest) ← Reader.run (fun c => !isDelimiter c) text
        some (ofWord (Text.trim word), rest)
    return (raw, dropBlanks rest)

/-- The value of the text of a variable. -/
def read (text : String) : Raw :=
  match value (text.toList.length + 1) text.toList with
  | some (raw, []) => raw
  | _ => .text text

end BrokerMonitor.Settings.Variable
