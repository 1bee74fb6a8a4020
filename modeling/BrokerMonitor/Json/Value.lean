/-!
# JSON values and their text

A value is written in one line, or over several lines with two blanks per level. Inside a text the
quote, the backslash and the control characters are escaped, so no line feed of a text reaches the
output and the one-line form is one line.
-/

namespace BrokerMonitor

/-- A value; the fields of an object are in the order in which they are written. -/
inductive Json where
  | bool (b : Bool)
  | number (n : Nat)
  | string (s : String)
  | array (items : List Json)
  | object (fields : List (String × Json))
deriving Repr, Inhabited

namespace Json

/-- The value of a list, item by item. -/
def ofList {α : Type} (write : α → Json) (items : List α) : Json := .array (items.map write)

/-- The value of a list of texts. -/
def strings (items : List String) : Json := ofList .string items

/-! ### Texts -/

/-- A hexadecimal digit, in lower case. -/
def hexDigit (n : Nat) : Char := Nat.digitChar n

/-- A character as it stands inside a text. -/
def escapeChar (c : Char) : List Char :=
  if c = '"' ∨ c = '\\' then ['\\', c]
  else if c = '\n' then ['\\', 'n']
  else if c = '\r' then ['\\', 'r']
  else if c = '\t' then ['\\', 't']
  else if c = '\x08' then ['\\', 'b']
  else if c = '\x0c' then ['\\', 'f']
  else if c.toNat < 0x20 then
    ['\\', 'u', '0', '0', hexDigit (c.toNat / 16), hexDigit (c.toNat % 16)]
  else [c]

/-- A text between quotes. -/
def writeText (s : String) : List Char := '"' :: (s.toList.flatMap escapeChar ++ ['"'])

def writeBool (b : Bool) : List Char := (if b then "true" else "false").toList

def writeNumber (n : Nat) : List Char := Nat.toDigits 10 n

/-! ### One line -/

mutual

/-- The value in one line. -/
def compact : Json → List Char
  | .bool b => writeBool b
  | .number n => writeNumber n
  | .string s => writeText s
  | .array items => '[' :: compactItems items
  | .object fields => '\x7b' :: compactFields fields

/-- The items of an array and its end. -/
def compactItems : List Json → List Char
  | [] => [']']
  | [j] => j.compact ++ [']']
  | j :: rest => j.compact ++ ',' :: compactItems rest

/-- The fields of an object and its end. -/
def compactFields : List (String × Json) → List Char
  | [] => ['\x7d']
  | [(key, j)] => writeText key ++ ':' :: j.compact ++ ['\x7d']
  | (key, j) :: rest => writeText key ++ ':' :: j.compact ++ ',' :: compactFields rest

end

/-! ### Several lines -/

/-- A new line at a level. -/
def newLine (level : Nat) : List Char := '\n' :: List.replicate (2 * level) ' '

mutual

/-- The value over several lines, at a level. An empty array or object is written in one. -/
def prettyAt (level : Nat) : Json → List Char
  | .bool b => writeBool b
  | .number n => writeNumber n
  | .string s => writeText s
  | .array [] => ['[', ']']
  | .array (j :: rest) => '[' :: prettyItems level (j :: rest)
  | .object [] => ['\x7b', '\x7d']
  | .object (f :: rest) => '\x7b' :: prettyFields level (f :: rest)

/-- The items of an array at a level and its end, from the end of the line before. -/
def prettyItems (level : Nat) : List Json → List Char
  | [] => newLine level ++ [']']
  | [j] => newLine (level + 1) ++ prettyAt (level + 1) j ++ newLine level ++ [']']
  | j :: rest => newLine (level + 1) ++ prettyAt (level + 1) j ++ ',' :: prettyItems level rest

/-- The fields of an object at a level and its end, from the end of the line before. -/
def prettyFields (level : Nat) : List (String × Json) → List Char
  | [] => newLine level ++ ['\x7d']
  | [(key, j)] =>
    newLine (level + 1) ++ writeText key ++ [':', ' '] ++ prettyAt (level + 1) j ++
      newLine level ++ ['\x7d']
  | (key, j) :: rest =>
    newLine (level + 1) ++ writeText key ++ [':', ' '] ++ prettyAt (level + 1) j ++
      ',' :: prettyFields level rest

end

/-- The value over several lines. -/
def pretty (j : Json) : List Char := j.prettyAt 0

end Json

end BrokerMonitor
