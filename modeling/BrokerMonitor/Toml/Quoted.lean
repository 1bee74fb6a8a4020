import BrokerMonitor.Text.Reader
/-!
# TOML texts

Texts stand between double quotes, with escapes, or between single quotes, without. Three quotes at
either end allow for more than one line.
-/

namespace BrokerMonitor.Toml

open Text (Reader)

def isSpace (c : Char) : Bool := c = ' ' || c = '\t'

/-- Characters that may stand in texts and comments; of the control characters only the tab may. -/
def isPrintable (c : Char) : Bool :=
  c = '\t' || (0x20 ≤ c.toNat && c.toNat ≤ 0x7E) || 0x80 ≤ c.toNat

/-- Reads the end of a line. -/
def newline : Reader Unit
  | '\n' :: rest => some ((), rest)
  | '\r' :: '\n' :: rest => some ((), rest)
  | _ => none

/-! ### Escapes -/

def hexValue? (c : Char) : Option Nat :=
  if '0' ≤ c ∧ c ≤ '9' then some (c.toNat - '0'.toNat)
  else if 'a' ≤ c ∧ c ≤ 'f' then some (c.toNat - 'a'.toNat + 10)
  else if 'A' ≤ c ∧ c ≤ 'F' then some (c.toNat - 'A'.toNat + 10)
  else none

/-- Reads hexadecimal digits, exactly so many. -/
def hexDigits : (count : Nat) → (value : Nat) → Reader Nat
  | 0, value, text => some (value, text)
  | _ + 1, _, [] => none
  | count + 1, value, c :: rest => do hexDigits count (value * 16 + (← hexValue? c)) rest

/-- The character of a number, which has to be one. -/
def charOf? (n : Nat) : Option Char := if n.isValidChar then some (Char.ofNat n) else none

/-- Reads an escape. -/
def escape : Reader Char
  | '\\' :: 'b' :: rest => some ('\x08', rest)
  | '\\' :: 't' :: rest => some ('\t', rest)
  | '\\' :: 'n' :: rest => some ('\n', rest)
  | '\\' :: 'f' :: rest => some ('\x0c', rest)
  | '\\' :: 'r' :: rest => some ('\r', rest)
  | '\\' :: '"' :: rest => some ('"', rest)
  | '\\' :: '\\' :: rest => some ('\\', rest)
  | '\\' :: 'u' :: rest => do
    let (n, rest) ← hexDigits 4 0 rest
    return (← charOf? n, rest)
  | '\\' :: 'U' :: rest => do
    let (n, rest) ← hexDigits 8 0 rest
    return (← charOf? n, rest)
  | _ => none

/-- Reads a backslash at the end of a line, with the blank space after it. -/
def escapedLineEnd : Reader Unit
  | '\\' :: rest => do
    let ((), rest) ← newline (rest.dropWhile isSpace)
    let (_, rest) ← Reader.many (fun text => do
      match ← Reader.optional newline text with
      | (some (), rest) => some ((), rest)
      | (none, _) => (Reader.char isSpace text).map fun (_, rest) => ((), rest)) rest
    return ((), rest)
  | _ => none

/-! ### Texts of one line -/

/-- Reads a character between double quotes. -/
def basicChar : Reader Char := fun text =>
  escape text <|> Reader.char (fun c => isPrintable c && c ≠ '"' && c ≠ '\\') text

/-- Reads a text of one line between double quotes. -/
def basicText : Reader String
  | '"' :: rest => do
    let (cs, rest) ← Reader.many basicChar rest
    let ((), rest) ← Reader.word ['"'] rest
    return (String.ofList cs, rest)
  | _ => none

/-- Reads a text of one line between single quotes. -/
def literalText : Reader String
  | '\'' :: rest => do
    let (cs, rest) ← Reader.run (fun c => isPrintable c && c ≠ '\'') rest
    let ((), rest) ← Reader.word ['\''] rest
    return (String.ofList cs, rest)
  | _ => none

/-! ### Texts of several lines -/

/-- Reads one quote or two that do not end the text. -/
def looseQuotes (quote : Char) : Reader (List Char) := fun text => do
  let (quotes, rest) ← Reader.run1 (· = quote) text
  if quotes.length ≤ 2 then return (quotes, rest) else none

/-- Reads the three quotes at the end of a text. Up to two before them belong to the text. -/
def closingQuotes (quote : Char) : Reader (List Char) := fun text => do
  let (quotes, rest) ← Reader.run (· = quote) text
  if 3 ≤ quotes.length ∧ quotes.length ≤ 5 then return (quotes.drop 3, rest) else none

/-- Reads what stands between three quotes; a line end right after the first three is dropped. -/
def longText (quote : Char) (piece : Reader (List Char)) : Reader String := fun text => do
  let ((), rest) ← Reader.word [quote, quote, quote] text
  let (_, rest) ← Reader.optional newline rest
  let (pieces, rest) ← Reader.many piece rest
  let (last, rest) ← closingQuotes quote rest
  return (String.ofList (pieces.flatten ++ last), rest)

/-- Reads a piece of a text between three double quotes. -/
def basicPiece : Reader (List Char) := fun text =>
  ((basicChar text).map fun (c, rest) => ([c], rest)) <|>
  ((escapedLineEnd text).map fun ((), rest) => ([], rest)) <|>
  ((newline text).map fun ((), rest) => (['\n'], rest)) <|>
  looseQuotes '"' text

/-- Reads a piece of a text between three single quotes. -/
def literalPiece : Reader (List Char) := fun text =>
  ((Reader.char (fun c => isPrintable c && c ≠ '\'') text).map fun (c, rest) => ([c], rest)) <|>
  ((newline text).map fun ((), rest) => (['\n'], rest)) <|>
  looseQuotes '\'' text

/-- Reads a text of any of the four kinds. Three quotes are never two and one. -/
def anyText : Reader String := fun text =>
  match text with
  | '"' :: '"' :: '"' :: _ => longText '"' basicPiece text
  | '"' :: _ => basicText text
  | '\'' :: '\'' :: '\'' :: _ => longText '\'' literalPiece text
  | _ => literalText text

end BrokerMonitor.Toml
