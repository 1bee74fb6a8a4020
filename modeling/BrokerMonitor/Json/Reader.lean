import BrokerMonitor.Decimal.Style
import BrokerMonitor.Text.Quoted
/-!
# Reading JSON

A reader takes a value of an expected kind from the front of a text and gives the text after it. It
reads from left to right and stops at the first fault: the text is no JSON, it ends too early, or
the value is not of the kind expected.
-/

namespace BrokerMonitor.Json

/-- What stands where something else was expected. -/
inductive Found where
  | null
  | boolean (b : Bool)
  | integer (n : Int)
  | fraction (x : Float)
  | text (s : String)
  | sequence
  | map
deriving Repr, Inhabited

/-- The wording of what was found. -/
def Found.message : Found → String
  | .null => "null"
  | .boolean b => "boolean \x60" ++ (if b then "true" else "false") ++ "\x60"
  | .integer n => "integer \x60" ++ toString n ++ "\x60"
  | .fraction x => "floating point \x60" ++ Decimal.Style.scientific.writeFloat x ++ "\x60"
  | .text s => "string " ++ Text.quoted s
  | .sequence => "sequence"
  | .map => "map"

/-- Why a value is not of the kind expected. -/
inductive Mismatch where
  | wrongType (found : Found) (expected : String)
  | wrongValue (found : Found) (expected : String)
  | wrongLength (length : Nat) (expected : String)
  | unknownVariant (name : String) (variants : List String)
  | missingField (name : String)
  | duplicateField (name : String)
deriving Repr, Inhabited

/-- A name as it stands in a message. -/
def ticked (name : String) : String := "\x60" ++ name ++ "\x60"

/-- The variants that a message offers: two are joined by `or`, more are listed. -/
def offered : List String → String
  | [a, b] => ticked a ++ " or " ++ ticked b
  | names => "one of " ++ String.intercalate ", " (names.map ticked)

def Mismatch.message : Mismatch → String
  | .wrongType found expected => "invalid type: " ++ found.message ++ ", expected " ++ expected
  | .wrongValue found expected => "invalid value: " ++ found.message ++ ", expected " ++ expected
  | .wrongLength length expected =>
    "invalid length " ++ Nat.repr length ++ ", expected " ++ expected
  | .unknownVariant name variants =>
    "unknown variant " ++ ticked name ++ ", expected " ++ offered variants
  | .missingField name => "missing field " ++ ticked name
  | .duplicateField name => "duplicate field " ++ ticked name

/-- Why a text gives no value. -/
inductive Fault where
  /-- The text is not JSON. -/
  | malformed
  /-- The text ends before the value does. -/
  | truncated
  | mismatch (m : Mismatch)
deriving Repr, Inhabited

/-- Reading from the front of a text: what was read, and the text after it. -/
abbrev Reader (α : Type) := List Char → Except Fault (α × List Char)

def isBlank (c : Char) : Bool := c = ' ' || c = '\n' || c = '\t' || c = '\r'

def skipBlanks (text : List Char) : List Char := text.dropWhile isBlank

/-- Reads a word that has to stand here. -/
def readWord : (word : List Char) → Reader Unit
  | [], text => .ok ((), text)
  | _ :: _, [] => .error .truncated
  | w :: word, c :: rest => if c = w then readWord word rest else .error .malformed

/-! ### Texts -/

def hexValue? (c : Char) : Option Nat :=
  if '0' ≤ c ∧ c ≤ '9' then some (c.toNat - '0'.toNat)
  else if 'a' ≤ c ∧ c ≤ 'f' then some (c.toNat - 'a'.toNat + 10)
  else if 'A' ≤ c ∧ c ≤ 'F' then some (c.toNat - 'A'.toNat + 10)
  else none

/-- Reads the four digits of an escape. Where fewer than four octets are left, the text ends too
early, whatever they are. -/
def readHex : Reader Nat := fun text =>
  if (String.ofList (text.take 4)).utf8ByteSize < 4 then .error .truncated
  else match text with
    | a :: b :: c :: d :: rest =>
      match hexValue? a, hexValue? b, hexValue? c, hexValue? d with
      | some a, some b, some c, some d => .ok (((a * 16 + b) * 16 + c) * 16 + d, rest)
      | _, _, _, _ => .error .malformed
    | _ => .error .malformed

/-- The character of a letter after a backslash. -/
def shortEscape? : Char → Option Char
  | '"' => some '"'
  | '\\' => some '\\'
  | '/' => some '/'
  | 'b' => some '\x08'
  | 'f' => some '\x0c'
  | 'n' => some '\n'
  | 'r' => some '\r'
  | 't' => some '\t'
  | _ => none

def isHighSurrogate (n : Nat) : Bool := 0xD800 ≤ n && n ≤ 0xDBFF

def isLowSurrogate (n : Nat) : Bool := 0xDC00 ≤ n && n ≤ 0xDFFF

/-- Reads the digits of an escape, and those of a second one where a character has two. -/
def readCodePoint : Reader Char := fun text => do
  let (first, rest) ← readHex text
  if isLowSurrogate first then .error .malformed
  else if isHighSurrogate first then
    let ((), rest) ← readWord ['\\', 'u'] rest
    let (second, rest) ← readHex rest
    if isLowSurrogate second then
      .ok (Char.ofNat ((first - 0xD800) * 1024 + (second - 0xDC00) + 0x10000), rest)
    else .error .malformed
  else .ok (Char.ofNat first, rest)

/-- Reads what follows a backslash. -/
def readEscape : Reader Char
  | [] => .error .truncated
  | 'u' :: rest => readCodePoint rest
  | c :: rest =>
    match shortEscape? c with
    | some c => .ok (c, rest)
    | none => .error .malformed

/-- Reads the characters of a text up to its end. Each takes a character at least, so as many turns
as there are characters are enough. -/
def readChars : (turns : Nat) → Reader (List Char)
  | 0, _ => .error .truncated
  | _ + 1, [] => .error .truncated
  | turns + 1, c :: rest =>
    if c = '"' then .ok ([], rest)
    else if c = '\\' then do
      let (c, rest) ← readEscape rest
      let (cs, rest) ← readChars turns rest
      return (c :: cs, rest)
    else if c.toNat < 0x20 then .error .malformed
    else do
      let (cs, rest) ← readChars turns rest
      return (c :: cs, rest)

/-- Reads a text whose opening quote has been read. -/
def readTextBody : Reader String := fun text => do
  let (cs, rest) ← readChars text.length text
  return (String.ofList cs, rest)

/-! ### Numbers -/

/-- A number as it is read: a whole number that fits in 64 bits, or a floating-point number. -/
inductive Number where
  | integer (n : Int)
  | fraction (x : Float)
deriving Repr, Inhabited

def Number.found : Number → Found
  | .integer n => .integer n
  | .fraction x => .fraction x

def isDigit (c : Char) : Bool := '0' ≤ c && c ≤ '9'

def digitValue (c : Char) : Nat := c.toNat - '0'.toNat

/-- Reads digits into a number as long as it fits in 64 bits. It gives the number, how many digits
were taken into it, and how many more there are. -/
def takeDigits (n : Nat) : List Char → Nat × Nat × Nat
  | [] => (n, 0, 0)
  | c :: rest =>
    let next := n * 10 + digitValue c
    if next < UInt64.size then
      let (n, taken, more) := takeDigits next rest
      (n, taken + 1, more)
    else (n, 0, rest.length + 1)

/-- Ten to a power, as a floating-point number. -/
def powerOfTen (exponent : Nat) : Float := Float.ofScientific 1 false exponent

/-- The largest power of ten that is a floating-point number. -/
def maxPower : Nat := 308

/-- Divides by ten to a power, in steps of the largest one. -/
def divideByTen (x : Float) (exponent : Nat) : Float :=
  if exponent ≤ maxPower then x / powerOfTen exponent
  else if x == 0 then x
  else divideByTen (x / powerOfTen maxPower) (exponent - maxPower)
termination_by exponent
decreasing_by simp_all [maxPower]; omega

/-- The floating-point number of a significand and an exponent, or nothing if it is too large. The
significand is rounded first and then scaled once. -/
def scale (significand : Nat) (exponent : Int) : Option Float :=
  let x := Float.ofNat significand
  if 0 ≤ exponent then
    if significand = 0 then some x
    else if maxPower < exponent.toNat then none
    else
      let y := x * powerOfTen exponent.toNat
      if y.isInf then none else some y
  else if significand = 0 then some x
  else some (divideByTen x (-exponent).toNat)

/-- Gives a floating-point number its sign. -/
def signed (negative : Bool) (x : Float) : Float := if negative then -x else x

/-- The largest exponent that is taken into account. -/
def maxExponent : Nat := 2147483647

/-- Reads an exponent after its letter. -/
def readExponent (negative : Bool) (significand : Nat) (start : Int) : Reader Number :=
  fun text => do
  let (down, rest) := match text with
    | '+' :: rest => (false, rest)
    | '-' :: rest => (true, rest)
    | _ => (false, text)
  match rest with
  | [] => .error .truncated
  | c :: _ =>
    if isDigit c then
      let digits := rest.takeWhile isDigit
      let after := rest.dropWhile isDigit
      let n := digits.foldl (fun n c => n * 10 + digitValue c) 0
      if maxExponent < n then
        if significand ≠ 0 ∧ !down then .error .malformed
        else .ok (.fraction (signed negative 0), after)
      else
        match scale significand (if down then start - n else start + n) with
        | some x => .ok (.fraction (signed negative x), after)
        | none => .error .malformed
    else .error .malformed

/-- Goes on after the digits of a number: an exponent may follow. -/
def readExponentIfAny (negative : Bool) (significand : Nat) (exponent : Int) : Reader Number
  | 'e' :: rest => readExponent negative significand exponent rest
  | 'E' :: rest => readExponent negative significand exponent rest
  | text =>
    match scale significand exponent with
    | some x => .ok (.fraction (signed negative x), text)
    | none => .error .malformed

/-- Reads the places after the point. -/
def readPlaces (negative : Bool) (significand : Nat) (exponent : Int) : Reader Number := fun text =>
  match text with
  | [] => .error .truncated
  | c :: _ =>
    if isDigit c then
      let (n, taken, _) := takeDigits significand (text.takeWhile isDigit)
      readExponentIfAny negative n (exponent - taken) (text.dropWhile isDigit)
    else .error .malformed

/-- The number of whole digits. A negative one below the range, and a negative zero, become
floating-point numbers. -/
def wholeNumber (negative : Bool) (n : Nat) : Number :=
  if negative then
    if n = 0 ∨ UInt64.size / 2 < n then .fraction (-(Float.ofNat n)) else .integer (-(n : Int))
  else .integer n

/-- Reads a number without its sign. -/
def readMagnitude (negative : Bool) : Reader Number := fun text =>
  match text with
  | [] => .error .truncated
  | c :: rest =>
    if isDigit c then
      let digits := if c = '0' then ['0'] else text.takeWhile isDigit
      let after := if c = '0' then rest else text.dropWhile isDigit
      let (n, _, more) := takeDigits 0 digits
      match after with
      | '.' :: after => readPlaces negative n more after
      | 'e' :: _ => readExponentIfAny negative n more after
      | 'E' :: _ => readExponentIfAny negative n more after
      | d :: _ =>
        if c = '0' ∧ isDigit d then .error .malformed
        else if more = 0 then .ok (wholeNumber negative n, after)
        else readExponentIfAny negative n more after
      | [] =>
        if more = 0 then .ok (wholeNumber negative n, after)
        else readExponentIfAny negative n more after
    else .error .malformed

/-- Reads a number that starts here. -/
def readNumber : Reader Number
  | '-' :: rest => readMagnitude true rest
  | text => readMagnitude false text

/-! ### Values of an expected kind -/

/-- Refuses the value that starts here, which is not what was expected. An array or an object is
refused as such, and any other value only once it has been read. -/
def refuse {α : Type} (expected : String) : Reader α := fun text => do
  let wrong (found : Found) : Except Fault (α × List Char) :=
    .error (.mismatch (.wrongType found expected))
  match text with
  | [] => .error .truncated
  | 'n' :: rest => do
    let _ ← readWord "ull".toList rest
    wrong .null
  | 't' :: rest => do
    let _ ← readWord "rue".toList rest
    wrong (.boolean true)
  | 'f' :: rest => do
    let _ ← readWord "alse".toList rest
    wrong (.boolean false)
  | '"' :: rest => do
    let (s, _) ← readTextBody rest
    wrong (.text s)
  | '[' :: _ => wrong .sequence
  | '\x7b' :: _ => wrong .map
  | c :: _ =>
    if c = '-' ∨ isDigit c then do
      let (n, _) ← readNumber text
      wrong n.found
    else .error .malformed

/-- Reads a text, where `expected` says what it is for. -/
def readText (expected : String) : Reader String := fun text =>
  match skipBlanks text with
  | '"' :: rest => readTextBody rest
  | text => refuse expected text

/-- Reads a truth value. -/
def readBool : Reader Bool := fun text =>
  match skipBlanks text with
  | 't' :: rest => do
    let ((), rest) ← readWord "rue".toList rest
    return (true, rest)
  | 'f' :: rest => do
    let ((), rest) ← readWord "alse".toList rest
    return (false, rest)
  | text => refuse "a boolean" text

/-- Reads null. -/
def readNull : Reader Unit := fun text =>
  match skipBlanks text with
  | 'n' :: rest => readWord "ull".toList rest
  | text => refuse "unit" text

/-- Reads a whole number below a bound, where `expected` names the kind of number. -/
def readNat (bound : Nat) (expected : String) : Reader Nat := fun text => do
  let text := skipBlanks text
  match text with
  | [] => .error .truncated
  | c :: _ =>
    if c = '-' ∨ isDigit c then
      match ← readNumber text with
      | (.integer n, rest) =>
        if 0 ≤ n ∧ n.toNat < bound then return (n.toNat, rest)
        else .error (.mismatch (.wrongValue (.integer n) expected))
      | (.fraction x, _) => .error (.mismatch (.wrongType (.fraction x) expected))
    else refuse expected text

/-- Goes on to the next item of an array whose opening bracket has been read: nothing if the array
ends here. The bracket at its end is left to be read. -/
def nextItem (first : Bool) : Reader Bool := fun text =>
  match skipBlanks text with
  | [] => .error .truncated
  | ']' :: rest => .ok (false, ']' :: rest)
  | c :: rest =>
    if first then .ok (true, c :: rest)
    else if c = ',' then
      match skipBlanks rest with
      | [] => .error .truncated
      | ']' :: _ => .error .malformed
      | rest => .ok (true, rest)
    else .error .malformed

/-- Reads the end of an array. -/
def endArray : Reader Unit := fun text =>
  match skipBlanks text with
  | [] => .error .truncated
  | ']' :: rest => .ok ((), rest)
  | _ => .error .malformed

/-- Reads items until the array ends. Each takes a character at least. -/
def readItems {α : Type} (item : Reader α) : (turns : Nat) → (first : Bool) → Reader (List α)
  | 0, _, _ => .error .truncated
  | turns + 1, first, text => do
    match ← nextItem first text with
    | (false, rest) => return ([], rest)
    | (true, rest) =>
      let (a, rest) ← item rest
      let (more, rest) ← readItems item turns false rest
      return (a :: more, rest)

/-- Reads an array of items. -/
def readList {α : Type} (item : Reader α) : Reader (List α) := fun text =>
  match skipBlanks text with
  | '[' :: rest => do
    let (items, rest) ← readItems item rest.length true rest
    let ((), rest) ← endArray rest
    return (items, rest)
  | text => refuse "a sequence" text

/-- Goes on to the next key of an object whose opening brace has been read, past its quote. The
brace at its end is left to be read. -/
def nextKey (first : Bool) : Reader Bool := fun text =>
  match skipBlanks text with
  | [] => .error .truncated
  | '\x7d' :: rest => .ok (false, '\x7d' :: rest)
  | c :: rest =>
    if first then
      if c = '"' then .ok (true, rest) else .error .malformed
    else if c = ',' then
      match skipBlanks rest with
      | [] => .error .truncated
      | '"' :: rest => .ok (true, rest)
      | _ => .error .malformed
    else .error .malformed

/-- Reads the colon after a key. -/
def readColon : Reader Unit := fun text =>
  match skipBlanks text with
  | [] => .error .truncated
  | ':' :: rest => .ok ((), rest)
  | _ => .error .malformed

/-- Reads the end of an object. -/
def endObject : Reader Unit := fun text =>
  match skipBlanks text with
  | [] => .error .truncated
  | '\x7d' :: rest => .ok ((), rest)
  | _ => .error .malformed

/-- Reads a whole text: after the value only blanks may follow. -/
def readAll {α : Type} (value : Reader α) (text : String) : Except Fault α := do
  let (a, rest) ← value text.toList
  if (skipBlanks rest).isEmpty then return a else .error .malformed

end BrokerMonitor.Json
