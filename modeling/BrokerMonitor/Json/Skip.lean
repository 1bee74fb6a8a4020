import BrokerMonitor.Json.Reader
/-!
# Passing over a value

A value that nobody asked for is passed over. It has to be well-formed, but it may nest without
limit, its numbers may be out of range, and the escapes in its texts need not be characters.
-/

namespace BrokerMonitor.Json

/-- Passes over digits, of which there has to be one. -/
def skipDigits : Reader Unit := fun text =>
  if (text.takeWhile isDigit).isEmpty then .error .malformed
  else .ok ((), text.dropWhile isDigit)

/-- Passes over an exponent, if there is one. -/
def skipExponent : Reader Unit := fun text =>
  let afterLetter (rest : List Char) : Except Fault (Unit × List Char) :=
    match rest with
    | '+' :: rest => skipDigits rest
    | '-' :: rest => skipDigits rest
    | _ => skipDigits rest
  match text with
  | 'e' :: rest => afterLetter rest
  | 'E' :: rest => afterLetter rest
  | _ => .ok ((), text)

/-- Passes over the places after the point, if there is one, and an exponent. -/
def skipPlaces : Reader Unit
  | '.' :: rest => do
    let ((), rest) ← skipDigits rest
    skipExponent rest
  | text => skipExponent text

/-- Passes over a number without its sign. -/
def skipMagnitude : Reader Unit
  | '0' :: rest =>
    match rest with
    | c :: _ => if isDigit c then .error .malformed else skipPlaces rest
    | [] => .ok ((), [])
  | text => do
    let ((), rest) ← skipDigits text
    skipPlaces rest

/-- Passes over what follows a backslash. -/
def skipEscape : Reader Unit
  | [] => .error .truncated
  | 'u' :: rest => do
    let (_, rest) ← readHex rest
    return ((), rest)
  | c :: rest => if (shortEscape? c).isSome then .ok ((), rest) else .error .malformed

/-- Passes over the characters of a text up to its end. -/
def skipChars : (turns : Nat) → Reader Unit
  | 0, _ => .error .truncated
  | _ + 1, [] => .error .truncated
  | turns + 1, c :: rest =>
    if c = '"' then .ok ((), rest)
    else if c = '\\' then do
      let ((), rest) ← skipEscape rest
      skipChars turns rest
    else if c.toNat < 0x20 then .error .malformed
    else skipChars turns rest

/-- Passes over a text whose opening quote has been read. -/
def skipTextBody : Reader Unit := fun text => skipChars text.length text

/-- An array or an object that has been opened. -/
inductive Bracket where
  | array
  | object
deriving DecidableEq, Repr, Inhabited

/-- The character that closes it. -/
def Bracket.closing : Bracket → Char
  | .array => ']'
  | .object => '\x7d'

/-- After a value: closes brackets up to a comma, and gives those that are still open, or nothing
when the outermost value is complete. -/
def closeBrackets : List Bracket → Reader (Option (List Bracket))
  | [], text => .ok (none, text)
  | b :: outer, text =>
    match skipBlanks text with
    | [] => .error .truncated
    | c :: rest =>
      if c = ',' then .ok (some (b :: outer), rest)
      else if c = b.closing then closeBrackets outer rest
      else .error .malformed

/-- After an opening bracket: closes it at once, or leaves it open. -/
def openBracket (b : Bracket) (outer : List Bracket) : Reader (Option (List Bracket)) := fun text =>
  match skipBlanks text with
  | [] => .error .truncated
  | c :: rest =>
    if c = b.closing then closeBrackets outer rest else .ok (some (b :: outer), c :: rest)

/-- Passes over a key and its colon, where the innermost open bracket is an object's. -/
def skipKey : List Bracket → Reader Unit
  | .object :: _, text =>
    match skipBlanks text with
    | [] => .error .truncated
    | c :: rest =>
      if c = '"' then do
        let ((), rest) ← skipTextBody rest
        readColon rest
      else .error .malformed
  | _, text => .ok ((), text)

/-- Passes over a value that is no array and no object, or over an opening bracket. -/
def skipStart (opened : List Bracket) : Reader (Option (List Bracket)) := fun text => do
  let complete (r : Except Fault (Unit × List Char)) :
      Except Fault (Option (List Bracket) × List Char) := do
    let ((), rest) ← r
    closeBrackets opened rest
  match skipBlanks text with
  | [] => .error .truncated
  | 'n' :: rest => complete (readWord "ull".toList rest)
  | 't' :: rest => complete (readWord "rue".toList rest)
  | 'f' :: rest => complete (readWord "alse".toList rest)
  | '"' :: rest => complete (skipTextBody rest)
  | '-' :: rest => complete (skipMagnitude rest)
  | '[' :: rest => openBracket .array opened rest
  | '\x7b' :: rest => openBracket .object opened rest
  | c :: rest => if isDigit c then complete (skipMagnitude (c :: rest)) else .error .malformed

/-- Passes over values until every bracket is closed. Each turn takes a character at least. -/
def skipValues : (turns : Nat) → List Bracket → Reader Unit
  | 0, _, _ => .error .truncated
  | turns + 1, opened, text => do
    let ((), rest) ← skipKey opened text
    match ← skipStart opened rest with
    | (none, rest) => return ((), rest)
    | (some opened, rest) => skipValues turns opened rest

/-- Passes over a value. -/
def skipValue : Reader Unit := fun text => skipValues (text.length + 1) [] text

end BrokerMonitor.Json
