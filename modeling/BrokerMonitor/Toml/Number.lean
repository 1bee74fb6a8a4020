import BrokerMonitor.Decimal.Nearest
import BrokerMonitor.Toml.Quoted
/-!
# TOML numbers, dates and times

A whole number fits in 64 bits with a sign. Underscores stand only between digits.
-/

namespace BrokerMonitor.Toml

open Text (Reader isDigit)

/-- Reads digits of a class; between two of them may stand an underscore. -/
def digitsOf (p : Char → Bool) : Reader (List Char) := fun text => do
  let group : Reader (List Char) := Reader.run1 p
  let (groups, rest) ← Reader.separated group (Reader.word ['_']) text
  return (groups.flatten, rest)

/-- Reads the sign of a number, if it has one; it says whether it is a minus. -/
def sign : Reader (List Char)
  | '+' :: rest => some (['+'], rest)
  | '-' :: rest => some (['-'], rest)
  | text => some ([], text)

/-- Reads decimal digits; a zero at their start stands alone. -/
def wholeDigits : Reader (List Char)
  | '0' :: rest => some (['0'], rest)
  | text => digitsOf isDigit text

/-- The least and the greatest whole number. -/
def inRange (n : Int) : Bool := Int64.minValue.toInt ≤ n && n ≤ Int64.maxValue.toInt

/-- Reads a whole number in a base after the letter that names it. -/
def inBase (base : Nat) : Reader Int := fun text => do
  let isBaseDigit (c : Char) : Bool := (hexValue? c).any (· < base)
  let (digits, rest) ← digitsOf isBaseDigit text
  let n := digits.foldl (fun n c => n * base + (hexValue? c).getD 0) 0
  if inRange n then return (n, rest) else none

/-- Reads a whole number. -/
def integer : Reader Int
  | '0' :: 'x' :: rest => inBase 16 rest
  | '0' :: 'o' :: rest => inBase 8 rest
  | '0' :: 'b' :: rest => inBase 2 rest
  | text => do
    let (s, rest) ← sign text
    let (digits, rest) ← wholeDigits rest
    let n ← Text.integer? (s ++ digits)
    if inRange n then return (n, rest) else none

/-- Reads the places after the point. -/
def places : Reader (List Char)
  | '.' :: rest => do
    let (digits, rest) ← digitsOf isDigit rest
    return ('.' :: digits, rest)
  | _ => none

/-- Reads an exponent. -/
def exponent : Reader (List Char) := fun text => do
  let (_, rest) ← Reader.char (fun c => c = 'e' || c = 'E') text
  let (s, rest) ← sign rest
  let (digits, rest) ← digitsOf isDigit rest
  return ('e' :: s ++ digits, rest)

/-- Reads places with an optional exponent, or an exponent. -/
def fractionTail : Reader (List Char) := fun text =>
  (do
    let (digits, rest) ← places text
    let (e, rest) ← Reader.optional exponent rest
    return (digits ++ e.getD [], rest)) <|> exponent text

/-- Reads a number with places or an exponent. One that is too large is refused, while one that is
too far below zero is minus infinity. -/
def fraction : Reader Float := fun text => do
  let (s, rest) ← sign text
  let (whole, rest) ← wholeDigits rest
  let (tail, rest) ← fractionTail rest
  let x ← readFloat? (s ++ whole ++ tail)
  if x.isInf ∧ 0 < x then none else return (x, rest)

/-- Reads infinity, or what is not a number, with an optional sign. -/
def special : Reader Float := fun text => do
  let (s, rest) ← sign text
  let (x, rest) ←
    ((Reader.word "inf".toList rest).map fun ((), rest) => ((1.0 / 0.0 : Float), rest)) <|>
    ((Reader.word "nan".toList rest).map fun ((), rest) => ((0.0 / 0.0 : Float), rest))
  return (if s = ['-'] then -x else x, rest)

/-! ### Dates and times -/

/-- Reads a number of so many digits within limits. -/
def fixedDigits (count low high : Nat) : Reader Nat := fun text => do
  let n ← Text.natural? (text.take count)
  if (text.take count).length = count ∧ low ≤ n ∧ n ≤ high then return (n, text.drop count)
  else none

def isLeapYear (year : Nat) : Bool := year % 4 = 0 && (year % 100 ≠ 0 || year % 400 = 0)

/-- The number of days of a month. -/
def daysIn (year month : Nat) : Nat :=
  if month = 2 then (if isLeapYear year then 29 else 28)
  else if month ∈ [4, 6, 9, 11] then 30
  else 31

/-- Reads a date of the calendar. -/
def date : Reader Unit := fun text => do
  let (year, rest) ← fixedDigits 4 0 9999 text
  let ((), rest) ← Reader.word ['-'] rest
  let (month, rest) ← fixedDigits 2 1 12 rest
  let ((), rest) ← Reader.word ['-'] rest
  let (_, rest) ← fixedDigits 2 1 (daysIn year month) rest
  return ((), rest)

/-- Reads a time of the day; a minute may have a leap second. -/
def time : Reader Unit := fun text => do
  let (_, rest) ← fixedDigits 2 0 23 text
  let ((), rest) ← Reader.word [':'] rest
  let (_, rest) ← fixedDigits 2 0 59 rest
  let ((), rest) ← Reader.word [':'] rest
  let (_, rest) ← fixedDigits 2 0 60 rest
  match rest with
  | '.' :: rest => do
    let (_, rest) ← Reader.run1 isDigit rest
    return ((), rest)
  | _ => return ((), rest)

/-- Reads how far local time is from universal time. -/
def offset : Reader Unit
  | 'Z' :: rest => some ((), rest)
  | 'z' :: rest => some ((), rest)
  | text => do
    let (_, rest) ← Reader.char (fun c => c = '+' || c = '-') text
    let (_, rest) ← fixedDigits 2 0 23 rest
    let ((), rest) ← Reader.word [':'] rest
    let (_, rest) ← fixedDigits 2 0 59 rest
    return ((), rest)

/-- Reads a date, a time, or a date with a time and perhaps an offset. -/
def moment : Reader Unit := fun text =>
  (do
    let ((), rest) ← date text
    let (_, rest) ← Reader.optional (fun text => do
      let (_, rest) ← Reader.char (fun c => c = 'T' || c = 't' || c = ' ') text
      let ((), rest) ← time rest
      let (_, rest) ← Reader.optional offset rest
      return ((), rest)) rest
    return ((), rest)) <|> time text

end BrokerMonitor.Toml
