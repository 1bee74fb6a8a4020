/-!
# Character tables

Tables of characters are written as text: words separated by blanks, numbers in hexadecimal. A range
is written `start-end`, or as one number; an image is written `source>first+second+…`.
-/

namespace BrokerMonitor.Unicode.Table

/-- The value of a hexadecimal digit in either case. -/
def hexDigit? (c : Char) : Option Nat :=
  if '0' ≤ c ∧ c ≤ '9' then some (c.toNat - '0'.toNat)
  else if 'a' ≤ c ∧ c ≤ 'f' then some (c.toNat - 'a'.toNat + 10)
  else if 'A' ≤ c ∧ c ≤ 'F' then some (c.toNat - 'A'.toNat + 10)
  else none

/-- Reads a hexadecimal number; a character that is no digit counts as zero. -/
def hex (digits : List Char) : Nat :=
  digits.foldl (fun n c => n * 16 + (hexDigit? c).getD 0) 0

/-- Cuts a list at every `sep`, which is left out. -/
def cut (sep : Char) : List Char → List (List Char)
  | [] => [[]]
  | c :: rest =>
    if c = sep then [] :: cut sep rest
    else match cut sep rest with
      | [] => [[c]]
      | first :: others => (c :: first) :: others

/-- The words of a table's text; the end of a line parts words too. -/
def words (text : String) : List (List Char) :=
  ((cut '\n' text.toList).flatMap (cut ' ')).filter (! ·.isEmpty)

/-- Ranges of characters, each with its first and last number. -/
abbrev Ranges := List (Nat × Nat)

/-- Reads `start-end` or one number. -/
def range (word : List Char) : Nat × Nat :=
  match cut '-' word with
  | [first, last] => (hex first, hex last)
  | _ => (hex word, hex word)

def ranges (text : String) : Ranges := (words text).map range

/-- The character lies in one of the ranges. -/
def Ranges.has (rs : Ranges) (c : Char) : Bool :=
  rs.any fun r => decide (r.1 ≤ c.toNat) && decide (c.toNat ≤ r.2)

/-- Reads `source>first+second+…`. -/
def image (word : List Char) : Nat × List Char :=
  match cut '>' word with
  | [source, target] => (hex source, (cut '+' target).map fun digits => Char.ofNat (hex digits))
  | _ => (0, [])

def images (text : String) : Array (Nat × List Char) := ((words text).map image).toArray

theorem cut_ne_nil (sep : Char) (l : List Char) : cut sep l ≠ [] := by
  cases l with
  | nil => simp [cut]
  | cons c rest =>
    simp only [cut]
    split
    · simp
    · split <;> simp

end BrokerMonitor.Unicode.Table
