import BrokerMonitor.Unicode.Table
/-!
# Addresses of eight pieces

An address is written as eight hexadecimal numbers between colons. Two colons in a row stand for one
or more zero pieces, once in an address, and the last two pieces may be written as four octets.
-/

namespace BrokerMonitor.Url

/-- An address of eight 16-bit pieces. -/
structure Ipv6 where
  pieces : Vector UInt16 8
deriving DecidableEq, Repr

namespace Ipv6

open Unicode.Table (cut hexDigit?)

/-- Reads one to four hexadecimal digits. -/
def piece? (text : List Char) : Option UInt16 :=
  if text.isEmpty ∨ 4 < text.length then none
  else do
    let n ← text.foldlM (fun n c => (hexDigit? c).map (n * 16 + ·)) 0
    some (UInt16.ofNat n)

/-- Reads a decimal octet, which has no leading zero. -/
def octet? (text : List Char) : Option Nat :=
  match text with
  | [] => none
  | c :: rest =>
    let n := text.foldl (fun n d => n * 10 + (d.toNat - '0'.toNat)) 0
    if text.all Char.isDigit ∧ (c ≠ '0' ∨ rest.isEmpty) ∧ n < 256 then some n else none

/-- Reads four octets as two pieces. -/
def embedded? (text : List Char) : Option (List UInt16) := do
  match ← (cut '.' text).mapM octet? with
  | [a, b, c, d] => some [UInt16.ofNat (a * 256 + b), UInt16.ofNat (c * 256 + d)]
  | _ => none

/-- Reads pieces between colons; the last one may be four octets if `tail` allows it. -/
def group? (tail : Bool) : List (List Char) → Option (List UInt16)
  | [] => some []
  | [last] =>
    if tail && last.contains '.' then embedded? last else (piece? last).map ([·])
  | first :: rest => do
    let p ← piece? first
    let ps ← group? tail rest
    some (p :: ps)

/-- Reads a side of an address; an empty text has no pieces. -/
def side? (tail : Bool) (text : List Char) : Option (List UInt16) :=
  if text.isEmpty then some [] else group? tail (cut ':' text)

/-- Cuts at the first two colons in a row. -/
def cutGap : List Char → Option (List Char × List Char)
  | [] => none
  | ':' :: ':' :: right => some ([], right)
  | c :: rest => (cutGap rest).map fun (left, right) => (c :: left, right)

/-- All eight pieces of an address. -/
def pieces? (text : List Char) : Option (List UInt16) :=
  match cutGap text with
  | none => side? true text
  | some (left, right) => do
    let front ← side? false left
    let back ← side? true right
    if front.length + back.length ≤ 7 then
      some (front ++ List.replicate (8 - (front.length + back.length)) 0 ++ back)
    else none

def ofText? (text : List Char) : Option Ipv6 := do
  let pieces ← pieces? text
  if h : pieces.toArray.size = 8 then some ⟨⟨pieces.toArray, h⟩⟩ else none

/-- How many zero pieces a list begins with. -/
def zeros (pieces : List UInt16) : Nat := (pieces.takeWhile (· == 0)).length

/-- The first longest run of zero pieces, as its start and its length. -/
def longestRun : List UInt16 → Nat × Nat
  | [] => (0, 0)
  | p :: rest =>
    let here := zeros (p :: rest)
    let (start, length) := longestRun rest
    if length ≤ here then (0, here) else (start + 1, length)

/-- A piece in hexadecimal, without leading zeros. -/
def pieceText (p : UInt16) : List Char := Nat.toDigits 16 p.toNat

/-- Pieces between colons. -/
def sideText (pieces : List UInt16) : List Char := [':'].intercalate (pieces.map pieceText)

/-- The address with its first longest run of two or more zero pieces left out. -/
def text (a : Ipv6) : List Char :=
  let pieces := a.pieces.toList
  let (start, length) := longestRun pieces
  if 2 ≤ length then
    sideText (pieces.take start) ++ [':', ':'] ++ sideText (pieces.drop (start + length))
  else sideText pieces

end Ipv6

end BrokerMonitor.Url
