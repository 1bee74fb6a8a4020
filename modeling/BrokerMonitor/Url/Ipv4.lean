import BrokerMonitor.Unicode.Table
/-!
# Addresses of four octets

A host that ends in a number is an address: one to four numbers between points, each in decimal, in
octal behind a zero, or in hexadecimal behind `0x`. The last number fills all octets that are left.
-/

namespace BrokerMonitor.Url

/-- An address of four octets. -/
structure Ipv4 where
  bits : UInt32
deriving DecidableEq, Repr, Inhabited

namespace Ipv4

/-- What a part of an address can be. -/
inductive Part where
  | number (n : Nat)
  | tooLarge
  | malformed
deriving DecidableEq, Repr

/-- Reads digits in a radix; a digit out of range makes the part malformed. -/
def digits? (radix : Nat) (text : List Char) : Option Nat :=
  text.foldlM (fun n c => do
    let d ← Unicode.Table.hexDigit? c
    if d < radix then some (n * radix + d) else none) 0

/-- Reads one part. A radix mark without digits stands for zero. -/
def readPart (text : List Char) : Part :=
  let value := match text with
    | [] => none
    | '0' :: 'x' :: rest | '0' :: 'X' :: rest => digits? 16 rest
    | ['0'] => some 0
    | '0' :: rest => digits? 8 rest
    | _ => digits? 10 text
  match value with
  | none => .malformed
  | some n => if n < UInt32.size then .number n else .tooLarge

/-- The parts of a name; one point at the end is dropped. -/
def parts (name : List Char) : List (List Char) :=
  match (Unicode.Table.cut '.' name).reverse with
  | [] :: front@(_ :: _) => front.reverse
  | all => all.reverse

/-- The last part is all digits, or a number in some radix. -/
def endsInNumber (name : List Char) : Bool :=
  match (parts name).reverse with
  | [] => false
  | last :: _ => (!last.isEmpty && last.all Char.isDigit) || readPart last != .malformed

/-- The number of a part that is one. -/
def Part.number? : Part → Option Nat
  | .number n => some n
  | _ => none

/-- Reads an address: all numbers but the last are octets, and the last fits in what is left. -/
def ofName? (name : List Char) : Option Ipv4 := do
  let numbers ← (parts name).mapM fun part => (readPart part).number?
  match numbers.reverse with
  | [] => none
  | last :: front =>
    let octets := front.reverse
    let room := Nat.pow 256 (4 - octets.length)
    if octets.length ≤ 3 ∧ octets.all (· < 256) ∧ last < room then
      some ⟨UInt32.ofNat (octets.foldl (fun n octet => n * 256 + octet) 0 * room + last)⟩
    else none

/-- The four octets, most significant first. -/
def octets (a : Ipv4) : List Nat :=
  [24, 16, 8, 0].map fun place => a.bits.toNat >>> place % 256

/-- Four decimal numbers between points. -/
def text (a : Ipv4) : String := String.intercalate "." (a.octets.map Nat.repr)

end Ipv4

end BrokerMonitor.Url
