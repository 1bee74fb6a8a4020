/-!
# Whole numbers in text

Decimal digits with an optional sign in front.
-/

namespace BrokerMonitor.Text

def isDigit (c : Char) : Bool := '0' ≤ c && c ≤ '9'

/-- The number of decimal digits. -/
def digitsValue (digits : List Char) : Nat :=
  digits.foldl (fun n c => n * 10 + (c.toNat - '0'.toNat)) 0

/-- Reads digits, of which there has to be one. -/
def natural? (text : List Char) : Option Nat :=
  if !text.isEmpty && text.all isDigit then some (digitsValue text) else none

/-- Reads digits with an optional plus in front. -/
def positive? : List Char → Option Nat
  | '+' :: rest => natural? rest
  | text => natural? text

/-- Reads digits with an optional sign in front. -/
def integer? : List Char → Option Int
  | '-' :: rest => (natural? rest).map fun n => -(n : Int)
  | text => (positive? text).map Int.ofNat

/-- Reads a 32-bit number, which may have a sign: `-0` is zero. -/
def word32? (text : String) : Option UInt32 :=
  match integer? text.toList with
  | some n => if 0 ≤ n ∧ n.toNat < UInt32.size then some (UInt32.ofNat n.toNat) else none
  | none => none

/-- Reads a 64-bit number, which has no minus. -/
def word64? (text : String) : Option UInt64 :=
  match positive? text.toList with
  | some n => if n < UInt64.size then some (UInt64.ofNat n) else none
  | none => none

example : word32? "+7" = some 7 ∧ word32? "-0" = some 0 ∧ word32? "-1" = none := by decide +kernel

example : word64? "007" = some 7 ∧ word64? "-0" = none ∧ word64? "" = none := by decide +kernel

end BrokerMonitor.Text
