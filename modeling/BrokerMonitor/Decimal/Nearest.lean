import BrokerMonitor.Decimal.Shortest
import BrokerMonitor.Text.Integer
/-!
# Reading decimals

The floating-point number of a decimal is the nearest one, and of two that are equally near the one
whose significand is even.
-/

namespace BrokerMonitor

namespace Nearest

/-- A quotient as a whole number: the nearest one, and of two the even one. -/
def roundQuotient (num den : Nat) : Nat :=
  let down := num / den
  let twiceRest := 2 * (num % den)
  if den < twiceRest ∨ (twiceRest = den ∧ down % 2 = 1) then down + 1 else down

/-- The largest `n` such that two to it is at most the positive fraction `num / den`. -/
def floorLog (num den : Nat) : Int :=
  let guess : Int := (num.log2 : Int) - den.log2
  if den * twoTo guess.toNat ≤ num * twoTo (-guess).toNat then guess else guess - 1

/-- The bits of the floating-point number nearest to a positive fraction. The significand is counted
in steps of the spacing at its size, which is never below the smallest one. -/
def bitsOfFraction (num den : Nat) : Nat :=
  let step := max (floorLog num den - 52) (-1074)
  let significand := roundQuotient (num * twoTo (-step).toNat) (den * twoTo step.toNat)
  min ((step + 1074).toNat * twoTo 52 + significand) (2047 * twoTo 52)

end Nearest

namespace Decimal

/-- Decimals of this magnitude are larger than every floating-point number. -/
def maxMagnitude : Int := 310

/-- Decimals of this magnitude round to zero. -/
def minMagnitude : Int := -330

/-- The floating-point number nearest to a decimal. -/
def toFloat (d : Decimal) : Float :=
  let bits :=
    if d.digits = 0 ∨ d.magnitude < minMagnitude then 0
    else if maxMagnitude < d.magnitude then 2047 * twoTo 52
    else Nearest.bitsOfFraction (d.digits * tenTo d.exponent.toNat)
        (tenTo (-d.exponent).toNat)
  Float.ofBits (UInt64.ofNat bits)

/-- Reads an exponent after its letter. -/
def readExponent? (text : List Char) : Option Int := Text.integer? text

/-- Reads digits with at most one point among them, and an exponent. -/
def read? (text : List Char) : Option Decimal := do
  let isLetter (c : Char) : Bool := c = 'e' || c = 'E'
  let significand := text.takeWhile fun c => !isLetter c
  let exponent ← match text.dropWhile fun c => !isLetter c with
    | [] => some 0
    | _ :: rest => readExponent? rest
  let whole := significand.takeWhile (· ≠ '.')
  let places := (significand.dropWhile (· ≠ '.')).drop 1
  let digits ← Text.natural? (whole ++ places)
  return ⟨digits, exponent - places.length⟩

end Decimal

/-- Reads a decimal with an optional sign as the floating-point number nearest to it. -/
def readFloat? : List Char → Option Float
  | '-' :: rest => (Decimal.read? rest).map fun d => -d.toFloat
  | '+' :: rest => (Decimal.read? rest).map Decimal.toFloat
  | text => (Decimal.read? text).map Decimal.toFloat

end BrokerMonitor
