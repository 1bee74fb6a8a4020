import BrokerMonitor.Decimal.Power
/-!
# Shortest decimals

A binary floating-point number stands for all reals that round to it. Of the decimals among those,
the shortest is the one with the fewest digits, and among these the one nearest to the number.
-/

namespace BrokerMonitor

/-- The number `digits · 10 ^ exponent`. -/
structure Decimal where
  digits : Nat
  exponent : Int
deriving DecidableEq, Repr, Inhabited

namespace Decimal

/-- The same number with no zero at the end of its digits, if so many steps are enough for that. -/
def stripWithin (d : Decimal) : Nat → Decimal
  | 0 => d
  | steps + 1 =>
    if d.digits ≠ 0 ∧ d.digits % 10 = 0 then
      stripWithin ⟨d.digits / 10, d.exponent + 1⟩ steps
    else d

/-- The same number with no zero at the end of its digits. -/
def strip (d : Decimal) : Decimal := d.stripWithin (Nat.toDigits 10 d.digits).length

/-- The exponent in scientific notation: the place of the first digit. -/
def magnitude (d : Decimal) : Int := d.exponent + (Nat.toDigits 10 d.digits).length - 1

end Decimal

namespace Shortest

/-- The reals that round to a number: all between `low / den` and `high / den`, with the ends if
`closed`; the number itself is `mid / den`. -/
structure Interval where
  low : Nat
  mid : Nat
  high : Nat
  den : Nat
  closed : Bool
deriving Repr

/-- The interval of `m · 2 ^ e`; below a power of two the spacing is half of that above, unless it
is the lowest. -/
def Interval.of (m : Nat) (e : Int) (narrowBelow : Bool) : Interval :=
  let scale := twoTo (e - 2).toNat
  let low := if narrowBelow then 4 * m - 1 else 4 * m - 2
  ⟨low * scale, 4 * m * scale, (4 * m + 2) * scale, twoTo (2 - e).toNat, m % 2 = 0⟩

/-- A decimal as a fraction. -/
def fraction (d : Decimal) : Nat × Nat :=
  (d.digits * tenTo d.exponent.toNat, tenTo (-d.exponent).toNat)

/-- The decimal rounds to the number. -/
def Interval.has (i : Interval) (d : Decimal) : Bool :=
  let (n, m) := fraction d
  if i.closed then i.low * m ≤ n * i.den && n * i.den ≤ i.high * m
  else i.low * m < n * i.den && n * i.den < i.high * m

/-- The place of the first digit of `mid / den`: the number is at least ten to it, and less than ten
to the next. -/
def Interval.magnitude (i : Interval) : Int :=
  let whole := i.mid / i.den
  if whole ≠ 0 then (Nat.toDigits 10 whole).length - 1
  else
    let turned := (i.den + i.mid - 1) / i.mid
    let length := (Nat.toDigits 10 turned).length
    if turned = tenTo (length - 1) then 1 - (length : Int) else - (length : Int)

/-- The decimal with `count` digits that is nearest to the number, if it rounds to it; the one below
and the one above are the only candidates. -/
def Interval.nearest? (i : Interval) (count : Nat) : Option Decimal :=
  let exponent := i.magnitude - count + 1
  let scaledMid := i.mid * tenTo (-exponent).toNat
  let scaledDen := i.den * tenTo exponent.toNat
  let digits := scaledMid / scaledDen
  let below : Decimal := ⟨digits, exponent⟩
  let above : Decimal := ⟨digits + 1, exponent⟩
  let twiceRest := 2 * (scaledMid - digits * scaledDen)
  let preferBelow := twiceRest < scaledDen || (twiceRest = scaledDen && digits % 2 = 0)
  match i.has below, i.has above with
  | true, true => some (if preferBelow then below else above)
  | true, false => some below
  | false, true => some above
  | false, false => none

/-- Every finite number has a decimal of at most so many digits. -/
def maxDigits : Nat := 17

/-- The shortest decimal of an interval. -/
def Interval.shortest (i : Interval) : Decimal :=
  (((List.range maxDigits).findSome? fun n => i.nearest? (n + 1)).getD ⟨i.mid / i.den, 0⟩).strip

end Shortest

namespace Decimal

/-- The shortest decimal of the magnitude of a finite floating-point number. -/
def ofFloat (x : Float) : Decimal :=
  let bits := x.toBits.toNat
  let field : Nat := bits / twoTo 52 % twoTo 11
  let fraction : Nat := bits % twoTo 52
  if field = 0 then
    if fraction = 0 then ⟨0, 0⟩ else (Shortest.Interval.of fraction (-1074) false).shortest
  else
    (Shortest.Interval.of (twoTo 52 + fraction) ((field : Int) - 1075)
      (fraction = 0 && field != 1)).shortest

end Decimal

/-- The sign bit of a floating-point number is set. -/
def floatIsNegative (x : Float) : Bool := x.toBits.toNat / twoTo 63 = 1

end BrokerMonitor
