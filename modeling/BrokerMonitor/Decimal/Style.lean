import BrokerMonitor.Decimal.Shortest
/-!
# Writing decimals

A style says which numbers are written positionally and whether a whole number keeps its point.
The others are written with one digit before the point and a signed exponent of at least two digits.
-/

namespace BrokerMonitor.Decimal

/-- The decisions that a way of writing numbers makes. -/
structure Style where
  /-- The magnitudes that are written positionally. -/
  isPositional : Int → Bool
  /-- A whole number in positional form ends in `.0`. -/
  keepsPoint : Bool
  notANumber : String := "NaN"
  infinity : String := "inf"

/-- Every number positionally, whole numbers without a point. -/
def Style.positional : Style := ⟨fun _ => true, false, "NaN", "inf"⟩

/-- Sixteen digits before the point and five places after it positionally, with a point. -/
def Style.scientific : Style := ⟨fun m => -5 ≤ m && m ≤ 15, true, "NaN", "inf"⟩

def digitText (n : Nat) : List Char := Nat.toDigits 10 n

/-- The positional form. -/
def writePositional (keepsPoint : Bool) (d : Decimal) : List Char :=
  let digits := digitText d.digits
  if 0 ≤ d.exponent then
    digits ++ List.replicate d.exponent.toNat '0' ++ (if keepsPoint then ['.', '0'] else [])
  else
    let places := (-d.exponent).toNat
    let padded := List.replicate (places + 1 - digits.length) '0' ++ digits
    let whole := padded.length - places
    padded.take whole ++ '.' :: padded.drop whole

/-- The form with an exponent. -/
def writeScientific (d : Decimal) : List Char :=
  let first := (digitText d.digits).take 1
  let others := (digitText d.digits).drop 1
  let magnitude := d.magnitude
  let exponent := digitText magnitude.natAbs
  first ++ (if others.isEmpty then [] else '.' :: others) ++
    ['e', if 0 ≤ magnitude then '+' else '-'] ++
    List.replicate (2 - exponent.length) '0' ++ exponent

/-- The magnitude of a finite number. -/
def Style.write (style : Style) (d : Decimal) : List Char :=
  if d.digits = 0 || style.isPositional d.magnitude then writePositional style.keepsPoint d
  else writeScientific d

/-- A floating-point number, with the fewest digits that read back as it. -/
def Style.writeFloat (style : Style) (x : Float) : String :=
  if x.isNaN then style.notANumber
  else
    let sign := if floatIsNegative x then "-" else ""
    if x.isInf then sign ++ style.infinity
    else sign ++ String.ofList (style.write (.ofFloat x))

end BrokerMonitor.Decimal
