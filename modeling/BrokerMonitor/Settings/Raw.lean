import BrokerMonitor.Decimal.Style
import BrokerMonitor.Text.Quoted
import BrokerMonitor.Toml.Value
/-!
# Values of settings before they are checked

What a file or a variable gives for a setting may be of any kind. Whole numbers from a file have a
sign, those of variables only if they are written with a minus. Of lists and tables only the kind
matters.
-/

namespace BrokerMonitor.Settings

/-- The value of a setting as a source gives it. -/
inductive Raw where
  | signed (n : Int)
  | unsigned (n : Nat)
  | fraction (x : Float)
  | text (s : String)
  | truth (b : Bool)
  | sequence
  | map
deriving Repr, Inhabited

namespace Raw

/-- The value that a file gives. A date counts as a table. -/
def ofToml : Toml.Value → Raw
  | .text s => .text s
  | .integer n => .signed n
  | .fraction x => .fraction x
  | .truth b => .truth b
  | .moment => .map
  | .array _ => .sequence
  | .table _ _ => .map
  | .tables _ _ => .sequence

/-- The wording of a value in a message. -/
def describe : Raw → String
  | .signed n => "signed int \x60" ++ toString n ++ "\x60"
  | .unsigned n => "unsigned int \x60" ++ Nat.repr n ++ "\x60"
  | .fraction x => "float \x60" ++ Decimal.Style.positional.writeFloat x ++ "\x60"
  | .text s => "string " ++ Text.quoted s
  | .truth b => "bool " ++ (if b then "true" else "false")
  | .sequence => "sequence"
  | .map => "map"

/-- Why a value does not fit a setting. -/
inductive Misfit where
  | wrongType (found : Raw) (expected : String)
  | wrongValue (found : Raw) (expected : String)
deriving Repr, Inhabited

def Misfit.message : Misfit → String
  | .wrongType found expected =>
    "invalid type: found " ++ found.describe ++ ", expected " ++ expected
  | .wrongValue found expected => "invalid value " ++ found.describe ++ ", expected " ++ expected

/-- The value as a text. -/
def asText : Raw → Except Misfit String
  | .text s => .ok s
  | found => .error (.wrongType found "a string")

/-- The value as a whole number below a bound, where `expected` names the kind of number. -/
def asNat (bound : Nat) (expected : String) : Raw → Except Misfit Nat
  | .signed n =>
    if 0 ≤ n ∧ n.toNat < bound then .ok n.toNat else .error (.wrongValue (.signed n) expected)
  | .unsigned n => if n < bound then .ok n else .error (.wrongValue (.unsigned n) expected)
  | found => .error (.wrongType found expected)

def asWord32 (raw : Raw) : Except Misfit UInt32 :=
  (raw.asNat UInt32.size "u32").map UInt32.ofNat

def asWord64 (raw : Raw) : Except Misfit UInt64 :=
  (raw.asNat UInt64.size "u64").map UInt64.ofNat

end Raw

end BrokerMonitor.Settings
