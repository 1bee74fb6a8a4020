import BrokerMonitor.Wire.Varint
/-!
# Fields

A message on the wire is a sequence of fields. A field starts with a key, which holds its number and
its wire type; the wire type says how far the field goes, so that a field of an unknown number can
be skipped. Groups nest, and one that is nested too deep is refused.
-/

namespace BrokerMonitor.Wire

/-- How far a field goes. -/
inductive WireType where
  | varint
  | sixtyFourBit
  | lengthDelimited
  | startGroup
  | endGroup
  | thirtyTwoBit
deriving DecidableEq, Repr, Inhabited

namespace WireType

/-- Every wire type; the place of one in the list is its number. -/
def all : List WireType :=
  [.varint, .sixtyFourBit, .lengthDelimited, .startGroup, .endGroup, .thirtyTwoBit]

def number : WireType → Nat
  | .varint => 0
  | .sixtyFourBit => 1
  | .lengthDelimited => 2
  | .startGroup => 3
  | .endGroup => 4
  | .thirtyTwoBit => 5

def ofNumber? (n : Nat) : Option WireType := all[n]?

/-- The name of a wire type in error texts. -/
def name : WireType → String
  | .varint => "Varint"
  | .sixtyFourBit => "SixtyFourBit"
  | .lengthDelimited => "LengthDelimited"
  | .startGroup => "StartGroup"
  | .endGroup => "EndGroup"
  | .thirtyTwoBit => "ThirtyTwoBit"

@[simp] theorem ofNumber?_number (w : WireType) : ofNumber? w.number = some w := by cases w <;> rfl

end WireType

/-- What is wrong with octets that are no message. -/
inductive Fault where
  | invalidVarint
  | invalidKey (key : Nat)
  | invalidWireType (number : Nat)
  | invalidFieldNumber
  | wrongWireType (found expected : WireType)
  | underflow
  /-- The fields of an inner message go beyond its length. -/
  | lengthExceeded
  | notUtf8
  | unexpectedEndGroup
  | tooDeep
deriving DecidableEq, Repr, Inhabited

def Fault.message : Fault → String
  | .invalidVarint => "invalid varint"
  | .invalidKey key => "invalid key value: " ++ Nat.repr key
  | .invalidWireType number => "invalid wire type value: " ++ Nat.repr number
  | .invalidFieldNumber => "invalid tag value: 0"
  | .wrongWireType found expected =>
    "invalid wire type: " ++ found.name ++ " (expected " ++ expected.name ++ ")"
  | .underflow => "buffer underflow"
  | .lengthExceeded => "delimited length exceeded"
  | .notUtf8 => "invalid string value: data is not UTF-8 encoded"
  | .unexpectedEndGroup => "unexpected end group tag"
  | .tooDeep => "recursion limit reached"

/-- Reading from the front of the octets: what was read, and the octets after it. -/
abbrev Reader (α : Type) := List UInt8 → Except Fault (α × List UInt8)

/-- Reads a number. -/
def readVarint : Reader Nat := fun octets =>
  match Varint.read? octets with
  | some r => .ok r
  | none => .error .invalidVarint

/-- A field's number and wire type. -/
structure Key where
  field : Nat
  wireType : WireType
deriving DecidableEq, Repr, Inhabited

namespace Key

/-- The number that a key is written as. -/
def toNat (k : Key) : Nat := k.field * 8 + k.wireType.number

/-- The key of a number. A key has 32 bits, and no field has the number zero. -/
def ofNat (n : Nat) : Except Fault Key :=
  if UInt32.size ≤ n then .error (.invalidKey n)
  else match WireType.ofNumber? (n % 8) with
    | none => .error (.invalidWireType (n % 8))
    | some wireType =>
      if n / 8 = 0 then .error .invalidFieldNumber else .ok ⟨n / 8, wireType⟩

def write (k : Key) : List UInt8 := Varint.write k.toNat

def read : Reader Key := fun octets => do
  let (n, rest) ← readVarint octets
  return (← ofNat n, rest)

end Key

/-- Passes over so many octets. -/
def skipOctets (count : Nat) : Reader Unit := fun octets =>
  if octets.length < count then .error .underflow else .ok ((), octets.drop count)

/-- Passes over the fields of a group up to the end of the group of number `field`. Each field takes
an octet at least, so as many turns as there are octets are enough. -/
def skipGroup (skipField : Key → Reader Unit) (field : Nat) : (turns : Nat) → Reader Unit
  | 0, _ => .error .invalidVarint
  | turns + 1, octets => do
    let (key, rest) ← Key.read octets
    if key.wireType = .endGroup then
      if key.field = field then .ok ((), rest) else .error .unexpectedEndGroup
    else
      let ((), rest) ← skipField key rest
      skipGroup skipField field turns rest

/-- Passes over a field whose key has been read; `depth` is how many groups may be open at once. -/
def skipField : (depth : Nat) → Key → Reader Unit
  | 0, _, _ => .error .tooDeep
  | depth + 1, key, octets =>
    match key.wireType with
    | .varint => do
      let (_, rest) ← readVarint octets
      return ((), rest)
    | .thirtyTwoBit => skipOctets 4 octets
    | .sixtyFourBit => skipOctets 8 octets
    | .lengthDelimited => do
      let (count, rest) ← readVarint octets
      skipOctets count rest
    | .startGroup => skipGroup (skipField depth) key.field octets.length octets
    | .endGroup => .error .unexpectedEndGroup

end BrokerMonitor.Wire
