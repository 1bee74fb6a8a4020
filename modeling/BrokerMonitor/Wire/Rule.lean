import BrokerMonitor.Text.Utf8
import BrokerMonitor.Wire.Field
/-!
# Message rules

The rule of a message says which fields it declares and what each of them does to the message read
so far. A field that is not declared is skipped. A field that is given twice is read twice, so the
last one counts, or all of them where the field is repeated.

A message inside a message is read on the octets of the outer one: its length is only where its
reading has to stop. So a field of it that goes beyond its length is noticed after the field.
-/

namespace BrokerMonitor.Wire

/-- An error of decoding: what is wrong, and inside which fields, innermost first. -/
structure DecodeError where
  fault : Fault
  path : List (String × String) := []
deriving DecidableEq, Repr, Inhabited

namespace DecodeError

def message (e : DecodeError) : String :=
  "failed to decode Protobuf message: " ++
    String.join (e.path.map fun (message, field) => message ++ "." ++ field ++ ": ") ++
    e.fault.message

/-- The error as seen from around one more field. -/
def inside (message field : String) (e : DecodeError) : DecodeError :=
  { e with path := e.path ++ [(message, field)] }

end DecodeError

/-- Reading with errors that say where they are. -/
abbrev Decoder (α : Type) := List UInt8 → Except DecodeError (α × List UInt8)

/-- A declared field: its name, its wire type, and how its value changes the message. -/
structure FieldRule (α : Type) where
  name : String
  wireType : WireType
  value : Decoder (α → α)

/-- A message: its name and the fields that it declares. -/
structure Rule (α : Type) where
  name : String
  field? : Nat → Option (FieldRule α)

/-- A reading whose errors are inside no field. -/
def Reader.located {α : Type} (r : Reader α) : Decoder α := fun octets =>
  (r octets).mapError ({ fault := · })

/-- How many groups and messages may be open at once. -/
def maxDepth : Nat := 100

namespace Rule

variable {α β : Type}

/-- Reads the field of a key that has been read. -/
def readField (rule : Rule α) (depth : Nat) (key : Key) : Decoder (α → α) := fun octets =>
  match rule.field? key.field with
  | none => do
    let ((), rest) ← Reader.located (skipField depth key) octets
    return (id, rest)
  | some field =>
    (if key.wireType = field.wireType then field.value octets
      else .error { fault := .wrongWireType key.wireType field.wireType }).mapError
      (DecodeError.inside rule.name field.name)

/-- Reads fields until at most `after` octets are left. Each field takes an octet at least, so as
many turns as there are octets are enough. -/
def readFields (rule : Rule α) (depth after : Nat) : (turns : Nat) → α → Decoder α
  | 0, a, octets => .ok (a, octets)
  | turns + 1, a, octets =>
    if octets.length ≤ after then .ok (a, octets)
    else do
      let (key, rest) ← Reader.located Key.read octets
      let (change, rest) ← rule.readField depth key rest
      rule.readFields depth after turns (change a) rest

/-- Reads a whole message. -/
def decode (rule : Rule α) (empty : α) (octets : List UInt8) : Except DecodeError α :=
  (rule.readFields maxDepth 0 octets.length empty octets).map (·.1)

/-- Reads a length that lies within the octets left. -/
def readLength : Reader Nat := fun octets => do
  let (count, rest) ← readVarint octets
  if rest.length < count then .error .underflow else .ok (count, rest)

/-- Reads a text. -/
def readText : Reader String := fun octets => do
  let (count, rest) ← readLength octets
  match Utf8.decode? (rest.take count) with
  | some text => return (text, rest.drop count)
  | none => .error .notUtf8

/-- Reads a message inside another one. -/
def readInner (rule : Rule β) (empty : β) (depth : Nat) : Decoder β := fun octets => do
  let (count, rest) ← readLength.located octets
  let after := rest.length - count
  let (b, rest) ← rule.readFields depth after rest.length empty rest
  if rest.length = after then .ok (b, rest) else .error { fault := .lengthExceeded }

end Rule

namespace FieldRule

variable {α β : Type}

/-- A field whose value is a number; `put` is given it in 64 bits. -/
def varint (name : String) (put : UInt64 → α → α) : FieldRule α where
  name
  wireType := .varint
  value octets := do
    let (n, rest) ← readVarint.located octets
    return (put (UInt64.ofNat n), rest)

/-- A field whose value is a text. -/
def text (name : String) (put : String → α → α) : FieldRule α where
  name
  wireType := .lengthDelimited
  value octets := do
    let (s, rest) ← Rule.readText.located octets
    return (put s, rest)

/-- A field whose value is a message of its own. -/
def message (name : String) (rule : Rule β) (empty : β) (put : β → α → α) : FieldRule α where
  name
  wireType := .lengthDelimited
  value octets := do
    let (b, rest) ← rule.readInner empty (maxDepth - 1) octets
    return (put b, rest)

end FieldRule

/-! ### Writing -/

/-- Writes a number, unless it is zero, which is what an absent field means. -/
def writeVarint (field : Nat) (n : UInt64) : List UInt8 :=
  if n = 0 then [] else Key.write ⟨field, .varint⟩ ++ Varint.write n.toNat

/-- Writes octets with their length in front. -/
def writeDelimited (field : Nat) (octets : List UInt8) : List UInt8 :=
  Key.write ⟨field, .lengthDelimited⟩ ++ Varint.write octets.length ++ octets

/-- Writes a text of a repeated field. -/
def writeText (field : Nat) (s : String) : List UInt8 := writeDelimited field (Utf8.encode s)

/-- Writes a text, unless it is empty, which is what an absent field means. -/
def writeTextUnlessEmpty (field : Nat) (s : String) : List UInt8 :=
  if s.isEmpty then [] else writeText field s

end BrokerMonitor.Wire
