import BrokerMonitor.Json.Skip
/-!
# Reading structures

A structure is written as an object with its fields in any order, where unknown fields are passed
over, or as an array of its fields in the order of their declaration. A name out of a few is written
as a text, or as an object from that name to null.
-/

namespace BrokerMonitor.Json

/-- A field of a structure that is read into `σ`: whether it has been read, and how it is. -/
structure FieldReader (σ : Type) where
  name : String
  isRead : σ → Bool
  read : σ → Reader σ

/-- How a field is read whose values are kept in an optional place. -/
def FieldReader.of {σ α : Type} (name : String) (place : σ → Option α) (put : α → σ → σ)
    (value : Reader α) : FieldReader σ where
  name
  isRead parts := (place parts).isSome
  read parts text := do
    let (a, rest) ← value text
    return (put a parts, rest)

/-- How a structure is read: its name, and its fields in the order of their declaration. -/
structure StructReader (σ : Type) where
  name : String
  fields : List (FieldReader σ)

namespace StructReader

variable {σ : Type}

/-- What is expected where the structure is. -/
def expected (s : StructReader σ) : String := "struct " ++ s.name

/-- Reads the fields in order from an array. -/
def readInOrder (s : StructReader σ) : (done : Nat) → List (FieldReader σ) → σ → Reader σ
  | _, [], parts, text => .ok (parts, text)
  | done, field :: more, parts, text => do
    match ← nextItem (done = 0) text with
    | (false, _) =>
      .error (.mismatch (.wrongLength done
        (s.expected ++ " with " ++ Nat.repr s.fields.length ++ " elements")))
    | (true, rest) =>
      let (parts, rest) ← field.read parts rest
      s.readInOrder (done + 1) more parts rest

/-- Reads fields by name from an object until it ends. Each takes a character at least. -/
def readByName (s : StructReader σ) : (turns : Nat) → (first : Bool) → σ → Reader σ
  | 0, _, _, _ => .error .truncated
  | turns + 1, first, parts, text => do
    match ← nextKey first text with
    | (false, rest) => return (parts, rest)
    | (true, rest) =>
      let (key, rest) ← readTextBody rest
      match s.fields.find? (·.name == key) with
      | some field =>
        if field.isRead parts then .error (.mismatch (.duplicateField key))
        else
          let ((), rest) ← readColon rest
          let (parts, rest) ← field.read parts rest
          s.readByName turns false parts rest
      | none =>
        let ((), rest) ← readColon rest
        let ((), rest) ← skipValue rest
        s.readByName turns false parts rest

/-- The first field that has not been read. -/
def missing? (s : StructReader σ) (parts : σ) : Option String :=
  (s.fields.find? fun field => !field.isRead parts).map (·.name)

/-- Reads the structure, starting with no field read. -/
def read (s : StructReader σ) (none : σ) : Reader σ := fun text =>
  match skipBlanks text with
  | '[' :: rest => do
    let (parts, rest) ← s.readInOrder 0 s.fields none rest
    let ((), rest) ← endArray rest
    return (parts, rest)
  | '\x7b' :: rest => do
    let (parts, rest) ← s.readByName rest.length true none rest
    match s.missing? parts with
    | some field => .error (.mismatch (.missingField field))
    | .none =>
      let ((), rest) ← endObject rest
      return (parts, rest)
  | text => refuse s.expected text

end StructReader

/-- Reads one of a few names. -/
def readName {α : Type} (ofName? : String → Option α) (names : List String) : Reader α :=
  fun text => do
  let named (name : String) : Except Fault α :=
    match ofName? name with
    | some a => .ok a
    | none => .error (.mismatch (.unknownVariant name names))
  match skipBlanks text with
  | [] => .error .truncated
  | '"' :: rest => do
    let (name, rest) ← readTextBody rest
    return (← named name, rest)
  | '\x7b' :: rest => do
    let (name, rest) ← readText "variant identifier" rest
    let a ← named name
    let ((), rest) ← readColon rest
    let ((), rest) ← readNull rest
    let ((), rest) ← endObject rest
    return (a, rest)
  | _ => .error .malformed

end BrokerMonitor.Json
