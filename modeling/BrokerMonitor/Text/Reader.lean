/-!
# Reading from the front of a text

A reader takes something from the front of a text and gives the text after it, or it refuses.
-/

namespace BrokerMonitor.Text

/-- What was read, and the text after it. -/
abbrev Reader (α : Type) := List Char → Option (α × List Char)

namespace Reader

/-- Reads a word that has to stand here. -/
def word : List Char → Reader Unit
  | [], text => some ((), text)
  | _ :: _, [] => none
  | w :: ws, c :: rest => if c = w then word ws rest else none

@[simp] theorem word_append (w rest : List Char) : word w (w ++ rest) = some ((), rest) := by
  induction w with
  | nil => rfl
  | cons c w ih => simp [word, ih]

/-- Reads one character of a class. -/
def char (p : Char → Bool) : Reader Char
  | c :: rest => if p c then some (c, rest) else none
  | [] => none

/-- Reads the longest run of characters of a class, which may be empty. -/
def run (p : Char → Bool) : Reader (List Char) := fun text =>
  some (text.takeWhile p, text.dropWhile p)

/-- Reads a run with at least one character. -/
def run1 (p : Char → Bool) : Reader (List Char) := fun text =>
  if (text.takeWhile p).isEmpty then none else some (text.takeWhile p, text.dropWhile p)

/-- Reads what may be missing. -/
def optional {α : Type} (item : Reader α) : Reader (Option α) := fun text =>
  match item text with
  | some (a, rest) => some (some a, rest)
  | none => some (none, text)

/-- Reads items until one is refused, and no more than so many. -/
def manyWithin {α : Type} (item : Reader α) : (turns : Nat) → Reader (List α)
  | 0, text => some ([], text)
  | turns + 1, text =>
    match item text with
    | none => some ([], text)
    | some (a, rest) => do
      let (more, rest) ← manyWithin item turns rest
      return (a :: more, rest)

/-- Reads items until one is refused. Where an item takes a character at least, there are no more
items than characters. -/
def many {α : Type} (item : Reader α) : Reader (List α) := fun text =>
  manyWithin item text.length text

/-- Reads items with a separator between any two of them; there has to be one item. -/
def separated {α : Type} (item : Reader α) (separator : Reader Unit) : Reader (List α) :=
  fun text => do
  let (first, rest) ← item text
  let next : Reader α := fun text => do
    let ((), rest) ← separator text
    item rest
  let (more, rest) ← many next rest
  return (first :: more, rest)

end Reader

end BrokerMonitor.Text
