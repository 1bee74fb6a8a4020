/-!
# Cells with a latest value

A cell holds a value and counts how often it was announced. A receiver remembers the last
announcement that it has seen, so that it learns of a change even when the value is the same, and
sees only the latest of several. Once the cell is gone a receiver still gets what it has not seen.
-/

namespace BrokerMonitor

/-- A latest value, with the number of announcements made of it. -/
structure Cell (α : Type) where
  value : α
  version : Nat := 0
deriving Repr, Inhabited

/-- One party's view of a cell: the last announcement that it has seen. -/
structure Receiver where
  seen : Nat
deriving DecidableEq, Repr, Inhabited

/-- What asking a receiver for a change gives. -/
inductive Change (α : Type) where
  | fresh (value : α)
  | none
  | closed
deriving DecidableEq, Repr, Inhabited

namespace Cell

variable {α : Type}

/-- Stores a value and announces it. -/
def announce (c : Cell α) (a : α) : Cell α := ⟨a, c.version + 1⟩

/-- A receiver that has seen what is current. -/
def subscribe (c : Cell α) : Receiver := ⟨c.version⟩

/-- The receiver has seen the latest announcement. -/
def seenBy (c : Cell α) (r : Receiver) : Bool := r.seen == c.version

/-- Asks for a change. An announcement not yet seen comes before the news that the cell is gone. -/
def poll (c : Cell α) (gone : Bool) (r : Receiver) : Change α × Receiver :=
  if c.seenBy r then (if gone then .closed else .none, r) else (.fresh c.value, c.subscribe)

@[simp] theorem value_announce (c : Cell α) (a : α) : (c.announce a).value = a := rfl

@[simp] theorem version_announce (c : Cell α) (a : α) :
    (c.announce a).version = c.version + 1 := rfl

@[simp] theorem seenBy_subscribe (c : Cell α) : c.seenBy c.subscribe = true := by
  simp [seenBy, subscribe]

end Cell

end BrokerMonitor
