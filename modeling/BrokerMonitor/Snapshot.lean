import BrokerMonitor.Cell
import BrokerMonitor.Generation
import BrokerMonitor.Wire.Message
/-!
# Snapshots

A slot holds the latest listing of one resource. Each message replaces the listing as a whole and
counts one up; a new generation empties the slot, and from then on only that generation may write.
-/

namespace BrokerMonitor

/-- One complete listing as last delivered. -/
structure Snapshot (α : Type) where
  /-- The generation of the stream that delivered the listing. -/
  generation : Generation
  records : List α
  /-- How many messages this generation has delivered; zero means that no listing has arrived. -/
  sequence : Nat
deriving DecidableEq, Repr, Inhabited

namespace Snapshot

/-- The placeholder that a generation starts with. -/
def empty {α : Type} (g : Generation) : Snapshot α := ⟨g, [], 0⟩

/-- A stream of generation `g` has delivered the listing; the placeholder is no listing. -/
def isListingOf {α : Type} (s : Snapshot α) (g : Generation) : Bool :=
  s.generation == g && decide (0 < s.sequence)

@[simp] theorem isListingOf_empty {α : Type} (g h : Generation) :
    (empty g : Snapshot α).isListingOf h = false := by
  simp [isListingOf, empty]

end Snapshot

/-- The cell of one resource's latest listing. -/
abbrev Slot (α : Type) := Cell (Snapshot α)

namespace Slot

variable {α : Type}

/-- The slot before any connect. -/
def initial : Slot α := ⟨.empty .initial, 0⟩

/-- Empties the slot and makes `g` the only generation that may write. -/
def reset (slot : Slot α) (g : Generation) : Slot α := slot.announce (.empty g)

/-- Replaces the listing, if `g` is the slot's generation. -/
def replace? (slot : Slot α) (g : Generation) (records : List α) : Option (Slot α) :=
  if slot.value.generation = g then
    some (slot.announce ⟨g, records, slot.value.sequence + 1⟩)
  else none

@[simp] theorem value_reset (slot : Slot α) (g : Generation) :
    (slot.reset g).value = .empty g := rfl

theorem replace?_isSome_iff (slot : Slot α) (g : Generation) (records : List α) :
    (slot.replace? g records).isSome = true ↔ slot.value.generation = g := by
  unfold replace?; split <;> simp_all

end Slot

/-- The slots of all resources. -/
abbrev Store := EachResource fun r => Slot r.Record

namespace Store

/-- The store before any connect. -/
def initial : Store := .build fun _ => Slot.initial

/-- Opens a generation in every slot. -/
def reset (s : Store) (g : Generation) : Store := .build fun r => (s.get r).reset g

end Store

end BrokerMonitor
