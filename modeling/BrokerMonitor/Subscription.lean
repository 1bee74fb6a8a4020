import BrokerMonitor.Snapshot
/-!
# Subscriptions

A subscription follows one slot. It keeps the listing it saw last, at its start or by `changed`, and
can look at the latest one without using up the news of it. Turned into a stream, it first yields
whatever is current when the first item is asked for, then the changes after that.
-/

namespace BrokerMonitor

/-- What asking a subscription or a stream for its next listing gives. -/
inductive Next (α : Type) where
  | snapshot (s : Snapshot α)
  | pending
  | ended
deriving DecidableEq, Repr, Inhabited

/-- A party that follows one slot by polling. -/
structure Subscription (α : Type) where
  /-- The listing seen at the start or by the last change. -/
  current : Snapshot α
  receiver : Receiver
deriving DecidableEq, Repr, Inhabited

/-- A subscription turned into a stream of listings. -/
structure ListingStream where
  receiver : Receiver
  /-- The first item has been yielded. -/
  started : Bool := false
deriving DecidableEq, Repr, Inhabited

namespace Subscription

variable {α : Type}

/-- Subscribes to a slot, and captures its listing. -/
def start (slot : Slot α) : Subscription α := ⟨slot.value, slot.subscribe⟩

/-- Asks for a change of the slot; `gone` says that the slot's store no longer exists. -/
def changed (s : Subscription α) (slot : Slot α) (gone : Bool) : Subscription α × Next α :=
  match slot.poll gone s.receiver with
  | (.fresh snapshot, receiver) => (⟨snapshot, receiver⟩, .snapshot snapshot)
  | (.none, _) => (s, .pending)
  | (.closed, _) => (s, .ended)

/-- The stream of listings from here on. -/
def intoStream (s : Subscription α) : ListingStream := ⟨s.receiver, false⟩

end Subscription

namespace ListingStream

variable {α : Type}

/-- The next item: at first what is current, and then each change. -/
def next (s : ListingStream) (slot : Slot α) (gone : Bool) : ListingStream × Next α :=
  if s.started then
    match slot.poll gone s.receiver with
    | (.fresh snapshot, receiver) => (⟨receiver, true⟩, .snapshot snapshot)
    | (.none, _) => (s, .pending)
    | (.closed, _) => (s, .ended)
  else (⟨slot.subscribe, true⟩, .snapshot slot.value)

end ListingStream

end BrokerMonitor
