import BrokerMonitor.Proofs.Run.Turn
import BrokerMonitor.Scenario
/-!
# What is in a feed and in a slot

What is put into a feed waits there for its reader: the items, and then the end. Of a series of
events the messages before the first failure, or before the end, are for the slot. A slot that has
taken some messages holds the conversion of the last one, and counts them all.
-/

namespace BrokerMonitor

namespace StreamEvent

variable {r : Resource}

def isMessage : StreamEvent r → Bool
  | .item (.ok _) => true
  | _ => false

/-- The messages before the first failure or the end. -/
def messages : List (StreamEvent r) → List r.Message
  | .item (.ok m) :: rest => m :: messages rest
  | _ => []

/-- The event that is a message. -/
def ofMessage (m : r.Message) : StreamEvent r := .item (.ok m)

@[simp] theorem messages_map_append (ms : List r.Message) (rest : List (StreamEvent r)) :
    messages (ms.map ofMessage ++ rest) = ms ++ messages rest := by
  induction ms with
  | nil => rfl
  | cons m ms ih => exact congrArg (List.cons m) ih

/-- After a failure or the end nothing counts. -/
theorem messages_append_of_stopped {es : List (StreamEvent r)}
    (h : ∃ e ∈ es, e.isMessage = false) (later : List (StreamEvent r)) :
    messages (es ++ later) = messages es := by
  induction es with
  | nil => obtain ⟨e, he, -⟩ := h; cases he
  | cons e es ih =>
      cases e with
      | finished => rfl
      | item i =>
          cases i with
          | error e => rfl
          | ok m =>
              obtain ⟨e, he, hstop⟩ := h
              rcases List.mem_cons.mp he with rfl | he
              · cases hstop
              · exact congrArg (List.cons m) (ih ⟨e, he, hstop⟩)

/-- Nor do a failure and the end themselves. -/
theorem messages_concat {e : StreamEvent r} (he : e.isMessage = false)
    (es : List (StreamEvent r)) : messages (es ++ [e]) = messages es := by
  induction es with
  | nil =>
      cases e with
      | finished => rfl
      | item i =>
          cases i with
          | error e => rfl
          | ok m => cases he
  | cons first es ih =>
      cases first with
      | finished => rfl
      | item i =>
          cases i with
          | error e => rfl
          | ok m => exact congrArg (List.cons m) ih

end StreamEvent

namespace Feed

variable {r : Resource} {f : Feed r}

/-- What a reader of the feed will get: what is pending, and then the end, if that is all. -/
def contents (f : Feed r) : List (StreamEvent r) :=
  f.pending.map .item ++ if f.closed then [.finished] else []

/-- An event is put into the feed. -/
def enter (f : Feed r) : StreamEvent r → Feed r
  | .item i => f.send i
  | .finished => f.close

@[simp] theorem reader_enter (f : Feed r) (e : StreamEvent r) : (f.enter e).reader = f.reader := by
  cases e with
  | item i => exact f.reader_send i
  | finished => rfl

theorem isReleased_eq_false_iff : f.isReleased = false ↔ f.reader ≠ .released := by
  simp [isReleased]

/-- What is put into a feed comes last. -/
theorem contents_enter (hclosed : f.closed = false) (hreader : f.reader ≠ .released)
    (e : StreamEvent r) : (f.enter e).contents = f.contents ++ [e] := by
  cases e with
  | finished => simp [enter, close, contents, hclosed]
  | item i =>
      have hpending := pending_send (isReleased_eq_false_iff.mpr hreader) i
      simp [enter, contents, hclosed, hpending]

theorem messages_contents (f : Feed r) :
    StreamEvent.messages f.contents = Reading.untilFailure f.pending := by
  have hitems : ∀ (items : List r.Item) (last : List (StreamEvent r)),
      StreamEvent.messages last = [] →
        StreamEvent.messages (items.map .item ++ last) = Reading.untilFailure items := by
    intro items last hlast
    induction items with
    | nil => exact hlast
    | cons i items ih =>
        cases i with
        | error e => rfl
        | ok m => exact congrArg (List.cons m) ih
  apply hitems
  cases f.closed <;> rfl

theorem contents_of_hasNews_eq_false (h : f.hasNews = false) : f.contents = [] := by
  simp only [hasNews, Bool.or_eq_false_iff, Bool.not_eq_false', List.isEmpty_iff] at h
  simp [contents, h.1, h.2]

/-- A feed that stays open and has nothing but messages to give. -/
theorem contents_of_messages (hclosed : f.closed = false)
    (hall : (Reading.untilFailure f.pending).map .ok = f.pending) :
    f.contents = (Reading.untilFailure f.pending).map .ofMessage := by
  rw [contents, hclosed, if_neg Bool.false_ne_true, List.append_nil, ← hall, List.map_map, hall]
  rfl

theorem contents_drain (hclosed : f.closed = false) : f.drain.contents = [] := by
  simp [contents, drain, hclosed]

/-- A reader that ends has come to a failure or to the end. -/
theorem stopped_of_ending {n : Nat} {outcome : Outcome}
    (h : Reading.ending true f.closed n f.pending = some outcome) :
    ∃ e ∈ f.contents, e.isMessage = false := by
  have hitems : ∀ (items : List r.Item) (n : Nat),
      Reading.ending true f.closed n items = some outcome →
        ∃ e ∈ items.map StreamEvent.item ++ (if f.closed then [.finished] else []),
          e.isMessage = false := by
    intro items
    induction items with
    | nil =>
        intro n h
        cases hclosed : f.closed with
        | false => simp [Reading.ending, hclosed] at h
        | true => exact ⟨.finished, by simp, rfl⟩
    | cons i items ih =>
        intro n h
        cases i with
        | error e => exact ⟨.item (.error e), by simp, rfl⟩
        | ok m =>
            obtain ⟨e, he, hstop⟩ := ih (n + 1) h
            exact ⟨e, List.mem_cons_of_mem _ he, hstop⟩
  exact hitems f.pending n h

end Feed

/-- What a slot holds once a generation has put some messages into it: the conversion of the last
one. -/
def Snapshot.after {r : Resource} (g : Generation) (ms : List r.Message) : Snapshot r.Record :=
  ⟨g, (ms.getLast?.map r.listing).getD [], ms.length⟩

@[simp] theorem Snapshot.after_nil {r : Resource} (g : Generation) :
    Snapshot.after g ([] : List r.Message) = .empty g := rfl

/-- Each message replaces the listing as a whole. -/
theorem Slot.value_deliver {r : Resource} {slot : Slot r.Record} {g : Generation}
    {first : List r.Message} (h : slot.value = .after g first) (later : List r.Message) :
    (slot.deliver g later).value = .after g (first ++ later) := by
  induction later generalizing slot first with
  | nil => rw [deliver_nil, List.append_nil, h]
  | cons m rest ih =>
      have hgeneration : slot.value.generation = g := by rw [h]; rfl
      have hannounced : (slot.announce ⟨g, r.listing m, slot.value.sequence + 1⟩).value =
          .after g (first ++ [m]) := by
        rw [Cell.value_announce, h]
        simp [Snapshot.after]
      rw [deliver_cons_of_eq hgeneration, ih hannounced, List.append_assoc]
      rfl

end BrokerMonitor
