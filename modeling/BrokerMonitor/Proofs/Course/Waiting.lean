import BrokerMonitor.Command.Perform
import BrokerMonitor.Proofs.Course.Playing
import BrokerMonitor.Proofs.Listing.Writes
/-!
# Waiting for a listing

A party that waits for a cell looks only when there is something new. It misses nothing by that as
long as a version of the cell stands for one value (`Cell.Coherent`), as it does in the states of a
course: the wait gives the first state that meets the condition. For a listing this is the state of
the first message, if neither a failure nor the end came before.
-/

namespace BrokerMonitor

/-! ### Looking only at what is new -/

namespace Cell

variable {σ α : Type} {cell : σ → Cell α} {p : α → Bool}

/-- The same version shows the same value. -/
def Coherent (cell : σ → Cell α) (a b : σ) : Prop :=
  (cell a).version = (cell b).version → (cell a).value = (cell b).value

/-- Whoever has looked at a state that does not meet the condition finds the first one that does. -/
theorem awaitChange_eq_find? {seen : σ} {states : List σ}
    (hcoherent : (seen :: states).Pairwise (Coherent cell)) (hseen : p (cell seen).value = false) :
    awaitChange cell p (cell seen).subscribe states = states.find? fun s => p (cell s).value := by
  induction states generalizing seen with
  | nil => rfl
  | cons s later ih =>
      obtain ⟨hfirst, hrest⟩ := List.pairwise_cons.mp hcoherent
      unfold awaitChange
      by_cases hnew : (cell s).seenBy (cell seen).subscribe = true
      · -- Nothing was announced since, so the value is the one that was seen.
        have hvalue : (cell seen).value = (cell s).value :=
          hfirst s List.mem_cons_self (eq_of_beq hnew)
        have hpoll : (cell s).poll false (cell seen).subscribe =
            (.none, (cell seen).subscribe) := by
          simp [poll, hnew]
        have hother : p (cell s).value = false := hvalue ▸ hseen
        have hskip : (seen :: later).Pairwise (Coherent cell) :=
          hcoherent.sublist (.cons_cons _ (List.sublist_cons_self _ _))
        rw [hpoll, List.find?_cons, hother]
        exact ih hskip hseen
      · have hpoll : (cell s).poll false (cell seen).subscribe =
            (.fresh (cell s).value, (cell s).subscribe) := by
          simp [poll, hnew]
        rw [hpoll, List.find?_cons]
        cases hmet : p (cell s).value with
        | true => exact if_pos hmet
        | false => exact (if_neg (by simp [hmet])).trans (ih hrest hmet)

/-- A wait gives the first state that meets the condition, whatever has been seen before it. -/
theorem await_eq_find? {now : σ} {states : List σ} (r : Receiver)
    (hcoherent : (now :: states).Pairwise (Coherent cell)) :
    await cell p r (now :: states) = (now :: states).find? fun s => p (cell s).value := by
  rw [await, List.find?_cons]
  cases hmet : p (cell now).value with
  | true => simp
  | false =>
      have hstart : awaitChange cell p r (now :: states) =
          awaitChange cell p (cell now).subscribe states := by
        rw [awaitChange, poll]
        cases hseen : (cell now).seenBy r with
        | false => simp [hmet]
        | true =>
            obtain rfl : r = (cell now).subscribe := congrArg Receiver.mk (eq_of_beq hseen)
            rfl
      rw [if_neg Bool.false_ne_true, hstart]
      exact awaitChange_eq_find? hcoherent hmet

end Cell

/-- Some states in which a slot changes by nothing but writes. -/
def Slot.Written {σ α : Type} (slot : σ → Slot α) (states : List σ) : Prop :=
  states.Pairwise fun a b => ∃ ws, slot b = (slot a).writeAll ws

/-- In them a version of the slot stands for one listing. -/
theorem Slot.Written.coherent {σ α : Type} {slot : σ → Slot α} {states : List σ}
    (h : Slot.Written slot states) : states.Pairwise (Cell.Coherent slot) := by
  refine h.imp ?_
  rintro a b ⟨ws, hws⟩ hversion
  rw [hws] at hversion ⊢
  exact congrArg Cell.value (writeAll_of_version_eq hversion).symm

/-- The states of a monitor are such states. -/
theorem Slot.written_of_leads {states : List (Timed Monitor)}
    (h : states.Pairwise fun a b => a.value.Leads b.value) (r : Resource) :
    Slot.Written (fun state : Timed Monitor => state.value.store.get r) states :=
  h.imp fun hleads => Monitor.exists_writeAll_of_leads hleads r

/-! ### The first listing -/

/-- The time of the first message, if no failure and no end comes before it. -/
def StreamEvent.firstMessage? {r : Resource} : StreamEvents r → Option Nat
  | ⟨time, .item (.ok _)⟩ :: _ => some time
  | _ => none

/-- Some message has come up to a time exactly if the first one has. -/
theorem StreamEvent.messages_upTo_ne_nil_iff {r : Resource} {es : StreamEvents r}
    (h : es.Pairwise (·.time ≤ ·.time)) (time : Nat) :
    messages (Timed.upTo time es) ≠ [] ↔ ∃ first, firstMessage? es = some first ∧ first ≤ time := by
  have hhead := Timed.head?_upTo h time
  have hfirst : messages (Timed.upTo time es) ≠ [] ↔
      ∃ m, (Timed.upTo time es).head? = some (.item (.ok m)) := by
    rcases Timed.upTo time es with _ | ⟨⟨_ | m⟩ | _, rest⟩ <;> simp [messages]
  rw [hfirst, hhead]
  rcases es with _ | ⟨⟨first, event⟩, rest⟩
  · simp [firstMessage?]
  · by_cases hle : first ≤ time <;> rcases event with ⟨_ | m⟩ | _ <;> simp [firstMessage?, hle]

@[simp] theorem Snapshot.isListingOf_after {r : Resource} (g : Generation)
    (ms : List r.Message) : (Snapshot.after g ms).isListingOf g = true ↔ ms ≠ [] := by
  simp [Snapshot.after, isListingOf, List.length_pos_iff]

namespace Course

/-- Whoever waits for a listing gets to see the first one, if the slot changes by nothing but
writes. -/
theorem firstListing?_eq_find? {c : Course} {r : Resource} {g : Generation}
    (h : Slot.Written (fun state : Timed Monitor => state.value.store.get r) c.states) :
    c.firstListing? r g = c.states.find? fun state => (state.value.snapshot r).isListingOf g :=
  Cell.await_eq_find? _ h.coherent

theorem mem_later_before {c : Course} (hascending : (c.later.map (·.time)).Pairwise (· < ·))
    {state : Timed Monitor} {deadline : Nat} :
    state ∈ (c.before deadline).later ↔ state ∈ c.later ∧ state.time < deadline := by
  rw [before_eq_inTime ((List.pairwise_map.mp hascending).imp Nat.le_of_lt)]
  simp [inTime]

end Course

namespace Scenario

variable (s : Scenario) (rate : Option UInt32) (e : Endpoint)

/-- A command that waits for the first listing within a time finds the first state with one. -/
theorem firstListing?_before (r : Resource) (deadline : Nat) :
    ((s.course rate e).before deadline).firstListing? r ⟨1⟩ =
      ((s.course rate e).before deadline).states.find? fun state =>
        (state.value.snapshot r).isListingOf ⟨1⟩ := by
  have hsub : ((s.course rate e).before deadline).states.Sublist (s.course rate e).states :=
    .cons_cons _ (List.takeWhile_sublist _)
  have hleads := (s.leads_course rate e).sublist hsub
  exact Course.firstListing?_eq_find? (Slot.written_of_leads hleads r)

/-- A state after the start shows a listing if the first message has come. -/
theorem isListingOf_course (r : Resource) {state : Timed Monitor}
    (hstate : state ∈ (s.course rate e).later) :
    (state.value.snapshot r).isListingOf ⟨1⟩ = true ↔
      ∃ first, StreamEvent.firstMessage? ((s.events (rate.getD 0)).get r) = some first ∧
        first ≤ state.time := by
  rw [s.snapshot_course rate e r hstate, Snapshot.isListingOf_after,
    StreamEvent.messages_upTo_ne_nil_iff (s.pairwise_events _ r)]

/-- It finds one if the first message comes in time. -/
theorem isSome_firstListing?_iff (r : Resource) (deadline : Nat) :
    (((s.course rate e).before deadline).firstListing? r ⟨1⟩).isSome = true ↔
      ∃ first, StreamEvent.firstMessage? ((s.events (rate.getD 0)).get r) = some first ∧
        first < deadline := by
  have hascending : ((s.course rate e).later.map (·.time)).Pairwise (· < ·) := by
    rw [map_time_later]
    exact (ascending_times _).1
  rw [firstListing?_before, List.find?_isSome]
  constructor
  · rintro ⟨state, hstate, hlisting⟩
    rcases List.mem_cons.mp hstate with rfl | hlater
    · simp [Course.start_before] at hlisting
    · obtain ⟨hmem, hlt⟩ := (Course.mem_later_before hascending).mp hlater
      obtain ⟨first, hfirst, hle⟩ := (s.isListingOf_course rate e r hmem).mp hlisting
      exact ⟨first, hfirst, Nat.lt_of_le_of_lt hle hlt⟩
  · rintro ⟨first, hfirst, hlt⟩
    -- There is a state for the time of the first message.
    have htime : first ∈ (s.course rate e).later.map (·.time) := by
      rw [map_time_later]
      rcases hes : (s.events (rate.getD 0)).get r with _ | ⟨⟨time, ⟨_ | m⟩ | _⟩, rest⟩ <;>
        rw [hes] at hfirst <;> cases hfirst
      exact time_mem_times (hes ▸ List.mem_cons_self)
    obtain ⟨state, hstate, rfl⟩ := List.mem_map.mp htime
    exact ⟨state, List.mem_cons_of_mem _ ((Course.mem_later_before hascending).mpr ⟨hstate, hlt⟩),
      (s.isListingOf_course rate e r hstate).mpr ⟨_, hfirst, Nat.le_refl _⟩⟩

end Scenario

end BrokerMonitor
