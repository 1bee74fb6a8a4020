import BrokerMonitor.Proofs.Listing.Writes
import BrokerMonitor.Proofs.Observation.Forward
import BrokerMonitor.Proofs.Outside
/-!
# Where a listing comes from

A slot is written to by stream tasks alone, but for the resets. So whenever a slot shows a listing,
a task of the listing's generation has taken a message for it out of the feed that its stream reads,
and nothing has replaced this listing since.
-/

namespace BrokerMonitor

theorem Reading.mem_of_mem_takes {r : Resource} {fresh : Bool} {items : List r.Item}
    {message : r.Message} (h : message ∈ takes fresh items) : .ok message ∈ items := by
  cases fresh with
  | false => cases h
  | true =>
      change message ∈ untilFailure items at h
      induction items with
      | nil => cases h
      | cons item rest ih =>
          cases item with
          | error e => cases h
          | ok m =>
              rcases List.mem_cons.mp h with rfl | hrest
              · exact List.mem_cons_self
              · exact List.mem_cons_of_mem _ (ih hrest)

/-- A task that goes on takes what waits in its feed. -/
theorem StreamTask.exists_feed_of_mem_goOn {t : StreamTask} {fresh : Bool}
    {feed : Option (Feed t.resource)} {message : t.resource.Message}
    (h : message ∈ (t.goOn fresh feed).messages) :
    ∃ f, feed = some f ∧ .ok message ∈ f.pending := by
  revert h
  refine t.goOn_elim ?_ ?_ ?_ ?_
  · exact fun _ => nofun
  · exact fun _ _ => nofun
  · exact fun f _ hf _ _ h => ⟨f, hf, Reading.mem_of_mem_takes h⟩
  · exact fun f _ _ hf _ h => ⟨f, hf, Reading.mem_of_mem_takes h⟩

namespace Monitor

variable {m m' : Monitor} {rate : Option UInt32} {r : Resource} {g : Generation}

/-- Every task that has a connection is of its generation. -/
def Bound (m : Monitor) : Prop :=
  ∀ t ∈ m.tasks, ∀ h : Handle, t.target = some h → h.generation = t.generation

theorem Bound.initial (rate : Option UInt32) : (Monitor.initial rate).Bound :=
  fun _ h => absurd h List.not_mem_nil

theorem Bound.step (hm : m.Bound) (step : m.Step m') : m'.Bound := by
  refine forall_tasks_step ?_ ?_ ?_ ?_ hm step
  · intro t u hcore ht h hu
    have htarget : t.core.target = u.core.target := congrArg _ hcore
    have hgeneration : t.core.generation = u.core.generation := congrArg _ hcore
    exact (ht h (htarget.trans hu)).trans hgeneration
  · rintro r k rate audience _ ⟨⟩
    rfl
  · rintro r g audience _ ⟨⟩
  · intro m t count ht h hu
    rw [StreamTask.generation_progress]
    exact ht h hu

theorem Bound.leads (hm : m.Bound) (h : m.Leads m') : m'.Bound := by
  induction h with
  | refl => exact hm
  | tail _ step ih => exact ih.step step

/-- In a run of task `t` at place `i` of `e`, which follows its resource over a connection, the
task takes a message that waits in its feed. -/
structure Takes (e : Monitor) (i : Nat) (t : StreamTask) (h : Handle)
    (message : t.resource.Message) : Prop where
  task : e.tasks[i]? = some t
  target : t.target = some h
  generation : h.generation = t.generation
  sent : ∃ feed, e.feedAt t.resource (e.reach t) = some feed ∧ .ok message ∈ feed.pending
  taken : message ∈ (e.turn t).messages

theorem exists_takes {i : Nat} {t : StreamTask} (hbound : m.Bound) (hvoiced : m.Voiced)
    (ht : m.tasks[i]? = some t) {message : t.resource.Message}
    (hmessage : message ∈ (m.turn t).messages) : ∃ h, m.Takes i t h message := by
  have hmem : t ∈ m.tasks := List.mem_of_getElem? ht
  have hreads : t.target.isSome = true ∧
      ∃ feed, m.feedAt t.resource (m.reach t) = some feed ∧ .ok message ∈ feed.pending := by
    have htaken := hmessage
    revert htaken
    unfold turn
    refine StreamTask.turn_elim ?_ ?_ ?_ ?_ ?_
    · exact fun _ => nofun
    · exact fun _ _ => nofun
    · exact fun _ _ _ => nofun
    · intro h _ _ htarget hmessage
      exact ⟨by rw [htarget]; rfl,
        StreamTask.exists_feed_of_mem_goOn (t := { t with phase := .reading _ }) hmessage⟩
    · intro held hheld _ hmessage
      exact ⟨((hvoiced t hmem).reading held hheld).1, StreamTask.exists_feed_of_mem_goOn hmessage⟩
  obtain ⟨h, htarget⟩ := Option.isSome_iff_exists.mp hreads.1
  exact ⟨h, ht, htarget, hbound t hmem h htarget, hreads.2, hmessage⟩

/-- What `m` shows of `r` is the listing of a message that a task has taken whose connection is of
generation `g`. -/
def Delivered (rate : Option UInt32) (m : Monitor) (r : Resource) (g : Generation) : Prop :=
  ∃ (e : Monitor) (i : Nat) (t : StreamTask) (h : Handle) (message : t.resource.Message) (n : Nat),
    (initial rate).Leads e ∧ (e.run (.stream i)).Leads m ∧ e.Takes i t h message ∧
      t.resource = r ∧ h.generation = g ∧
      m.snapshot t.resource = ⟨g, t.resource.listing message, n + 1⟩

theorem Delivered.of_eq (h : m.Delivered rate r g) (step : m.Step m')
    (hslot : m'.snapshot r = m.snapshot r) : m'.Delivered rate r g := by
  obtain ⟨e, i, t, k, message, n, hstart, hleads, htakes, rfl, hg, hsnapshot⟩ := h
  exact ⟨e, i, t, k, message, n, hstart, hleads.tail step, htakes, rfl, hg, hslot.trans hsnapshot⟩

/-- Every listing was delivered. -/
theorem delivered_of_leads (hleads : (initial rate).Leads m)
    (hlisting : (m.snapshot r).isListingOf g = true) : m.Delivered rate r g := by
  induction hleads with
  | refl =>
      have hempty : (initial rate).snapshot r = .empty .initial := by cases r <;> rfl
      rw [hempty, Snapshot.isListingOf_empty] at hlisting
      cases hlisting
  | @tail m m' hm step ih =>
      obtain ⟨ws, hslot, hwrites⟩ := step.exists_writes r
      have hafter : (Slot.writeAll (m.store.get r) ws).value.isListingOf g = true := by
        rw [← hslot]
        exact hlisting
      obtain hnone | ⟨first, records, later, hws, -, -, hvalue⟩ :=
        Slot.delivers_of_isListingOf hafter
      · have hsame : m'.snapshot r = m.snapshot r := by
          rw [Slot.writeAll_of_accepted_eq_zero hnone] at hslot
          exact congrArg Cell.value hslot
        rw [hsame] at hlisting
        exact (ih hlisting).of_eq step hsame
      · -- The write that put the listing there is one of a task's.
        have hmem : .replace g records ∈ ws := by simp [hws]
        rw [← hslot] at hvalue
        cases hwrites with
        | nothing => cases hmem
        | opens => simp at hmem
        | @takes i t ht hrun =>
            obtain ⟨message, hmessage, hwrite⟩ := List.mem_map.mp hmem
            injection hwrite with hg hrecords
            subst hg hrecords hrun
            have hbound : m.Bound := (Bound.initial rate).leads hm
            have hvoiced : m.Voiced := (Voiced.initial rate).leads hm
            obtain ⟨h, htakes⟩ := exists_takes hbound hvoiced ht hmessage
            exact ⟨m, i, t, h, message, _, hm, .refl, htakes, rfl, htakes.generation, hvalue⟩

end Monitor

end BrokerMonitor
