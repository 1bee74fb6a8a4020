import BrokerMonitor.Proofs.Generation.Own
import BrokerMonitor.Proofs.Observation.Observer
import BrokerMonitor.Proofs.Status.Delivery
/-!
# The status and the store agree

A task puts a listing into its slot before it reports that its resource streams, and a connect or a
shutdown takes back both. So where the status says that a resource streams, the slot holds a listing
of the same generation (`Agreed`). Without clients nobody else writes to the slots, and the converse
holds too.

Slots only move on: what a slot holds later supersedes what it held before. So whoever was told that
a resource streams finds the listing that was the reason for it, or one that has come later.
-/

namespace BrokerMonitor

namespace Snapshot

variable {α : Type} {a b c : Snapshot α}

/-- The same listing, or one that came later: a later one of the same generation, or one of a later
generation. -/
def Supersedes (b a : Snapshot α) : Prop :=
  b = a ∨ a.generation < b.generation ∨
    (b.generation = a.generation ∧ a.sequence < b.sequence)

theorem Supersedes.refl (a : Snapshot α) : a.Supersedes a := .inl rfl

theorem Supersedes.trans (hcb : c.Supersedes b) (hba : b.Supersedes a) : c.Supersedes a := by
  rcases hcb with rfl | hcb | ⟨hcb, hlater⟩
  · exact hba
  · rcases hba with rfl | hba | ⟨hba, -⟩
    · exact .inr (.inl hcb)
    · exact .inr (.inl (Nat.lt_trans hba hcb))
    · exact .inr (.inl (hba ▸ hcb))
  · rcases hba with rfl | hba | ⟨hba, hlater'⟩
    · exact .inr (.inr ⟨hcb, hlater⟩)
    · exact .inr (.inl (hcb ▸ hba))
    · exact .inr (.inr ⟨hcb.trans hba, Nat.lt_trans hlater' hlater⟩)

end Snapshot

/-- Messages that arrive at a slot supersede what was there. -/
theorem Slot.supersedes_deliver {r : Resource} (slot : Slot r.Record) (g : Generation)
    (messages : List r.Message) : (slot.deliver g messages).value.Supersedes slot.value := by
  by_cases h : slot.value.generation = g
  · cases messages with
    | nil => exact .refl _
    | cons m rest =>
        refine .inr (.inr ⟨slot.generation_deliver g _, ?_⟩)
        rw [sequence_deliver h, List.length_cons]
        omega
  · rw [deliver_of_ne h]
    exact .refl _

namespace Monitor

variable {m m' : Monitor} {i : Nat} {t : StreamTask}

theorem snapshot_progress_of_ne {r : Resource} (h : r ≠ t.resource) (p : Progress t.resource) :
    (m.progress i t p).snapshot r = m.snapshot r := by
  simp [snapshot, progress, EachResource.get_set_of_ne _ _ h]

theorem snapshot_progress_self (p : Progress t.resource) :
    (m.progress i t p).snapshot t.resource =
      (Slot.deliver (m.store.get t.resource) t.generation p.messages).value := by
  simp [snapshot, progress]

theorem supersedes_progress (p : Progress t.resource) (r : Resource) :
    ((m.progress i t p).snapshot r).Supersedes (m.snapshot r) := by
  by_cases h : r = t.resource
  · subst h
    rw [snapshot_progress_self]
    exact Slot.supersedes_deliver _ _ _
  · rw [snapshot_progress_of_ne h]
    exact .refl _

/-- The status lists another resource as before. -/
theorem streams_progress_of_ne (hm : m.Exact) (ht : m.tasks[i]? = some t) {r : Resource}
    (h : r ≠ t.resource) (p : Progress t.resource) :
    (m.progress i t p).status.streams.get? r = m.status.streams.get? r := by
  by_cases hheeds : m.Heeds t
  · rw [status, board_progress hheeds]
    refine StatusBoard.get?_reportAll_of_ne ?_
    intro told htold
    rw [(Reporter.tags_of_mem_reportAll htold).1, (hm.shown i t ht hheeds).resource]
    exact h
  · rw [status, board_progress_of_not_heeds hm.lockstep hheeds]
    rfl

/-- The status shows the resource of a task as streaming if the task has ever said so. -/
theorem streams_progress_self (hm : m.Exact) (ht : m.tasks[i]? = some t) (hheeds : m.Heeds t)
    {p : Progress t.resource} (hp : Possible m t p) :
    (m.progress i t p).status.streams.get? t.resource = some .streaming ↔
      m.status.streams.get? t.resource = some .streaming ∨ p.messages ≠ [] := by
  have hafter : (m.progress i t p).Exact := hm.progress ht hp
  have hshown := (hm.shown i t ht hheeds).shown
  have hshown' :=
    (hafter.shown i _ (getElem?_tasks_progress ht p) (heeds_progress.mpr hheeds)).shown
  have hlast : ∀ o : Option StreamStatus, some (o.getD .idle) = some .streaming ↔
      o = some .streaming := by
    intro o
    cases o <;> simp
  rw [StreamTask.resource_progress] at hshown'
  rw [hshown, hshown', hlast, hlast]
  refine (Reporter.last_reportAll_eq_streaming_iff _ _).trans (or_congr_right ?_)
  obtain ⟨first, hsaid, hfirst⟩ := hp.said
  have hopening : .streaming ∉ first := by
    rcases hfirst with rfl | ⟨-, rfl⟩
    · simp
    · unfold StreamTask.opening
      split <;> simp
  rw [hsaid, List.mem_append]
  cases p.messages <;> simp [hopening]

/-- Where the status says that a resource streams, a listing has arrived. Without clients it says so
wherever one has. -/
structure Agreed (m : Monitor) : Prop where
  listed : ∀ r, m.status.streams.get? r = some .streaming → 0 < (m.snapshot r).sequence
  shown : m.Solo → ∀ r, 0 < (m.snapshot r).sequence → m.status.streams.get? r = some .streaming

namespace Agreed

theorem initial (rate : Option UInt32) : (Monitor.initial rate).Agreed where
  listed r h := by cases r <;> cases h
  shown _ r h := by cases r <;> cases h

theorem attach (m : Monitor) (g : Generation) (h : Option Handle) : (m.attach g h).Agreed where
  listed r hr := by cases r <;> cases hr
  shown _ r hr := by cases r <;> cases hr

theorem progress (h : m.Agreed) (hm : m.Exact) (ht : m.tasks[i]? = some t)
    {p : Progress t.resource} (hp : Possible m t p) : (m.progress i t p).Agreed := by
  have hsequence : (m.snapshot t.resource).sequence ≤
      ((m.progress i t p).snapshot t.resource).sequence := by
    rw [snapshot_progress_self]
    by_cases hfresh : (m.store.get t.resource).value.generation = t.generation
    · rw [Slot.sequence_deliver hfresh]
      exact Nat.le_add_right _ _
    · rw [Slot.deliver_of_ne hfresh]
      exact Nat.le_refl _
  refine ⟨?_, ?_⟩
  · intro r hr
    by_cases hne : r = t.resource
    · subst hne
      by_cases hheeds : m.Heeds t
      · rcases (streams_progress_self hm ht hheeds hp).mp hr with hbefore | hmessages
        · exact Nat.lt_of_lt_of_le (h.listed _ hbefore) hsequence
        · rw [snapshot_progress_self, Slot.sequence_deliver (hp.fresh hmessages)]
          have := List.length_pos_iff.mpr hmessages
          omega
      · rw [status, board_progress_of_not_heeds hm.lockstep hheeds] at hr
        exact Nat.lt_of_lt_of_le (h.listed _ hr) hsequence
    · rw [streams_progress_of_ne hm ht hne] at hr
      rw [snapshot_progress_of_ne hne]
      exact h.listed r hr
  · intro hsolo r hr
    have hbefore : m.Solo := by
      refine solo_of_audiences hsolo (StreamTask.map_set (f := (·.audience)) ht ?_).symm
      rfl
    by_cases hne : r = t.resource
    · subst hne
      have haudience := hbefore t (List.mem_of_getElem? ht)
      by_cases hheeds : m.Heeds t
      · rw [streams_progress_self hm ht hheeds hp]
        by_cases hmessages : p.messages = []
        · rw [snapshot_progress_self, hmessages] at hr
          exact .inl (h.shown hbefore _ hr)
        · exact .inr hmessages
      · have hstale : t.generation ≠ m.generation := fun hg => hheeds ⟨haudience, hg⟩
        have hslot : (m.snapshot t.resource).generation ≠ t.generation := by
          rw [hm.lockstep.snapshot]
          exact Ne.symm hstale
        rw [snapshot, store_progress_of_stale hslot] at hr
        rw [status, board_progress_of_not_heeds hm.lockstep hheeds]
        exact h.shown hbefore _ hr
    · rw [streams_progress_of_ne hm ht hne]
      rw [snapshot_progress_of_ne hne] at hr
      exact h.shown hbefore r hr

theorem step (h : m.Agreed) (hm : m.Exact) (step : m.Step m') : m'.Agreed := by
  have hshown := fun hsolo : m'.Solo => h.shown (hsolo.of_step step)
  cases step with
  | attach => exact .attach m _ _
  | run j =>
      cases j with
      | stream i =>
          obtain ⟨queue, hrun⟩ := m.exists_run_stream_eq i
          have hafter : (m.runStream i).Agreed :=
            m.runStream_elim i (fun _ => h) fun t ht => h.progress hm ht (m.possible_turn t)
          rw [hrun]
          exact ⟨hafter.listed, hafter.shown⟩
      | observer k =>
          obtain ⟨board, observers, queue, hrun, hcurrent⟩ := m.exists_run_observer_eq k
          rw [hrun]
          refine ⟨?_, ?_⟩
          · intro r hr
            rw [status, hcurrent] at hr
            exact h.listed r hr
          · intro hsolo r hr
            rw [status, hcurrent]
            exact h.shown hsolo r hr
  | _ => exact ⟨h.listed, hshown⟩

theorem leads (h : m.Agreed) (hm : m.Exact) (hleads : m.Leads m') : m'.Agreed := by
  induction hleads with
  | refl => exact h
  | tail hn step ih => exact ih.step (hm.leads hn) step

end Agreed

end Monitor

end BrokerMonitor
