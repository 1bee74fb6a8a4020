import BrokerMonitor.Proofs.Delivery.Conservation
import BrokerMonitor.Proofs.Ending.LastNews
/-!
# Clients after the drop

Nothing opens a generation after the drop, so a slot changes only by what is put into it. Once the
monitor's own tasks have ended, that is what the clients take that still run and are of the last
generation. Whatever they take makes news for everybody who follows the slot.
-/

namespace BrokerMonitor

namespace Slot

variable {r : Resource} {slot : Slot r.Record} {g : Generation}

/-- Each message is announced. -/
theorem version_deliver (h : slot.value.generation = g) (messages : List r.Message) :
    (slot.deliver g messages).version = slot.version + messages.length := by
  induction messages generalizing slot with
  | nil => rfl
  | cons m rest ih =>
      rw [deliver_cons_of_eq h, ih rfl, Cell.version_announce, List.length_cons]
      omega

/-- What a slot holds after some messages is the listing of the last one. -/
theorem value_deliver_of_getLast? (h : slot.value.generation = g) {messages : List r.Message}
    {m : r.Message} (hlast : messages.getLast? = some m) :
    (slot.deliver g messages).value =
      ⟨g, r.listing m, slot.value.sequence + messages.length⟩ := by
  obtain ⟨init, rfl⟩ := List.getLast?_eq_some_iff.mp hlast
  have hinit : (slot.deliver g init).value.generation = g := by rw [generation_deliver, h]
  rw [deliver_append, deliver_cons_of_eq hinit, deliver_nil, Cell.value_announce,
    sequence_deliver h, List.length_append, Nat.add_assoc]
  rfl

end Slot

namespace StreamTask

/-- A task, as it is later: it may have ended since. -/
structure Becomes (t t' : StreamTask) : Prop where
  audience : t'.audience = t.audience
  resource : t'.resource = t.resource
  generation : t'.generation = t.generation
  ended : t.hasEnded = true → t'.hasEnded = true

theorem becomes_self (t : StreamTask) : t.Becomes t := ⟨rfl, rfl, rfl, id⟩

theorem Becomes.trans {t u v : StreamTask} (h : t.Becomes u) (h' : u.Becomes v) : t.Becomes v where
  audience := h'.audience.trans h.audience
  resource := h'.resource.trans h.resource
  generation := h'.generation.trans h.generation
  ended := h'.ended ∘ h.ended

theorem becomes_of_core {t t' : StreamTask} (h : t.core = t'.core) : t.Becomes t' := by
  have haudience : t.core.audience = t'.core.audience := congrArg _ h
  have hresource : t.core.resource = t'.core.resource := congrArg _ h
  have hgeneration : t.core.generation = t'.core.generation := congrArg _ h
  have hended : t.core.hasEnded = t'.core.hasEnded := congrArg _ h
  exact ⟨haudience.symm, hresource.symm, hgeneration.symm, fun h => hended.symm.trans h⟩

end StreamTask

namespace Monitor

variable {m m' : Monitor} {i : Nat} {t t' : StreamTask} {r : Resource}

/-! ### Clients are left alone -/

/-- The monitor abandons its own tasks only. -/
structure SparesClients (m : Monitor) : Prop where
  own : ∀ i ∈ m.own, ∃ t, m.tasks[i]? = some t ∧ t.audience = .board
  kept : ∀ t ∈ m.tasks, t.audience = .log → t.aborted = false

namespace SparesClients

theorem initial (rate : Option UInt32) : (Monitor.initial rate).SparesClients where
  own _ hi := nomatch hi
  kept _ ht := nomatch ht

theorem of_map_badge (h : m.SparesClients) (hown : m'.own = m.own)
    (htasks : m'.tasks.map StreamTask.badge = m.tasks.map StreamTask.badge) :
    m'.SparesClients := by
  refine ⟨fun i hi => ?_, fun u hu haudience => ?_⟩
  · obtain ⟨t, ht, hboard⟩ := h.own i (hown ▸ hi)
    obtain ⟨u, hu, hbadge⟩ := StreamTask.exists_getElem?_of_map htasks.symm ht
    exact ⟨u, hu, (congrArg Prod.fst hbadge).trans hboard⟩
  · obtain ⟨i, hi⟩ := List.mem_iff_getElem?.mp hu
    obtain ⟨t, ht, hbadge⟩ := StreamTask.exists_getElem?_of_map htasks hi
    have haborted : t.aborted = u.aborted := congrArg (fun b => b.2.2) hbadge
    rw [← haborted]
    exact h.kept t (List.mem_of_getElem? ht) ((congrArg Prod.fst hbadge).trans haudience)

/-- Whom the monitor abandons is not a client. -/
theorem kept_abandonTasks (h : m.SparesClients) :
    ∀ u ∈ m.abandonTasks.tasks, u.audience = .log → u.aborted = false := by
  intro u hu haudience
  obtain ⟨i, hi⟩ := List.mem_iff_getElem?.mp hu
  rw [getElem?_tasks_abandonTasks] at hi
  obtain ⟨t, ht, rfl⟩ := Option.map_eq_some_iff.mp hi
  by_cases hown : i ∈ m.own
  · obtain ⟨v, hv, hboard⟩ := h.own i hown
    obtain rfl := Option.some.inj (ht.symm.trans hv)
    rw [if_pos hown] at haudience
    exact absurd (hboard.symm.trans haudience) nofun
  · rw [if_neg hown] at haudience ⊢
    exact h.kept t (List.mem_of_getElem? ht) haudience

theorem step (h : m.SparesClients) (step : m.Step m') : m'.SparesClients := by
  have hclient : ∀ c : StreamTask, c.IsNew → (m.startClient c).1.SparesClients := by
    intro c hc
    refine ⟨fun i hi => ?_, fun u hu haudience => ?_⟩
    · obtain ⟨t, ht, hboard⟩ := h.own i hi
      obtain ⟨hlt, -⟩ := List.getElem?_eq_some_iff.mp ht
      exact ⟨t, (List.getElem?_append_left hlt).trans ht, hboard⟩
    · rcases List.mem_append.mp hu with hold | hnew
      · exact h.kept u hold haudience
      · obtain rfl := List.mem_singleton.mp hnew
        exact hc.aborted
  cases step with
  | @attach g handle =>
      refine ⟨fun i hi => ?_, fun u hu haudience => ?_⟩
      · obtain ⟨k, hk, rfl⟩ := List.mem_map.mp hi
        have hlt : k < Resource.all.length := List.mem_range.mp hk
        refine ⟨m.taskFor g handle Resource.all[k], ?_, m.audience_taskFor g handle _⟩
        rw [tasks_attach]
        show (_ ++ _)[m.abandonTasks.tasks.length + k]? = _
        rw [List.getElem?_append_right (Nat.le_add_right _ _), Nat.add_sub_cancel_left,
          List.getElem?_map, List.getElem?_eq_getElem hlt]
        rfl
      · rcases List.mem_append.mp hu with hold | hnew
        · exact h.kept_abandonTasks u hold haudience
        · obtain ⟨r, -, rfl⟩ := List.mem_map.mp hnew
          exact absurd ((m.audience_taskFor g handle r).symm.trans haudience) nofun
  | drop => exact ⟨fun _ hi => absurd hi List.not_mem_nil, h.kept_abandonTasks⟩
  | startOver r k => exact hclient _ (.attached r k _ .log)
  | startDetached r g => exact hclient _ (.detached r g .log)
  | readLog ht => exact h.of_map_badge rfl (StreamTask.map_set ht rfl)
  | cancel i =>
      exact h.of_map_badge rfl
        (StreamTask.map_modify m.tasks i fun t => (rfl : t.cancel.badge = t.badge))
  | run j =>
      have hbadges : (m.run j).tasks.map StreamTask.badge = m.tasks.map StreamTask.badge :=
        map_tasks_run (fun t said count phase => by
          simp only [StreamTask.badge, StreamTask.generation_progress]
          rfl) m j
      obtain ⟨_, _, _, _, _, _, _, hrun⟩ := m.exists_run_eq j
      rw [hrun] at hbadges ⊢
      exact h.of_map_badge rfl hbadges
  | _ => exact ⟨h.own, h.kept⟩

end SparesClients

theorem Reachable.sparesClients (h : m.Reachable) : m.SparesClients := by
  obtain ⟨rate, hm⟩ := h
  induction hm with
  | refl => exact .initial rate
  | tail _ step ih => exact ih.step step

/-- A client of the slot's generation takes the messages within its reach when it is run, unless it
was cancelled. -/
theorem intake_client (hm : m.Reachable) (ht : m.tasks[i]? = some t) (haudience : t.audience = .log)
    (hgeneration : t.generation = m.generation) (hended : t.hasEnded = false)
    (hcancelled : t.cancelled = false) {p : Nat} (hreach : m.reach t = some p)
    {f : Feed t.resource} (hf : (m.feeds.get t.resource)[p]? = some f) :
    m.intake t.resource (.stream i) = (Reading.untilFailure f.pending).map (i, ·) := by
  have haborted := hm.sparesClients.kept t (List.mem_of_getElem? ht) haudience
  have hfresh : m.fresh t = true :=
    decide_eq_true ((hm.exact.lockstep.snapshot t.resource).trans hgeneration.symm)
  rw [intake_self ht, (reads_turn hfresh haborted hcancelled hended hreach hf).1]

/-! ### What is put into a slot -/

theorem store_run (m : Monitor) (j : Job) (r : Resource) :
    (m.run j).store.get r =
      Slot.deliver (m.store.get r) (m.snapshot r).generation ((m.intake r j).map (·.2)) := by
  cases j with
  | observer k =>
      obtain ⟨board, observers, queue, hrun, -⟩ := m.exists_run_observer_eq k
      rw [hrun]
      rfl
  | stream i =>
      obtain ⟨queue, hrun⟩ := m.exists_run_stream_eq i
      rw [hrun]
      refine m.runStream_elim i (fun hnone => ?_) fun t ht => ?_
      · rw [intake_of_none hnone]
        rfl
      · by_cases hr : t.resource = r
        · subst hr
          have hfresh : (m.turn t).messages ≠ [] →
              (m.snapshot t.resource).generation = t.generation := (m.possible_turn t).fresh
          have hmessages : ((m.turn t).messages.map (i, ·)).map (·.2) = (m.turn t).messages := by
            simp
          rw [intake_self ht, hmessages]
          show ((m.store.set t.resource _).get t.resource) = _
          rw [EachResource.get_set_self]
          by_cases hnone : (m.turn t).messages = []
          · simp [progressOf, hnone]
          · rw [hfresh hnone]
            rfl
        · rw [intake_of_ne ht hr]
          exact EachResource.get_set_of_ne _ _ (Ne.symm hr)

theorem store_runAll (m : Monitor) (js : List Job) (r : Resource) :
    (m.runAll js).store.get r =
      Slot.deliver (m.store.get r) (m.snapshot r).generation ((m.intakeAll r js).map (·.2)) := by
  induction js generalizing m with
  | nil => rfl
  | cons j js ih =>
      have hgeneration : ((m.run j).snapshot r).generation = (m.snapshot r).generation := by
        rw [snapshot, store_run, Slot.generation_deliver]
        rfl
      rw [runAll_cons, ih, hgeneration, store_run, intakeAll, List.map_append, Slot.deliver_append]

/-- Whatever is put into a slot is from a task of its generation that has not ended. -/
theorem exists_of_mem_intake {j : Job} {e : Nat × r.Message} (h : e ∈ m.intake r j) :
    ∃ t, m.tasks[e.1]? = some t ∧ t.resource = r ∧ t.hasEnded = false ∧
      t.generation = (m.snapshot r).generation := by
  cases j with
  | observer k => cases h
  | stream i =>
      cases ht : m.tasks[i]? with
      | none =>
          rw [intake_of_none ht] at h
          cases h
      | some t =>
          by_cases hr : t.resource = r
          · subst hr
            rw [intake_self ht] at h
            obtain ⟨message, hmessage, rfl⟩ := List.mem_map.mp h
            have hsome := List.ne_nil_of_mem hmessage
            refine ⟨t, ht, rfl, ?_, ((m.possible_turn t).fresh hsome).symm⟩
            by_contra hended
            rw [turn_of_hasEnded m (by simpa using hended)] at hsome
            exact hsome rfl
          · rw [intake_of_ne ht hr] at h
            cases h

/-- Whatever is put into a slot in the course of some runs is put there in one of them. -/
theorem exists_of_mem_intakeAll {js : List Job} {e : Nat × r.Message} (h : e ∈ m.intakeAll r js) :
    ∃ n j, m.Leads n ∧ e ∈ n.intake r j := by
  induction js generalizing m with
  | nil => cases h
  | cons j js ih =>
      rcases List.mem_append.mp h with hfirst | hlater
      · exact ⟨m, j, .refl, hfirst⟩
      · obtain ⟨n, l, hn, he⟩ := ih hlater
        exact ⟨n, l, .head (.run m j) hn, he⟩

/-- No task is started after the drop. -/
theorem Step.exists_becomes (step : m.Step m') (dropped : m.alive = false)
    (ht' : m'.tasks[i]? = some t') : ∃ t, m.tasks[i]? = some t ∧ t.Becomes t' := by
  have hcore : m'.tasks.map StreamTask.core = m.tasks.map StreamTask.core →
      ∃ t, m.tasks[i]? = some t ∧ t.Becomes t' := by
    intro h
    obtain ⟨t, ht, hsame⟩ := StreamTask.exists_getElem?_of_map h ht'
    exact ⟨t, ht, StreamTask.becomes_of_core hsame⟩
  cases step with
  | attach _ _ alive | startOver _ _ alive | startDetached _ _ alive =>
      exact absurd (alive.symm.trans dropped) nofun
  | drop => exact hcore m.map_core_abandonTasks
  | readLog ht => exact hcore (StreamTask.map_set ht rfl)
  | cancel l =>
      exact hcore (StreamTask.map_modify m.tasks l fun t => (rfl : t.cancel.core = t.core))
  | run j =>
      cases j with
      | observer k =>
          obtain ⟨board, observers, queue, hrun, -⟩ := m.exists_run_observer_eq k
          rw [hrun] at ht'
          exact ⟨t', ht', t'.becomes_self⟩
      | stream l =>
          obtain ⟨queue, hrun⟩ := m.exists_run_stream_eq l
          rw [hrun] at ht'
          revert ht'
          refine m.runStream_elim l (fun _ ht' => ⟨t', ht', t'.becomes_self⟩) fun t ht ht' => ?_
          rcases cases_of_getElem?_progress ht ht' with ⟨rfl, rfl⟩ | ⟨-, hold⟩
          · refine ⟨t, ht, rfl, rfl, t.generation_progress .., fun hended => ?_⟩
            rw [turn_of_hasEnded m hended]
            exact hended
          · exact ⟨t', hold, t'.becomes_self⟩
  | _ => exact ⟨t', ht', t'.becomes_self⟩

theorem exists_becomes (h : m.Leads m') (dropped : m.alive = false)
    (ht' : m'.tasks[i]? = some t') : ∃ t, m.tasks[i]? = some t ∧ t.Becomes t' := by
  induction h generalizing t' with
  | refl => exact ⟨t', ht', t'.becomes_self⟩
  | tail hn step ih =>
      obtain ⟨u, hu, hlater⟩ := step.exists_becomes (dropped_of_leads hn dropped) ht'
      obtain ⟨t, ht, hfirst⟩ := ih hu
      exact ⟨t, ht, hfirst.trans hlater⟩

end Monitor

end BrokerMonitor
