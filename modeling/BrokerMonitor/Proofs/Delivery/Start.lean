import BrokerMonitor.Proofs.Listing.Agreement
import BrokerMonitor.Proofs.Schedule.Queue
/-!
# Before a task has started

A connect or a shutdown empties the slots, and then only the new tasks write to them, each to the
slot of its resource. So a slot is empty until the task of its resource has started (`Unstarted`),
and a task that has started finds in its slot what it has put there itself.

Only a client's token is ever cancelled by itself. Without clients a task is cancelled together with
being aborted, when the monitor abandons it (`Spared`).
-/

namespace BrokerMonitor

namespace Monitor

variable {m m' : Monitor} {i j : Nat} {t u : StreamTask}

/-! ### Slots -/

/-- Nobody else writes to the slot of a task that the board listens to. -/
theorem snapshot_runStream_of_ne (hm : m.Exact) (hsolo : m.Solo) (hij : i ≠ j)
    (hu : m.tasks[j]? = some u) (hheeds : m.Heeds u) :
    (m.runStream i).snapshot u.resource = m.snapshot u.resource := by
  refine m.runStream_elim i (fun _ => rfl) fun t ht => ?_
  by_cases hr : u.resource = t.resource
  · have hstale : t.generation ≠ m.generation := by
      intro hg
      have hboth : m.Heeds t := ⟨hsolo t (List.mem_of_getElem? ht), hg⟩
      exact hij (hm.single i j t u ht hu hboth hheeds hr.symm)
    have hslot : (m.snapshot t.resource).generation ≠ t.generation := by
      rw [hm.lockstep.snapshot]
      exact Ne.symm hstale
    rw [snapshot, snapshot, store_progress_of_stale hslot]
  · exact snapshot_progress_of_ne hr _

/-- The slot of a resource is empty until the task of the current generation has started. -/
def Unstarted (m : Monitor) : Prop :=
  ∀ (i : Nat) (t : StreamTask), m.tasks[i]? = some t → m.Heeds t → t.phase = .spawned →
    m.snapshot t.resource = .empty m.generation

namespace Unstarted

theorem initial (rate : Option UInt32) : (Monitor.initial rate).Unstarted :=
  fun _ _ ht => nomatch ht

/-- What is done to tasks from outside does not matter. -/
theorem of_map_core (h : m.Unstarted)
    (htasks : m'.tasks.map StreamTask.core = m.tasks.map StreamTask.core)
    (hstore : m'.store = m.store) (hgeneration : m'.generation = m.generation) :
    m'.Unstarted := by
  intro i u hu hheeds hphase
  obtain ⟨t, ht, hcore⟩ := StreamTask.exists_getElem?_of_map htasks hu
  have hcase : m.Heeds t.core → t.core.phase = .spawned →
      m.snapshot t.core.resource = .empty m.generation := h i t ht
  rw [hcore] at hcase
  rw [snapshot, hstore, hgeneration]
  rw [Heeds, hgeneration] at hheeds
  exact hcase hheeds hphase

theorem attach (m : Monitor) {g : Generation} {handle : Option Handle} :
    (m.attach g handle).Unstarted := by
  intro i u _ _ _
  show ((m.store.reset g).get u.resource).value = .empty g
  cases u.resource <;> rfl

theorem runStream (h : m.Unstarted) (hm : m.Exact) (hsolo : m.Solo) (i : Nat) :
    (m.runStream i).Unstarted := by
  intro j u hu hheeds hphase
  cases ht : m.tasks[i]? with
  | none =>
      rw [runStream_of_missing ht] at hu hheeds ⊢
      exact h j u hu hheeds hphase
  | some t =>
      rw [runStream_eq_turn ht] at hu hheeds
      rcases cases_of_getElem?_progress ht hu with ⟨-, rfl⟩ | ⟨hji, hold⟩
      · exact absurd hphase (m.phase_turn_ne_spawned t)
      · rw [snapshot_runStream_of_ne hm hsolo (Ne.symm hji) hold hheeds, runStream_eq_turn ht]
        exact h j u hold hheeds hphase

theorem step (h : m.Unstarted) (hm : m.Exact) (hsolo : m'.Solo) (step : m.Step m') :
    m'.Unstarted := by
  have hbefore : m.Solo := hsolo.of_step step
  cases step with
  | offer | send | close | refuse | meetRefusal | readRequests | observe | unobserve | readHeard =>
      exact h
  | attach => exact attach m
  | drop => exact h.of_map_core m.map_core_abandonTasks rfl rfl
  | startOver | startDetached =>
      -- A client's task would be there.
      have haudience := hsolo _ (List.mem_append_right _ List.mem_cons_self)
      cases haudience
  | readLog ht => exact h.of_map_core (StreamTask.map_set ht rfl) rfl rfl
  | cancel i =>
      exact h.of_map_core (StreamTask.map_modify m.tasks i fun _ => rfl) rfl rfl
  | run j =>
      cases j with
      | stream i =>
          obtain ⟨queue, hrun⟩ := m.exists_run_stream_eq i
          rw [hrun]
          exact h.runStream hm hbefore i
      | observer k =>
          obtain ⟨board, observers, queue, hrun, -⟩ := m.exists_run_observer_eq k
          rw [hrun]
          exact h

theorem leads (h : m.Unstarted) (hm : m.Exact) (hleads : m.Leads m') (hsolo : m'.Solo) :
    m'.Unstarted := by
  induction hleads with
  | refl => exact h
  | tail hn step ih => exact (ih (hsolo.of_step step)).step (hm.leads hn) hsolo step

end Unstarted

/-! ### Tokens -/

/-- A task whose token was cancelled was aborted, too. -/
def Spared (m : Monitor) : Prop := ∀ t ∈ m.tasks, t.cancelled = true → t.aborted = true

theorem spared_of_map (h : m.Spared)
    (hmarks : m'.tasks.map (fun t => (t.cancelled, t.aborted)) =
      m.tasks.map fun t => (t.cancelled, t.aborted)) : m'.Spared := by
  intro u hu hcancelled
  have hmem := List.mem_map_of_mem (f := fun t => (t.cancelled, t.aborted)) hu
  rw [hmarks] at hmem
  obtain ⟨t, ht, hpair⟩ := List.mem_map.mp hmem
  simp only [Prod.mk.injEq] at hpair
  rw [← hpair.2]
  exact h t ht (hpair.1.trans hcancelled)

theorem spared_abandonTasks (h : m.Spared) : m.abandonTasks.Spared := by
  intro u hu hcancelled
  obtain ⟨i, hi⟩ := List.mem_iff_getElem?.mp hu
  rw [getElem?_tasks_abandonTasks] at hi
  obtain ⟨t, ht, rfl⟩ := Option.map_eq_some_iff.mp hi
  split at hcancelled
  · next hown => rw [if_pos hown]; rfl
  · next hown =>
      rw [if_neg hown]
      exact h t (List.mem_of_getElem? ht) hcancelled

/-! ### Without clients -/

/-- Nothing was ever done to the monitor by clients. -/
structure Clientless (m : Monitor) : Prop where
  reachable : m.Reachable
  solo : m.Solo
  spared : m.Spared

namespace Clientless

theorem run (h : m.Clientless) (j : Job) : (m.run j).Clientless where
  reachable := h.reachable.run j
  solo := solo_of_audiences h.solo (m.map_audience_run j)
  spared := spared_of_map h.spared (map_tasks_run (fun _ _ _ _ => rfl) m j)

theorem unstarted (h : m.Clientless) : m.Unstarted := by
  obtain ⟨rate, hm⟩ := h.reachable
  exact (Unstarted.initial rate).leads (.initial rate) hm h.solo

theorem agreed (h : m.Clientless) : m.Agreed := by
  obtain ⟨rate, hm⟩ := h.reachable
  exact (Agreed.initial rate).leads (.initial rate) hm

/-- The board listens to the tasks that were not aborted. -/
theorem heeds (h : m.Clientless) (ht : m.tasks[i]? = some t) (haborted : t.aborted = false) :
    m.Heeds t := by
  have haudience := h.solo t (List.mem_of_getElem? ht)
  exact ⟨haudience, (h.reachable.retired.own i t ht haudience haborted).2⟩

/-- They go on when they are run, and put what they take into their slots. -/
theorem goesOn (h : m.Clientless) (ht : m.tasks[i]? = some t) (haborted : t.aborted = false) :
    t.cancelled = false ∧ m.fresh t = true := by
  constructor
  · by_contra hcancelled
    rw [h.spared t (List.mem_of_getElem? ht) (by simpa using hcancelled)] at haborted
    cases haborted
  · rw [fresh, decide_eq_true_eq, h.reachable.exact.lockstep.snapshot, (h.heeds ht haborted).2]

end Clientless

end Monitor

namespace Session

theorem spared_act {s : Session} (h : s.monitor.Spared) {a : Action}
    (ha : ∀ c, a ≠ .client c) : (s.act a).1.monitor.Spared := by
  cases a with
  | broker a =>
      obtain ⟨_, _, _, _, _, hact⟩ := s.exists_actBroker_eq a
      rw [act, hact]
      exact h
  | connection a =>
      have habandoned := Monitor.spared_abandonTasks h
      refine s.actConnection_elim a (fun _ _ => h) ?_ fun _ => habandoned
      intro g handle _ _ _ _ t ht hcancelled
      rcases List.mem_append.mp (Monitor.tasks_attach _ g handle ▸ ht) with hold | hnew
      · exact habandoned t hold hcancelled
      · obtain ⟨r, -, rfl⟩ := List.mem_map.mp hnew
        cases handle <;> cases hcancelled
  | subscriber a =>
      obtain ⟨_, _, _, _, _, _, hact⟩ := s.exists_actSubscriber_eq a
      rw [act, hact]
      exact h
  | client c => exact absurd rfl (ha c)
  | run j | settle =>
      rw [act_of_runsTasks s rfl]
      exact Monitor.spared_of_map h (Monitor.map_tasks_runAll (fun _ _ _ _ => rfl) s.monitor _)

theorem clientless_start (rate : Option UInt32) : (start rate).monitor.Clientless where
  reachable := ⟨rate, .refl⟩
  solo := solo_start rate
  spared _ ht := absurd ht List.not_mem_nil

theorem clientless_act {s : Session} (h : s.monitor.Clientless) {a : Action}
    (ha : ∀ c, a ≠ .client c) : (s.act a).1.monitor.Clientless where
  reachable := by
    obtain ⟨rate, hm⟩ := h.reachable
    exact ⟨rate, hm.trans (s.monitor_leads_act a)⟩
  solo := solo_act h.solo ha
  spared := spared_act h.spared ha

end Session

end BrokerMonitor
