import BrokerMonitor.Proofs.Run.Turn
import BrokerMonitor.Proofs.Steps
/-!
# Generations in lockstep

A generation is kept in four places: by the monitor, by the status board, and by each of the two
slots. `Lockstep` says that the four agree, that the current handle carries the same generation, and
that no task reports to the board for a later one. Every step keeps it, so it holds wherever a
monitor leads.

The generation and the handle together are the monitor's epoch. Only a connect or a shutdown sets
it, and then the generation goes up, so a generation has one handle, or none, for as long as it
lasts.
-/

namespace BrokerMonitor

namespace StreamTask

/-- A task without what others do to it from outside: the marks that end it, and the reading of its
log. -/
def core (t : StreamTask) : StreamTask := { t with log := {}, cancelled := false, aborted := false }

section Map

variable {β : Type} {f : StreamTask → β}

theorem exists_getElem?_of_map {ts us : List StreamTask} (h : us.map f = ts.map f) {i : Nat}
    {u : StreamTask} (hu : us[i]? = some u) : ∃ t, ts[i]? = some t ∧ f t = f u := by
  have hf : (ts.map f)[i]? = some (f u) := by rw [← h, List.getElem?_map, hu]; rfl
  rw [List.getElem?_map] at hf
  exact Option.map_eq_some_iff.mp hf

theorem map_modify (ts : List StreamTask) (i : Nat) {g : StreamTask → StreamTask}
    (hg : ∀ t, f (g t) = f t) : (ts.modify i g).map f = ts.map f := by
  induction ts generalizing i with
  | nil => simp
  | cons t ts ih =>
      cases i with
      | zero => simp [hg]
      | succ i => simp [ih]

theorem map_set {ts : List StreamTask} {i : Nat} {t u : StreamTask} (ht : ts[i]? = some t)
    (hu : f u = f t) : (ts.set i u).map f = ts.map f := by
  obtain ⟨h, rfl⟩ := List.getElem?_eq_some_iff.mp ht
  rw [List.map_set, hu, ← List.map_set, List.set_getElem_self]

end Map

end StreamTask

namespace Monitor

/-- What the abandoning of a task does not touch is kept by all. -/
theorem map_tasks_abandonTasks {β : Type} {f : StreamTask → β} (hf : ∀ t, f t.abort = f t)
    (m : Monitor) : m.abandonTasks.tasks.map f = m.tasks.map f := by
  have hfold : ∀ (own : List Nat) (ts : List StreamTask),
      (own.foldl (fun ts i => ts.modify i (·.abort)) ts).map f = ts.map f := by
    intro own
    induction own with
    | nil => exact fun _ => rfl
    | cons i own ih =>
        intro ts
        exact (ih _).trans (StreamTask.map_modify ts i hf)
  exact hfold m.own m.tasks

theorem map_core_abandonTasks (m : Monitor) :
    m.abandonTasks.tasks.map StreamTask.core = m.tasks.map StreamTask.core :=
  map_tasks_abandonTasks (fun _ => rfl) m

theorem tasks_attach (m : Monitor) (g : Generation) (h : Option Handle) :
    (m.attach g h).tasks = m.abandonTasks.tasks ++ Resource.all.map (m.taskFor g h) := rfl

theorem generation_taskFor (m : Monitor) {g : Generation} {h : Option Handle}
    (hh : ∀ k, h = some k → k.generation = g) (r : Resource) :
    (m.taskFor g h r).generation = g := by
  cases h with
  | none => rfl
  | some k => exact hh k rfl

/-- The generation is the same wherever it is kept. -/
structure Lockstep (m : Monitor) : Prop where
  status : m.status.generation = m.generation
  snapshot : ∀ r, (m.snapshot r).generation = m.generation
  handle : ∀ h, m.handle = some h → h.generation = m.generation
  /-- No task reports to the board for a generation that has not been opened yet. -/
  tasks : ∀ t ∈ m.tasks, t.audience = .board → t.generation ≤ m.generation

namespace Lockstep

variable {m m' : Monitor}

theorem initial (rate : Option UInt32) : (Monitor.initial rate).Lockstep where
  status := rfl
  snapshot r := by cases r <;> rfl
  handle _ h := nomatch h
  tasks _ ht := nomatch ht

/-- It does not matter which tasks are queued. -/
theorem requeue (h : m.Lockstep) (queue : List Job) : ({ m with queue } : Monitor).Lockstep :=
  ⟨h.status, h.snapshot, h.handle, h.tasks⟩

/-- A client keeps its reports to itself. -/
theorem client (h : m.Lockstep) {t : StreamTask} (ht : t.audience = .log) :
    (m.spawn t).Lockstep := by
  refine ⟨h.status, h.snapshot, h.handle, ?_⟩
  intro u hu haudience
  rcases List.mem_append.mp hu with hu | hu
  · exact h.tasks u hu haudience
  · obtain rfl := List.mem_singleton.mp hu
    rw [ht] at haudience
    cases haudience

/-- What is done to tasks from outside does not matter. -/
theorem of_map_core (h : m.Lockstep) {ts : List StreamTask}
    (hts : ts.map StreamTask.core = m.tasks.map StreamTask.core) :
    ({ m with tasks := ts } : Monitor).Lockstep := by
  refine ⟨h.status, h.snapshot, h.handle, ?_⟩
  intro u hu haudience
  obtain ⟨i, hi⟩ := List.mem_iff_getElem?.mp hu
  obtain ⟨t, ht, hcore⟩ := StreamTask.exists_getElem?_of_map hts hi
  have hle : t.core.audience = .board → t.core.generation ≤ m.generation :=
    h.tasks t (List.mem_of_getElem? ht)
  rw [hcore] at hle
  exact hle haudience

theorem attach (h : m.Lockstep) {g : Generation} {handle : Option Handle}
    (hg : m.generation.next? = some g) (hh : ∀ k, handle = some k → k.generation = g) :
    (m.attach g handle).Lockstep where
  status := rfl
  snapshot r := by cases r <;> rfl
  handle := hh
  tasks := by
    intro t ht haudience
    have hnext := Generation.toNat_of_next? hg
    rcases List.mem_append.mp (tasks_attach m g handle ▸ ht) with hold | hnew
    · have := (h.of_map_core m.map_core_abandonTasks).tasks t hold haudience
      change t.generation.toNat ≤ g.toNat
      change t.generation.toNat ≤ m.generation.toNat at this
      omega
    · obtain ⟨r, -, rfl⟩ := List.mem_map.mp hnew
      rw [generation_taskFor m hh]
      exact Nat.le_refl _

theorem progress (h : m.Lockstep) {i : Nat} {t : StreamTask} (ht : m.tasks[i]? = some t)
    (p : Progress t.resource) : (m.progress i t p).Lockstep where
  status := by
    cases ha : t.audience with
    | board => simpa [Monitor.progress, ha, Monitor.status] using h.status
    | log => simpa [Monitor.progress, ha, Monitor.status] using h.status
  snapshot r := by
    by_cases hr : r = t.resource
    · subst hr
      simpa [Monitor.progress, Monitor.snapshot] using h.snapshot t.resource
    · simpa [Monitor.progress, Monitor.snapshot, EachResource.get_set_of_ne _ _ hr]
        using h.snapshot r
  handle := h.handle
  tasks := by
    intro u hu haudience
    rcases List.mem_or_eq_of_mem_set hu with hu | rfl
    · exact h.tasks u hu haudience
    · rw [StreamTask.generation_progress]
      exact h.tasks t (List.mem_of_getElem? ht) haudience

theorem runStream (h : m.Lockstep) (i : Nat) : (m.runStream i).Lockstep := by
  cases ht : m.tasks[i]? with
  | none => simpa [Monitor.runStream, ht] using h
  | some t =>
      obtain ⟨p, hp, -⟩ := exists_runStream_eq_progress ht
      exact hp ▸ h.progress ht p

theorem runObserver (h : m.Lockstep) (i : Nat) : (m.runObserver i).Lockstep := by
  obtain ⟨board, observers, hrun, hcurrent⟩ := m.exists_runObserver_eq i
  rw [hrun]
  refine ⟨?_, h.snapshot, h.handle, h.tasks⟩
  rw [Monitor.status, hcurrent]
  exact h.status

/-- Every step keeps the generations together. -/
theorem step (h : m.Lockstep) (step : m.Step m') : m'.Lockstep := by
  cases step with
  | offer | send | close | refuse | meetRefusal | readRequests | observe | unobserve | readHeard =>
      exact ⟨h.status, h.snapshot, h.handle, h.tasks⟩
  | attach hg hh => exact h.attach hg hh
  | drop =>
      have h' := h.of_map_core m.map_core_abandonTasks
      exact ⟨h'.status, h'.snapshot, h'.handle, h'.tasks⟩
  | startOver r k => exact (h.client rfl).requeue _
  | startDetached r g => exact (h.client rfl).requeue _
  | readLog ht => exact h.of_map_core (StreamTask.map_set ht rfl)
  | cancel i =>
      have hcancel := StreamTask.map_modify m.tasks i fun t => (rfl : t.cancel.core = t.core)
      exact (h.of_map_core hcancel).requeue _
  | run j =>
      have h' := h.requeue (m.queue.erase j)
      cases j with
      | stream i => exact (h'.runStream i).requeue _
      | observer i => exact (h'.runObserver i).requeue _

theorem leads (h : m.Lockstep) (hm : m.Leads m') : m'.Lockstep := by
  induction hm with
  | refl => exact h
  | tail _ step ih => exact ih.step step

end Lockstep

/-- What a connect and a shutdown set, and nothing else does. -/
def epoch (m : Monitor) : Generation × Option Handle := (m.generation, m.handle)

@[simp] theorem epoch_run (m : Monitor) (j : Job) : (m.run j).epoch = m.epoch := by
  obtain ⟨_, _, _, _, _, _, _, hrun⟩ := m.exists_run_eq j
  rw [hrun]
  rfl

@[simp] theorem epoch_settleWithin (m : Monitor) (runs : Nat) :
    (m.settleWithin runs).epoch = m.epoch := by
  induction runs generalizing m with
  | zero => rfl
  | succ runs ih =>
      unfold settleWithin
      split
      · rfl
      · exact (ih _).trans (m.epoch_run _)

/-- A step keeps the epoch, or it opens a later one. -/
theorem Step.epoch_eq_or_lt {m m' : Monitor} (h : m.Step m') :
    m'.epoch = m.epoch ∨ m.generation < m'.generation := by
  cases h with
  | attach hg hh =>
      have hnext := Generation.toNat_of_next? hg
      refine .inr ?_
      change m.generation.toNat < _
      exact hnext ▸ Nat.lt_succ_self _
  | run j => exact .inl (m.epoch_run j)
  | _ => exact .inl rfl

theorem generation_le_of_leads {m m' : Monitor} (h : m.Leads m') :
    m.generation ≤ m'.generation := by
  induction h with
  | refl => exact Nat.le_refl _
  | @tail n n' _ step ih =>
      rcases step.epoch_eq_or_lt with heq | hlt
      · have hg : n'.generation = n.generation := congrArg Prod.fst heq
        exact hg ▸ ih
      · exact Nat.le_trans ih (Nat.le_of_lt hlt)

/-- A generation has one handle, or none, for as long as it lasts. -/
theorem epoch_eq_of_leads {m m' : Monitor} (h : m.Leads m')
    (hg : m'.generation.toNat ≤ m.generation.toNat) : m'.epoch = m.epoch := by
  induction h with
  | refl => rfl
  | @tail n n' hm step ih =>
      have hle : m.generation.toNat ≤ n.generation.toNat := generation_le_of_leads hm
      rcases step.epoch_eq_or_lt with heq | hlt
      · have hg' : n'.generation = n.generation := congrArg Prod.fst heq
        exact heq.trans (ih (hg' ▸ hg))
      · exact absurd (Nat.lt_of_le_of_lt hle hlt) (Nat.not_lt.mpr hg)

end Monitor

end BrokerMonitor
