import BrokerMonitor.Proofs.Frame
import BrokerMonitor.Proofs.Generation.Lockstep
import BrokerMonitor.Proofs.Schedule.Jobs
/-!
# The monitor's own tasks

A monitor starts one task for each resource when it opens a generation, and aborts those of the
generation before. So of its own tasks only those of the current generation go on (`Retired`). A
monitor is `Solo` when no task is a client's. A client's task stays among the tasks for ever, so
this means that no client was ever started, and a run without client actions leads there.
-/

namespace BrokerMonitor

namespace StreamTask

theorem map_audience_of_map_core {ts us : List StreamTask} (h : us.map core = ts.map core) :
    us.map (·.audience) = ts.map (·.audience) := by
  have haudience := congrArg (List.map (·.audience)) h
  rwa [List.map_map, List.map_map] at haudience

/-- What tells the monitor's own tasks apart from clients and from each other. -/
def badge (t : StreamTask) : Audience × Generation × Bool := (t.audience, t.generation, t.aborted)

end StreamTask

namespace Monitor

variable {m m' : Monitor}

/-! ### Without clients -/

/-- Every task is one of the monitor's own. -/
def Solo (m : Monitor) : Prop := ∀ t ∈ m.tasks, t.audience = .board

section Map

variable {β : Type} {f : StreamTask → β}
  (hf : ∀ t said count phase, f (StreamTask.progress t said count phase) = f t)

include hf

theorem map_tasks_runStream (m : Monitor) (i : Nat) :
    (m.runStream i).tasks.map f = m.tasks.map f :=
  m.runStream_elim i (fun _ => rfl) fun _ ht => StreamTask.map_set ht (hf _ _ _ _)

/-- What a task keeps when it is run is kept by all. -/
theorem map_tasks_run (m : Monitor) (j : Job) : (m.run j).tasks.map f = m.tasks.map f := by
  cases j with
  | stream i =>
      obtain ⟨queue, hrun⟩ := m.exists_run_stream_eq i
      rw [hrun]
      exact map_tasks_runStream hf m i
  | observer k =>
      obtain ⟨board, observers, queue, hrun, -⟩ := m.exists_run_observer_eq k
      rw [hrun]

theorem map_tasks_runAll (m : Monitor) (js : List Job) :
    (m.runAll js).tasks.map f = m.tasks.map f := by
  induction js generalizing m with
  | nil => rfl
  | cons j js ih => exact (ih _).trans (map_tasks_run hf m j)

end Map

theorem map_audience_run (m : Monitor) (j : Job) :
    (m.run j).tasks.map (·.audience) = m.tasks.map (·.audience) :=
  map_tasks_run (fun _ _ _ _ => rfl) m j

theorem map_audience_runAll (m : Monitor) (js : List Job) :
    (m.runAll js).tasks.map (·.audience) = m.tasks.map (·.audience) :=
  map_tasks_runAll (fun _ _ _ _ => rfl) m js

/-- Tasks are only ever added. -/
theorem Step.audiences (h : m.Step m') :
    m.tasks.map (·.audience) <+: m'.tasks.map (·.audience) := by
  cases h with
  | attach =>
      rw [tasks_attach, List.map_append,
        StreamTask.map_audience_of_map_core m.map_core_abandonTasks]
      exact List.prefix_append _ _
  | drop =>
      have h := StreamTask.map_audience_of_map_core m.map_core_abandonTasks
      exact h ▸ List.prefix_rfl
  | startOver | startDetached =>
      change _ <+: (m.tasks ++ [_]).map _
      rw [List.map_append]
      exact List.prefix_append _ _
  | @readLog i t ht =>
      have h : (m.tasks.set i { t with log := t.log.read.1 }).map (·.audience) =
          m.tasks.map (·.audience) := StreamTask.map_set ht rfl
      exact h ▸ List.prefix_rfl
  | cancel i =>
      have h := StreamTask.map_modify m.tasks i fun t => (rfl : t.cancel.audience = t.audience)
      exact h ▸ List.prefix_rfl
  | run j => exact (m.map_audience_run j) ▸ List.prefix_rfl
  | _ => exact List.prefix_rfl

theorem Solo.of_step (h : m'.Solo) (step : m.Step m') : m.Solo := by
  intro t ht
  have hmem := step.audiences.subset (List.mem_map_of_mem (f := StreamTask.audience) ht)
  obtain ⟨u, hu, haudience⟩ := List.mem_map.mp hmem
  exact haudience ▸ h u hu

theorem solo_of_audiences (h : m.Solo)
    (haudiences : m'.tasks.map (·.audience) = m.tasks.map (·.audience)) : m'.Solo := by
  intro u hu
  have hmem := haudiences ▸ List.mem_map_of_mem (f := StreamTask.audience) hu
  obtain ⟨t, ht, haudience⟩ := List.mem_map.mp hmem
  exact haudience ▸ h t ht

theorem audience_taskFor (m : Monitor) (g : Generation) (h : Option Handle) (r : Resource) :
    (m.taskFor g h r).audience = .board := by
  cases h <;> rfl

/-! ### Abandoned tasks -/

theorem getElem?_tasks_abandonTasks (m : Monitor) (i : Nat) :
    m.abandonTasks.tasks[i]? = (m.tasks[i]?).map fun t => if i ∈ m.own then t.abort else t := by
  have hfold : ∀ (own : List Nat) (ts : List StreamTask),
      (own.foldl (fun ts i => ts.modify i (·.abort)) ts)[i]? =
        (ts[i]?).map fun t => if i ∈ own then t.abort else t := by
    intro own
    induction own with
    | nil => simp
    | cons j own ih =>
        intro ts
        rw [List.foldl_cons, ih, List.getElem?_modify, Option.map_eq_map, Option.map_map]
        congr 1
        funext t
        by_cases hji : j = i
        · subst hji
          by_cases hmem : j ∈ own <;> simp [hmem, StreamTask.abort]
        · simp [hji, Ne.symm hji]
  exact hfold m.own m.tasks

/-- Of the monitor's own tasks those of earlier generations were aborted, and those of the current
one were not, unless the monitor was dropped. -/
structure Retired (m : Monitor) : Prop where
  own : ∀ (i : Nat) (t : StreamTask), m.tasks[i]? = some t → t.audience = .board →
    t.aborted = false → i ∈ m.own ∧ t.generation = m.generation
  kept : m.alive = true → ∀ (i : Nat) (t : StreamTask), m.tasks[i]? = some t →
    t.audience = .board → t.generation = m.generation → t.aborted = false

namespace Retired

theorem initial (rate : Option UInt32) : (Monitor.initial rate).Retired where
  own _ _ ht := nomatch ht
  kept _ _ _ ht := nomatch ht

/-- All tasks of the monitor's own are aborted when it abandons them. -/
theorem aborted_abandonTasks (h : m.Retired) {i : Nat} {u : StreamTask}
    (hu : m.abandonTasks.tasks[i]? = some u) (haudience : u.audience = .board) :
    u.aborted = true := by
  rw [getElem?_tasks_abandonTasks] at hu
  obtain ⟨t, ht, rfl⟩ := Option.map_eq_some_iff.mp hu
  split
  · rfl
  · next hnot =>
      rw [if_neg hnot] at haudience
      by_contra haborted
      exact hnot (h.own i t ht haudience (by simpa using haborted)).1

theorem of_map_badge (h : m.Retired) {ts : List StreamTask}
    (hts : ts.map StreamTask.badge = m.tasks.map StreamTask.badge) :
    ({ m with tasks := ts } : Monitor).Retired := by
  refine ⟨?_, ?_⟩
  · intro i u hu haudience haborted
    obtain ⟨t, ht, hbadge⟩ := StreamTask.exists_getElem?_of_map hts hu
    simp only [StreamTask.badge, Prod.mk.injEq] at hbadge
    obtain ⟨h₁, h₂, h₃⟩ := hbadge
    have hown := h.own i t ht (h₁.trans haudience) (h₃.trans haborted)
    exact ⟨hown.1, h₂ ▸ hown.2⟩
  · intro alive i u hu haudience hgeneration
    obtain ⟨t, ht, hbadge⟩ := StreamTask.exists_getElem?_of_map hts hu
    simp only [StreamTask.badge, Prod.mk.injEq] at hbadge
    obtain ⟨h₁, h₂, h₃⟩ := hbadge
    exact h₃ ▸ h.kept alive i t ht (h₁.trans haudience) (h₂.trans hgeneration)

theorem attach (h : m.Retired) (hm : m.Lockstep) {g : Generation} {handle : Option Handle}
    (hg : m.generation.next? = some g) (hh : ∀ k, handle = some k → k.generation = g) :
    (m.attach g handle).Retired := by
  have hcases : ∀ (i : Nat) (u : StreamTask), (m.attach g handle).tasks[i]? = some u →
      m.abandonTasks.tasks[i]? = some u ∨
        ∃ k r, i = m.abandonTasks.tasks.length + k ∧ k < Resource.all.length ∧
          u = m.taskFor g handle r := by
    intro i u hu
    rw [tasks_attach] at hu
    rcases Nat.lt_or_ge i m.abandonTasks.tasks.length with hlt | hge
    · exact .inl (List.getElem?_append_left hlt ▸ hu)
    · rw [List.getElem?_append_right hge, List.getElem?_map] at hu
      obtain ⟨r, hr, rfl⟩ := Option.map_eq_some_iff.mp hu
      obtain ⟨hlt, -⟩ := List.getElem?_eq_some_iff.mp hr
      exact .inr ⟨i - m.abandonTasks.tasks.length, r, by omega, hlt, rfl⟩
  refine ⟨?_, ?_⟩
  · intro i u hu haudience haborted
    rcases hcases i u hu with hold | ⟨k, r, rfl, hk, rfl⟩
    · rw [h.aborted_abandonTasks hold haudience] at haborted
      cases haborted
    · exact ⟨List.mem_map.mpr ⟨k, List.mem_range.mpr hk, rfl⟩, generation_taskFor m hh r⟩
  · intro _ i u hu haudience hgeneration
    rcases hcases i u hu with hold | ⟨k, r, -, -, rfl⟩
    · have hle : u.generation.toNat ≤ m.generation.toNat :=
        (hm.of_map_core m.map_core_abandonTasks).tasks u (List.mem_of_getElem? hold) haudience
      have hnew : u.generation = g := hgeneration
      have hnext := Generation.toNat_of_next? hg
      rw [hnew] at hle
      omega
    · cases handle <;> rfl

theorem drop (h : m.Retired) : m.drop.Retired := by
  refine ⟨?_, fun alive => nomatch alive⟩
  intro i u hu haudience haborted
  rw [h.aborted_abandonTasks hu haudience] at haborted
  cases haborted

theorem client (h : m.Retired) {c : StreamTask} (hc : c.audience = .log) :
    (m.spawn c).Retired := by
  have hold : ∀ (i : Nat) (u : StreamTask), (m.spawn c).tasks[i]? = some u →
      u.audience = .board → m.tasks[i]? = some u := by
    intro i u hu haudience
    rcases Nat.lt_or_ge i m.tasks.length with hlt | hge
    · exact List.getElem?_append_left hlt ▸ hu
    · simp only [spawn, List.getElem?_append_right hge, List.getElem?_singleton] at hu
      split at hu
      · obtain rfl := Option.some.inj hu
        cases hc.symm.trans haudience
      · cases hu
  refine ⟨?_, ?_⟩
  · exact fun i u hu haudience => h.own i u (hold i u hu haudience) haudience
  · exact fun alive i u hu haudience => h.kept alive i u (hold i u hu haudience) haudience

theorem step (h : m.Retired) (hm : m.Lockstep) (step : m.Step m') : m'.Retired := by
  cases step with
  | offer | send | close | refuse | meetRefusal | readRequests | observe | unobserve | readHeard =>
      exact ⟨h.own, h.kept⟩
  | attach hg hh => exact h.attach hm hg hh
  | drop => exact h.drop
  | startOver r k =>
      have h' := h.client (c := m.clientTask r k) rfl
      exact ⟨h'.own, h'.kept⟩
  | startDetached r g =>
      have h' := h.client (c := .detached r g .log) rfl
      exact ⟨h'.own, h'.kept⟩
  | readLog ht => exact h.of_map_badge (StreamTask.map_set ht rfl)
  | cancel i =>
      have h' := h.of_map_badge (StreamTask.map_modify m.tasks i fun t =>
        (rfl : t.cancel.badge = t.badge))
      exact ⟨h'.own, h'.kept⟩
  | run j =>
      have hbadges : (m.run j).tasks.map StreamTask.badge = m.tasks.map StreamTask.badge :=
        map_tasks_run (fun t said count phase => by simp [StreamTask.badge]) m j
      obtain ⟨tasks, _, _, _, _, _, _, hrun⟩ := m.exists_run_eq j
      rw [hrun] at hbadges ⊢
      have h' := h.of_map_badge hbadges
      exact ⟨h'.own, h'.kept⟩

theorem leads (h : m.Retired) (hm : m.Lockstep) (hleads : m.Leads m') : m'.Retired := by
  induction hleads with
  | refl => exact h
  | tail hn step ih => exact ih.step (hm.leads hn) step

end Retired

end Monitor

namespace Session

theorem solo_start (rate : Option UInt32) : (start rate).monitor.Solo :=
  fun _ ht => absurd ht List.not_mem_nil

/-- Without client actions there are no clients. -/
theorem solo_act {s : Session} (h : s.monitor.Solo) {a : Action} (ha : ∀ c, a ≠ .client c) :
    (s.act a).1.monitor.Solo := by
  cases a with
  | broker a =>
      obtain ⟨_, _, _, _, _, hact⟩ := s.exists_actBroker_eq a
      rw [act, hact]
      exact h
  | connection a =>
      have habandoned : s.monitor.abandonTasks.Solo :=
        Monitor.solo_of_audiences h
          (StreamTask.map_audience_of_map_core s.monitor.map_core_abandonTasks)
      refine s.actConnection_elim a (fun _ _ => h) ?_ fun _ => habandoned
      intro g handle _ _ _ _ t ht
      rcases List.mem_append.mp (Monitor.tasks_attach _ g handle ▸ ht) with hold | hnew
      · exact habandoned t hold
      · obtain ⟨r, -, rfl⟩ := List.mem_map.mp hnew
        exact s.monitor.audience_taskFor g handle r
  | subscriber a =>
      obtain ⟨_, _, _, _, _, _, hact⟩ := s.exists_actSubscriber_eq a
      rw [act, hact]
      exact h
  | client c => exact absurd rfl (ha c)
  | run j | settle =>
      rw [act_of_runsTasks s rfl]
      exact Monitor.solo_of_audiences h (s.monitor.map_audience_runAll _)

theorem solo_actAll {s : Session} (h : s.monitor.Solo) {run : List Action}
    (hrun : ∀ a ∈ run, ∀ c, a ≠ .client c) : (s.actAll run).monitor.Solo := by
  induction run generalizing s with
  | nil => exact h
  | cons a rest ih =>
      obtain ⟨ha, hrest⟩ := List.forall_mem_cons.mp hrun
      exact ih (solo_act h ha) hrest

end Session

end BrokerMonitor
