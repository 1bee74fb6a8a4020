import BrokerMonitor.Proofs.Frame
import BrokerMonitor.Proofs.Generation.Lockstep
import BrokerMonitor.Proofs.Schedule.Jobs
/-!
# What happens to tasks and slots from outside

An action that runs no task gets no task further. It may put marks on tasks, read their logs, and
start new tasks, which go behind the others. The slots stay as they are, or a new generation opens
and empties them.
-/

namespace BrokerMonitor

namespace StreamTask

/-- The task was just started: it has done nothing yet, and nothing was done to it. -/
structure IsNew (t : StreamTask) : Prop where
  spawned : t.phase = .spawned
  accepted : t.accepted = 0
  cancelled : t.cancelled = false
  aborted : t.aborted = false

theorem IsNew.attached (r : Resource) (h : Handle) (rate : UInt32) (audience : Audience) :
    (StreamTask.attached r h rate audience).IsNew := ⟨rfl, rfl, rfl, rfl⟩

theorem IsNew.detached (r : Resource) (g : Generation) (audience : Audience) :
    (StreamTask.detached r g audience).IsNew := ⟨rfl, rfl, rfl, rfl⟩

/-- The core of a task decides all that does not look at its marks and its log. -/
theorem exists_of_map_core {ts us : List StreamTask} (h : us.map core = ts.map core) {i : Nat}
    {u : StreamTask} (hu : us[i]? = some u) : ∃ t, ts[i]? = some t ∧ t.resource = u.resource ∧
      t.generation = u.generation ∧ t.accepted = u.accepted ∧ t.phase = u.phase := by
  obtain ⟨t, ht, hcore⟩ := exists_getElem?_of_map h hu
  have hresource : t.core.resource = u.core.resource := congrArg _ hcore
  have hgeneration : t.core.generation = u.core.generation := congrArg _ hcore
  have haccepted : t.core.accepted = u.core.accepted := congrArg _ hcore
  have hphase : t.core.phase = u.core.phase := congrArg _ hcore
  exact ⟨t, ht, hresource, hgeneration, haccepted, hphase⟩

end StreamTask

namespace Monitor

theorem isNew_taskFor (m : Monitor) (g : Generation) (h : Option Handle) (r : Resource) :
    (m.taskFor g h r).IsNew := by
  cases h with
  | none => exact .detached r g .board
  | some h => exact .attached r h _ .board

/-- What does not look at marks and logs, holds of new tasks and outlasts every turn holds of all
tasks. -/
theorem forall_tasks_step {P : StreamTask → Prop} {m m' : Monitor}
    (hcore : ∀ t u : StreamTask, t.core = u.core → P t → P u)
    (hattached : ∀ r h rate audience, P (.attached r h rate audience))
    (hdetached : ∀ r g audience, P (.detached r g audience))
    (hturn : ∀ (m : Monitor) (t : StreamTask) (count : Nat), P t →
      P (t.progress (m.turn t).said count (m.turn t).phase))
    (h : ∀ t ∈ m.tasks, P t) (step : m.Step m') : ∀ t ∈ m'.tasks, P t := by
  have hmap : ∀ ts : List StreamTask,
      ts.map StreamTask.core = m.tasks.map StreamTask.core → ∀ u ∈ ts, P u := by
    intro ts hts u hu
    obtain ⟨i, hi⟩ := List.mem_iff_getElem?.mp hu
    obtain ⟨t, ht, htu⟩ := StreamTask.exists_getElem?_of_map hts hi
    exact hcore t u htu (h t (List.mem_of_getElem? ht))
  cases step with
  | offer | send | close | refuse | meetRefusal | readRequests | observe | unobserve | readHeard =>
      exact h
  | @attach g handle =>
      intro u hu
      rcases List.mem_append.mp (m.tasks_attach g handle ▸ hu) with hold | hnew
      · exact hmap _ m.map_core_abandonTasks u hold
      · obtain ⟨r, -, rfl⟩ := List.mem_map.mp hnew
        cases handle with
        | none => exact hdetached r g .board
        | some k => exact hattached r k _ .board
  | drop => exact hmap _ m.map_core_abandonTasks
  | startOver r k =>
      exact List.forall_mem_append.mpr ⟨h, List.forall_mem_singleton.mpr (hattached r k _ .log)⟩
  | startDetached r g =>
      exact List.forall_mem_append.mpr ⟨h, List.forall_mem_singleton.mpr (hdetached r g .log)⟩
  | readLog ht => exact hmap _ (StreamTask.map_set ht rfl)
  | cancel i => exact hmap _ (StreamTask.map_modify m.tasks i fun _ => rfl)
  | run j =>
      cases j with
      | stream i =>
          obtain ⟨queue, hrun⟩ := m.exists_run_stream_eq i
          rw [hrun]
          refine m.runStream_elim i (fun _ => h) fun t ht u hu => ?_
          rcases List.mem_or_eq_of_mem_set hu with hu | rfl
          · exact h u hu
          · exact hturn m t _ (h t (List.mem_of_getElem? ht))
      | observer k =>
          obtain ⟨board, observers, queue, hrun, -⟩ := m.exists_run_observer_eq k
          rw [hrun]
          exact h

/-- Runs open no generation. -/
theorem epoch_runAll (m : Monitor) (js : List Job) : (m.runAll js).epoch = m.epoch := by
  induction js generalizing m with
  | nil => rfl
  | cons j js ih => exact (ih _).trans (m.epoch_run j)

end Monitor

namespace Session

variable (s : Session)

theorem jobs_eq_nil {a : Action} (ha : a.runsTasks = false) : s.jobs a = [] := by
  cases a with
  | run | settle => cases ha
  | _ => rfl

section Map

variable {β : Type} {f : StreamTask → β} (hcancel : ∀ t, f t.cancel = f t)
  (habort : ∀ t, f t.abort = f t)
  (hread : ∀ t : StreamTask, f { t with log := t.log.read.1 } = f t)

include hcancel habort hread

/-- An action that runs no task leaves of the tasks whatever their marks and the reading of their
logs do not touch, and puts new tasks behind them. -/
theorem exists_map_tasks_act {a : Action} (ha : a.runsTasks = false) :
    ∃ new : List StreamTask, (∀ u ∈ new, u.IsNew) ∧
      (s.act a).1.monitor.tasks.map f = (s.monitor.tasks ++ new).map f := by
  have hsame : ∀ ts : List StreamTask, ts.map f = s.monitor.tasks.map f →
      ∃ new : List StreamTask, (∀ u ∈ new, u.IsNew) ∧
        ts.map f = (s.monitor.tasks ++ new).map f := by
    intro ts hts
    exact ⟨[], by simp, by rwa [List.append_nil]⟩
  cases a with
  | broker a =>
      obtain ⟨_, _, _, _, _, hact⟩ := s.exists_actBroker_eq a
      rw [act, hact]
      exact hsame _ rfl
  | connection a =>
      refine s.actConnection_elim a ?_ ?_ ?_
      · exact fun _ _ => hsame _ rfl
      · intro g h _ _ _ _
        refine ⟨Resource.all.map (s.monitor.taskFor g h), ?_, ?_⟩
        · intro u hu
          obtain ⟨r, -, rfl⟩ := List.mem_map.mp hu
          exact s.monitor.isNew_taskFor g h r
        · rw [Monitor.tasks_attach, List.map_append, List.map_append,
            Monitor.map_tasks_abandonTasks habort s.monitor]
      · exact fun _ => hsame _ (Monitor.map_tasks_abandonTasks habort s.monitor)
  | subscriber a =>
      obtain ⟨_, _, _, _, _, _, hact⟩ := s.exists_actSubscriber_eq a
      rw [act, hact]
      exact hsame _ rfl
  | client a =>
      have hone : ∀ u : StreamTask, u.IsNew → ∃ new : List StreamTask, (∀ u ∈ new, u.IsNew) ∧
          (s.monitor.tasks ++ [u]).map f = (s.monitor.tasks ++ new).map f :=
        fun u hu => ⟨[u], by simpa using hu, rfl⟩
      cases a with
      | startOver name r handle =>
          simp only [act, actClient]
          split
          · split
            · exact hone _ (.attached r _ _ .log)
            · exact hsame _ rfl
          · exact hsame _ rfl
      | startDetached name r g =>
          simp only [act, actClient]
          split
          · exact hone _ (.detached r g .log)
          · exact hsame _ rfl
      | cancel name =>
          simp only [act, actClient]
          refine s.withNamed_elim s.clients name _ (hsame _ rfl) fun i _ => hsame _ ?_
          exact StreamTask.map_modify s.monitor.tasks i hcancel
      | state name =>
          simp only [act, actClient]
          refine s.withNamed_elim s.clients name _ (hsame _ rfl) fun i _ => ?_
          unfold clientState
          split
          · exact hsame _ rfl
          · next t ht => exact hsame _ (StreamTask.map_set ht (hread t))
  | run | settle => cases ha

end Map

/-- An action that runs no task leaves the tasks as they were, but for their marks and their logs,
and puts new ones behind them. -/
theorem exists_tasks_act {a : Action} (ha : a.runsTasks = false) :
    ∃ new : List StreamTask, (∀ u ∈ new, u.IsNew) ∧
      (s.act a).1.monitor.tasks.map StreamTask.core =
        (s.monitor.tasks ++ new).map StreamTask.core :=
  s.exists_map_tasks_act (fun _ => rfl) (fun _ => rfl) (fun _ => rfl) ha

/-- It leaves the slots and the epoch as they were, or it opens the next generation and empties the
slots. -/
theorem store_act {a : Action} (ha : a.runsTasks = false) :
    ((s.act a).1.monitor.store = s.monitor.store ∧
      (s.act a).1.monitor.generation = s.monitor.generation) ∨
    ∃ g, s.monitor.generation.next? = some g ∧ (s.act a).1.monitor.generation = g ∧
      (s.act a).1.monitor.store = s.monitor.store.reset g := by
  cases a with
  | broker a =>
      obtain ⟨_, _, _, _, _, hact⟩ := s.exists_actBroker_eq a
      rw [act, hact]
      exact .inl ⟨rfl, rfl⟩
  | connection a =>
      refine s.actConnection_elim a ?_ ?_ ?_
      · exact fun _ _ => .inl ⟨rfl, rfl⟩
      · exact fun g _ _ _ hg _ => .inr ⟨g, hg, rfl, rfl⟩
      · exact fun _ => .inl ⟨rfl, rfl⟩
  | subscriber a =>
      obtain ⟨_, _, _, _, _, _, hact⟩ := s.exists_actSubscriber_eq a
      rw [act, hact]
      exact .inl ⟨rfl, rfl⟩
  | client a =>
      obtain ⟨_, _, _, hact⟩ := s.exists_actClient_eq a
      rw [act, hact]
      exact .inl ⟨rfl, rfl⟩
  | run | settle => cases ha

end Session

end BrokerMonitor
