import BrokerMonitor.Proofs.Outside
/-!
# Visits to a task

A task moves only when it is run. `Session.visits` lists the states in which one task is run in the
course of some actions. In between others may mark the task, read its log, fill its feed and move
its slot on, and none of it gets the task further. So a law of the task that is told by the visits
so far (`Lasts`) has to be looked at for one visit only, and then holds after every run of actions,
and at every visit on the way.
-/

namespace BrokerMonitor

namespace Monitor

variable {m : Monitor} {i : Nat} {t : StreamTask}

/-- The states in which task `i` is run, when some jobs are run one after the other. -/
def visits (m : Monitor) (i : Nat) : List Job → List Monitor
  | [] => []
  | j :: js => (if j = .stream i then [m] else []) ++ (m.run j).visits i js

/-- The task after its turn. -/
def advance (m : Monitor) (t : StreamTask) : StreamTask :=
  t.progress (m.turn t).said (m.turn t).messages.length (m.turn t).phase

/-- Task `i` was not aborted. -/
def Spares (m : Monitor) (i : Nat) : Prop := ∀ t, m.tasks[i]? = some t → t.aborted = false

theorem run_stream_eq (ht : m.tasks[i]? = some t) : ∃ queue, m.run (.stream i) =
    { m.progress i t (m.progressOf (m.reach t) (m.turn t)) with queue } := by
  obtain ⟨queue, hrun⟩ := m.exists_run_stream_eq i
  exact ⟨queue, hrun.trans (by rw [runStream_eq_turn ht])⟩

theorem getElem?_tasks_run_stream (ht : m.tasks[i]? = some t) :
    (m.run (.stream i)).tasks[i]? = some (m.advance t) := by
  obtain ⟨queue, hrun⟩ := run_stream_eq ht
  rw [hrun]
  exact getElem?_tasks_progress ht _

/-- Only the task that is run moves. -/
theorem getElem?_tasks_run_of_ne (m : Monitor) {j : Job} (hne : j ≠ .stream i) :
    (m.run j).tasks[i]? = m.tasks[i]? := by
  cases j with
  | observer k =>
      obtain ⟨board, observers, queue, hrun, -⟩ := m.exists_run_observer_eq k
      rw [hrun]
  | stream k =>
      have hki : k ≠ i := fun h => hne (congrArg Job.stream h)
      obtain ⟨queue, hrun⟩ := m.exists_run_stream_eq k
      rw [hrun]
      exact m.getElem?_tasks_runStream_of_ne hki

theorem leads_of_mem_visits {js : List Job} {n : Monitor} (h : n ∈ m.visits i js) : m.Leads n := by
  induction js generalizing m with
  | nil => cases h
  | cons j js ih =>
      rcases List.mem_append.mp h with hfirst | hlater
      · by_cases hj : j = .stream i
        · rw [if_pos hj] at hfirst
          obtain rfl := List.mem_singleton.mp hfirst
          exact .refl
        · rw [if_neg hj] at hfirst
          cases hfirst
      · exact .head (.run m j) (ih hlater)

/-- A law of task `i`, told by the visits so far, that lasts: it looks neither at marks nor at what
was read of the log, and each visit keeps it. -/
structure Lasts (i : Nat) (P : List Monitor → StreamTask → Prop) : Prop where
  marks : ∀ {V t t'}, P V t → t'.core = t.core → t'.log.entries = t.log.entries → P V t'
  visit : ∀ {V m t}, P V t → m.tasks[i]? = some t → t.aborted = false → P (V ++ [m]) (m.advance t)

variable {P : List Monitor → StreamTask → Prop}

namespace Lasts

theorem runAll (h : Lasts i P) {V : List Monitor} {js : List Job} (ht : m.tasks[i]? = some t)
    (hP : P V t) (hspared : ∀ n ∈ m.visits i js, n.Spares i) :
    ∃ t', (m.runAll js).tasks[i]? = some t' ∧ P (V ++ m.visits i js) t' := by
  induction js generalizing m t V with
  | nil => exact ⟨t, ht, by rwa [visits, List.append_nil]⟩
  | cons j js ih =>
      rw [visits] at hspared ⊢
      have hlater : ∀ n ∈ (m.run j).visits i js, n.Spares i :=
        fun n hn => hspared n (List.mem_append_right _ hn)
      by_cases hj : j = .stream i
      · subst hj
        rw [if_pos rfl] at hspared ⊢
        have haborted : t.aborted = false := hspared m (by simp) t ht
        have hvisit : P (V ++ [m]) (m.advance t) := h.visit hP ht haborted
        rw [← List.append_assoc]
        exact ih (getElem?_tasks_run_stream ht) hvisit hlater
      · rw [if_neg hj, List.nil_append]
        exact ih ((m.getElem?_tasks_run_of_ne hj).trans ht) hP hlater

/-- It held at every visit as well. -/
theorem remembered (h : Lasts i P) : Lasts i fun V t => P V t ∧
    ∀ (k : Nat) (n : Monitor), V[k]? = some n →
      ∃ u, n.tasks[i]? = some u ∧ u.aborted = false ∧ P (V.take k) u where
  marks hP hcore hlog := ⟨h.marks hP.1 hcore hlog, hP.2⟩
  visit := by
    rintro V m t ⟨hP, hpast⟩ ht haborted
    refine ⟨h.visit hP ht haborted, ?_⟩
    intro k n hn
    rcases Nat.lt_or_ge k V.length with hlt | hge
    · rw [List.getElem?_append_left hlt] at hn
      rw [List.take_append_of_le_length (Nat.le_of_lt hlt)]
      exact hpast k n hn
    · rw [List.getElem?_append_right hge, List.getElem?_singleton] at hn
      split at hn
      · next hlast =>
          obtain rfl := Option.some.inj hn
          have hk : k = V.length := by omega
          rw [hk, List.take_left]
          exact ⟨t, ht, haborted, hP⟩
      · cases hn

end Lasts

end Monitor

namespace Session

open Monitor (Lasts)

variable {s : Session} {i : Nat} {t : StreamTask} {P : List Monitor → StreamTask → Prop}

/-- The states in which task `i` is run in the course of some actions. -/
def visits (s : Session) (i : Nat) : List Action → List Monitor
  | [] => []
  | a :: rest => s.monitor.visits i (s.jobs a) ++ (s.act a).1.visits i rest

theorem leads_of_mem_visits {run : List Action} {n : Monitor} (h : n ∈ s.visits i run) :
    s.monitor.Leads n := by
  induction run generalizing s with
  | nil => cases h
  | cons a rest ih =>
      rcases List.mem_append.mp h with hfirst | hlater
      · exact Monitor.leads_of_mem_visits hfirst
      · exact (s.monitor_leads_act a).trans (ih hlater)

/-- An action that runs no task leaves a task as it is, but for its marks and the reading of its
log. -/
theorem exists_task_act (ht : s.monitor.tasks[i]? = some t) {a : Action}
    (ha : a.runsTasks = false) : ∃ t', (s.act a).1.monitor.tasks[i]? = some t' ∧
      t'.core = t.core ∧ t'.log.entries = t.log.entries := by
  let f : StreamTask → StreamTask × List Report := fun t => (t.core, t.log.entries)
  obtain ⟨new, -, hmap⟩ := s.exists_map_tasks_act (f := f) (fun _ => rfl) (fun _ => rfl)
    (fun _ => rfl) ha
  have hold : (s.monitor.tasks ++ new)[i]? = some t := by
    obtain ⟨hlt, -⟩ := List.getElem?_eq_some_iff.mp ht
    exact (List.getElem?_append_left hlt).trans ht
  obtain ⟨t', ht', hsame⟩ := StreamTask.exists_getElem?_of_map hmap.symm hold
  exact ⟨t', ht', congrArg Prod.fst hsame, congrArg Prod.snd hsame⟩

theorem lasts_act (h : Lasts i P) {V : List Monitor} {a : Action}
    (ht : s.monitor.tasks[i]? = some t) (hP : P V t)
    (hspared : ∀ n ∈ s.monitor.visits i (s.jobs a), n.Spares i) :
    ∃ t', (s.act a).1.monitor.tasks[i]? = some t' ∧
      P (V ++ s.monitor.visits i (s.jobs a)) t' := by
  cases ha : a.runsTasks with
  | true =>
      rw [act_of_runsTasks s ha]
      exact h.runAll ht hP hspared
  | false =>
      obtain ⟨t', ht', hcore, hlog⟩ := exists_task_act ht ha
      rw [s.jobs_eq_nil ha, Monitor.visits, List.append_nil]
      exact ⟨t', ht', h.marks hP hcore hlog⟩

theorem lasts_actAll (h : Lasts i P) {V : List Monitor} {run : List Action}
    (ht : s.monitor.tasks[i]? = some t) (hP : P V t)
    (hspared : ∀ n ∈ s.visits i run, n.Spares i) :
    ∃ t', (s.actAll run).monitor.tasks[i]? = some t' ∧ P (V ++ s.visits i run) t' := by
  induction run generalizing s t V with
  | nil => exact ⟨t, ht, by rwa [visits, List.append_nil]⟩
  | cons a rest ih =>
      rw [visits] at hspared ⊢
      obtain ⟨u, hu, hfirst⟩ := lasts_act h ht hP
        fun n hn => hspared n (List.mem_append_left _ hn)
      rw [← List.append_assoc]
      exact ih hu hfirst fun n hn => hspared n (List.mem_append_right _ hn)

/-- A law that lasts holds after a run of actions, and held at every visit. -/
theorem exists_of_lasts (h : Lasts i P) {run : List Action} (ht : s.monitor.tasks[i]? = some t)
    (hP : P [] t) (hspared : ∀ n ∈ s.visits i run, n.Spares i) :
    ∃ t', (s.actAll run).monitor.tasks[i]? = some t' ∧ P (s.visits i run) t' ∧
      ∀ (k : Nat) (n : Monitor), (s.visits i run)[k]? = some n →
        ∃ u, n.tasks[i]? = some u ∧ u.aborted = false ∧ P ((s.visits i run).take k) u :=
  lasts_actAll (V := []) h.remembered ht ⟨hP, by simp⟩ hspared

end Session

end BrokerMonitor
