import BrokerMonitor.Proofs.Generation.Lockstep
import BrokerMonitor.Proofs.Status.Board
/-!
# Who reports to the board

That a status is the truth about its streams depends on who reports. Each resource has one task on
the board in a generation, so nobody contradicts what a reporter has said last; and a task without a
connection has nothing to report but that it is idle. `Monitor.Exact` puts this together with the
exactness of the status itself, and every step keeps it.
-/

namespace BrokerMonitor

/-- The status is up to date with a task of its generation, and the task fits the connection. -/
structure StreamTask.ShownBy (t : StreamTask) (s : BrokerStatus) (attached : Bool) : Prop where
  resource : t.reporter.resource = t.resource
  shown : s.streams.get? t.resource = some (t.reporter.last.getD .idle)
  target : t.target.isSome = attached
  /-- Without a connection there is no stream to read. -/
  unfed : t.target = none → t.feed? = none

namespace Monitor

variable {m m' : Monitor} {i : Nat} {t : StreamTask}

/-- The board listens to the task: it reports there, and for the current generation. -/
def Heeds (m : Monitor) (t : StreamTask) : Prop :=
  t.audience = .board ∧ t.generation = m.generation

/-- The status is exact, and stays so because of who reports to the board. -/
structure Exact (m : Monitor) : Prop where
  lockstep : m.Lockstep
  status : m.status.Exact m.handle.isSome
  shown : ∀ (i : Nat) (t : StreamTask), m.tasks[i]? = some t → m.Heeds t →
    t.ShownBy m.status m.handle.isSome
  /-- No two tasks report on one resource. -/
  single : ∀ (i j : Nat) (t u : StreamTask), m.tasks[i]? = some t → m.tasks[j]? = some u →
    m.Heeds t → m.Heeds u → t.resource = u.resource → i = j

theorem board_progress (h : m.Heeds t) (p : Progress t.resource) :
    (m.progress i t p).board = m.board.reportAll (t.passedOn p.said) := by
  simp [progress, h.1]

/-- A task that the board does not listen to is a client's or stale. -/
theorem board_progress_of_not_heeds (hm : m.Lockstep) (h : ¬ m.Heeds t) (p : Progress t.resource) :
    (m.progress i t p).board = m.board := by
  cases ha : t.audience with
  | log => simp [progress, ha]
  | board => exact board_progress_of_stale (fun hg => h ⟨ha, hg.trans hm.status⟩) p

theorem heeds_progress {said : List StreamStatus} {count : Nat} {phase : TaskPhase} :
    m.Heeds (t.progress said count phase) ↔ m.Heeds t := by
  simp [Heeds]

/-- After a connect or a shutdown the board listens to the new tasks only. -/
theorem Lockstep.exists_of_heeds_attach (h : m.Lockstep) {g : Generation}
    {handle : Option Handle} (hg : m.generation.next? = some g) {j : Nat} {u : StreamTask}
    (hu : (m.attach g handle).tasks[j]? = some u) (hheeds : (m.attach g handle).Heeds u) :
    ∃ k r, j = m.abandonTasks.tasks.length + k ∧ Resource.all[k]? = some r ∧
      u = m.taskFor g handle r := by
  rw [tasks_attach] at hu
  rcases Nat.lt_or_ge j m.abandonTasks.tasks.length with hlt | hge
  · rw [List.getElem?_append_left hlt] at hu
    have hold : u.generation.toNat ≤ m.generation.toNat :=
      (h.of_map_core m.map_core_abandonTasks).tasks u (List.mem_of_getElem? hu) hheeds.1
    have hnew : u.generation = g := hheeds.2
    have hnext := Generation.toNat_of_next? hg
    rw [hnew] at hold
    omega
  · rw [List.getElem?_append_right hge, List.getElem?_map] at hu
    obtain ⟨r, hr, rfl⟩ := Option.map_eq_some_iff.mp hu
    exact ⟨j - m.abandonTasks.tasks.length, r, by omega, hr, rfl⟩

/-- Without a connection a task says only that it is idle. -/
theorem Possible.idle {p : Progress t.resource} (hp : Possible m t p) {s : BrokerStatus}
    {attached : Bool} (ht : t.ShownBy s attached) (hdetached : attached = false) :
    ∀ x ∈ p.said, x = .idle := by
  have htarget : t.target = none := by simpa [hdetached] using ht.target
  obtain ⟨hnothing, -⟩ := hp.unfed htarget (ht.unfed htarget)
  obtain ⟨first, hsaid, hfirst⟩ := hp.said
  intro x hx
  rw [hsaid, hnothing, List.map_nil, List.append_nil] at hx
  rcases hfirst with rfl | ⟨-, rfl⟩
  · cases hx
  · simpa [StreamTask.opening, htarget] using hx

namespace Exact

theorem shows (h : m.Exact) (ht : m.tasks[i]? = some t) (hheeds : m.Heeds t) :
    m.board.Shows t.reporter m.handle.isSome := by
  have hshown := h.shown i t ht hheeds
  refine ⟨h.status, hheeds.2.trans h.lockstep.status.symm, ?_⟩
  rw [hshown.resource]
  exact hshown.shown

theorem initial (rate : Option UInt32) : (Monitor.initial rate).Exact where
  lockstep := .initial rate
  status := .begin .initial false
  shown _ _ ht := nomatch ht
  single _ _ _ _ ht := nomatch ht

/-- It does not matter which tasks are queued. -/
theorem requeue (h : m.Exact) (queue : List Job) : ({ m with queue } : Monitor).Exact :=
  ⟨h.lockstep.requeue queue, h.status, h.shown, h.single⟩

theorem of_map_core (h : m.Exact) {ts : List StreamTask}
    (hts : ts.map StreamTask.core = m.tasks.map StreamTask.core) :
    ({ m with tasks := ts } : Monitor).Exact := by
  refine ⟨h.lockstep.of_map_core hts, h.status, ?_, ?_⟩
  · intro j u hu hheeds
    obtain ⟨t, ht, hcore⟩ := StreamTask.exists_getElem?_of_map hts hu
    have hshown : m.Heeds t.core → t.core.ShownBy m.status m.handle.isSome := fun hheeds =>
      have hs := h.shown j t ht hheeds
      ⟨hs.resource, hs.shown, hs.target, hs.unfed⟩
    rw [hcore] at hshown
    have hs := hshown hheeds
    exact ⟨hs.resource, hs.shown, hs.target, hs.unfed⟩
  · intro j k u v hu hv hju hkv hresource
    obtain ⟨t, ht, hcore⟩ := StreamTask.exists_getElem?_of_map hts hu
    obtain ⟨w, hw, hcore'⟩ := StreamTask.exists_getElem?_of_map hts hv
    have hsingle : m.Heeds t.core → m.Heeds w.core → t.core.resource = w.core.resource → j = k :=
      h.single j k t w ht hw
    rw [hcore, hcore'] at hsingle
    exact hsingle hju hkv hresource

/-- A client is not listened to. -/
theorem client (h : m.Exact) {c : StreamTask} (hc : c.audience = .log) : (m.spawn c).Exact := by
  have hold : ∀ (j : Nat) (u : StreamTask), (m.spawn c).tasks[j]? = some u → m.Heeds u →
      m.tasks[j]? = some u := by
    intro j u hu hheeds
    rcases Nat.lt_or_ge j m.tasks.length with hlt | hge
    · exact List.getElem?_append_left hlt ▸ hu
    · simp only [spawn, List.getElem?_append_right hge, List.getElem?_singleton] at hu
      split at hu
      · obtain rfl := Option.some.inj hu
        cases hc.symm.trans hheeds.1
      · cases hu
  refine ⟨h.lockstep.client hc, h.status, ?_, ?_⟩
  · exact fun j u hu hheeds => h.shown j u (hold j u hu hheeds) hheeds
  · exact fun j k u v hu hv hju hkv => h.single j k u v (hold j u hu hju) (hold k v hv hkv) hju hkv

/-- A new generation starts with one task for each resource. -/
theorem attach (h : m.Exact) {g : Generation} {handle : Option Handle}
    (hg : m.generation.next? = some g) (hh : ∀ k, handle = some k → k.generation = g) :
    (m.attach g handle).Exact := by
  refine ⟨h.lockstep.attach hg hh, .begin g handle.isSome, ?_, ?_⟩
  · intro j u hu hheeds
    obtain ⟨k, r, -, -, rfl⟩ := h.lockstep.exists_of_heeds_attach hg hu hheeds
    have hidle : (m.attach g handle).status.streams.get? r = some .idle :=
      ResourceMap.get?_const StreamStatus.idle r
    cases handle with
    | none => exact ⟨rfl, hidle, rfl, fun _ => rfl⟩
    | some k => exact ⟨rfl, hidle, rfl, fun _ => rfl⟩
  · intro j k u v hu hv hju hkv hresource
    obtain ⟨j', r, rfl, hr, rfl⟩ := h.lockstep.exists_of_heeds_attach hg hu hju
    obtain ⟨k', r', rfl, hr', rfl⟩ := h.lockstep.exists_of_heeds_attach hg hv hkv
    have hrr : r = r' := by cases handle <;> exact hresource
    obtain ⟨hlt, -⟩ := List.getElem?_eq_some_iff.mp hr
    rw [(List.getElem?_inj hlt (by decide)).mp (hr.trans (hrr ▸ hr'.symm))]

/-- A run changes neither whom the board listens to nor what they report on. -/
theorem single_progress (h : m.Exact) (ht : m.tasks[i]? = some t) (p : Progress t.resource)
    {j k : Nat} {u v : StreamTask} (hu : (m.progress i t p).tasks[j]? = some u)
    (hv : (m.progress i t p).tasks[k]? = some v) (hju : m.Heeds u) (hkv : m.Heeds v)
    (hresource : u.resource = v.resource) : j = k := by
  have hbefore : ∀ {j : Nat} {u : StreamTask}, (m.progress i t p).tasks[j]? = some u →
      m.Heeds u → ∃ w, m.tasks[j]? = some w ∧ m.Heeds w ∧ w.resource = u.resource := by
    intro j u hu hheeds
    rcases cases_of_getElem?_progress ht hu with ⟨rfl, rfl⟩ | ⟨-, hu⟩
    · exact ⟨t, ht, heeds_progress.mp hheeds, rfl⟩
    · exact ⟨u, hu, hheeds, rfl⟩
  obtain ⟨u', hu', hju', hru⟩ := hbefore hu hju
  obtain ⟨v', hv', hkv', hrv⟩ := hbefore hv hkv
  exact h.single j k u' v' hu' hv' hju' hkv' (hru.trans (hresource.trans hrv.symm))

/-- The run of a task that the board listens to. -/
theorem progress_of_heeds (h : m.Exact) (ht : m.tasks[i]? = some t) (hheeds : m.Heeds t)
    {p : Progress t.resource} (hp : Possible m t p) : (m.progress i t p).Exact := by
  have hshown := h.shown i t ht hheeds
  have hshows := (h.shows ht hheeds).reportAll (hp.idle hshown)
  have hstatus : (m.progress i t p).status = (m.board.reportAll (t.passedOn p.said)).current :=
    congrArg StatusBoard.current (board_progress hheeds p)
  refine ⟨h.lockstep.progress ht p, hstatus ▸ hshows.exact, ?_,
    fun j k u v hu hv hju hkv => h.single_progress ht p hu hv hju hkv⟩
  intro j u hu hju
  rw [hstatus]
  rcases cases_of_getElem?_progress ht hu with ⟨rfl, rfl⟩ | ⟨hji, hu⟩
  · refine ⟨?_, ?_, hshown.target, fun htarget => (hp.unfed htarget (hshown.unfed htarget)).2⟩
    · simpa [StreamTask.progress] using hshown.resource
    · simpa [StreamTask.progress, StreamTask.passedOn, hshown.resource] using hshows.shown
  · -- Another task of the generation reports on another resource, which is shown as before.
    have hs := h.shown j u hu hju
    have hne : u.resource ≠ t.resource := fun hr => hji (h.single j i u t hu ht hju hheeds hr)
    refine ⟨hs.resource, ?_, hs.target, hs.unfed⟩
    rw [StatusBoard.get?_reportAll_of_ne]
    · exact hs.shown
    · intro told htold
      rw [(Reporter.tags_of_mem_reportAll htold).1, hshown.resource]
      exact hne

/-- The run of a task that the board does not listen to. -/
theorem progress_of_not_heeds (h : m.Exact) (ht : m.tasks[i]? = some t) (hheeds : ¬ m.Heeds t)
    (p : Progress t.resource) : (m.progress i t p).Exact := by
  have hstatus : (m.progress i t p).status = m.status :=
    congrArg StatusBoard.current (board_progress_of_not_heeds h.lockstep hheeds p)
  refine ⟨h.lockstep.progress ht p, hstatus ▸ h.status, ?_,
    fun j k u v hu hv hju hkv => h.single_progress ht p hu hv hju hkv⟩
  intro j u hu hju
  rcases cases_of_getElem?_progress ht hu with ⟨rfl, rfl⟩ | ⟨-, hu⟩
  · exact absurd (heeds_progress.mp hju) hheeds
  · rw [hstatus]
    exact h.shown j u hu hju

theorem progress (h : m.Exact) (ht : m.tasks[i]? = some t) {p : Progress t.resource}
    (hp : Possible m t p) : (m.progress i t p).Exact := by
  by_cases hheeds : m.Heeds t
  · exact h.progress_of_heeds ht hheeds hp
  · exact h.progress_of_not_heeds ht hheeds p

theorem runStream (h : m.Exact) (i : Nat) : (m.runStream i).Exact := by
  cases ht : m.tasks[i]? with
  | none => simpa [Monitor.runStream, ht] using h
  | some t =>
      obtain ⟨p, hp, hpossible⟩ := exists_runStream_eq_progress ht
      exact hp ▸ h.progress ht hpossible

theorem runObserver (h : m.Exact) (i : Nat) : (m.runObserver i).Exact := by
  have hlock := h.lockstep.runObserver i
  obtain ⟨board, observers, hrun, hcurrent⟩ := m.exists_runObserver_eq i
  rw [hrun] at hlock ⊢
  refine ⟨hlock, ?_, ?_, h.single⟩
  · rw [Monitor.status, hcurrent]
    exact h.status
  · intro j u hu hheeds
    rw [Monitor.status, hcurrent]
    exact h.shown j u hu hheeds

/-- Every step keeps the status exact. -/
theorem step (h : m.Exact) (step : m.Step m') : m'.Exact := by
  have hlock := h.lockstep.step step
  cases step with
  | offer | send | close | refuse | meetRefusal | readRequests | observe | unobserve | readHeard =>
      exact ⟨hlock, h.status, h.shown, h.single⟩
  | attach hg hh => exact h.attach hg hh
  | drop =>
      have h' := h.of_map_core m.map_core_abandonTasks
      exact ⟨hlock, h'.status, h'.shown, h'.single⟩
  | startOver r k => exact (h.client rfl).requeue _
  | startDetached r g => exact (h.client rfl).requeue _
  | readLog ht => exact h.of_map_core (StreamTask.map_set ht rfl)
  | cancel i =>
      have hcancel := StreamTask.map_modify m.tasks i fun t => (rfl : t.cancel.core = t.core)
      exact (h.of_map_core hcancel).requeue _
  | run j =>
      have h' := h.requeue (m.queue.erase j)
      cases j with
      | stream i => exact (h'.runStream i).requeue _
      | observer i => exact (h'.runObserver i).requeue _

theorem leads (h : m.Exact) (hm : m.Leads m') : m'.Exact := by
  induction hm with
  | refl => exact h
  | tail _ step ih => exact ih.step step

end Exact

end Monitor

end BrokerMonitor
