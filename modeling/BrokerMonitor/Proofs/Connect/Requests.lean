import Mathlib.Data.List.Perm.Basic
import BrokerMonitor.Proofs.Delivery.Start
import BrokerMonitor.Proofs.Generation.Openings
/-!
# Every stream is requested once

A connect makes no request by itself. Its tasks do, each in its first run, and only if nothing has
superseded the connect by then. So what has been requested follows from two things: what was opened,
and which tasks were run in time (`Opening.due`). `Accounts` says so of every state of a run without
clients, whatever becomes of the streams.
-/

namespace BrokerMonitor

/-- The request for a resource over a connection. Channels have no rate, and without a rate the
adapters' is left to the broker. -/
def Handle.request (h : Handle) (rate : Option UInt32) (r : Resource) : StreamRequest where
  host := h.endpoint.host
  resource := r
  rate := match r with
    | .channels => none
    | .adapters => some (rate.getD 0)

/-- The requests that are due for what was opened, if the tasks of `served` were run in time. -/
def Opening.due (rate : Option UInt32) (served : List (Generation × Resource)) :
    Opening → List StreamRequest
  | .connection _ h =>
    (Resource.all.filter fun r => (h.generation, r) ∈ served).map (h.request rate)
  | .detachment => []

/-- All requests that are due. -/
def dues (rate : Option UInt32) (past : List Opening) (served : List (Generation × Resource)) :
    List StreamRequest :=
  past.flatMap (·.due rate served)

section Dues

variable {rate : Option UInt32} {past : List Opening} {served : List (Generation × Resource)}
  {g : Generation} {r : Resource} {h : Handle} {url : String}

theorem dues_append (rate : Option UInt32) (first later : List Opening)
    (served : List (Generation × Resource)) :
    dues rate (first ++ later) served = dues rate first served ++ dues rate later served :=
  List.flatMap_append

/-- Nothing more is due for a task that was served before, or that has no connection. -/
theorem dues_of_served (hpast : ∀ url h, .connection url h ∈ past → h.generation = g →
    (g, r) ∈ served) : dues rate past (served ++ [(g, r)]) = dues rate past served := by
  refine List.flatMap_congr fun o ho => ?_
  cases o with
  | detachment => rfl
  | connection url h =>
      refine congrArg _ (List.filter_congr fun r' _ => decide_eq_decide.mpr ?_)
      rw [List.mem_append, List.mem_singleton, Prod.mk.injEq, or_iff_left_iff_imp]
      rintro ⟨hg, rfl⟩
      exact hg ▸ hpast url h ho hg

/-- One more request is due when a task of the latest connection is first served. -/
theorem dues_of_first {init : List Opening}
    (hinit : ∀ url' h', .connection url' h' ∈ init → h'.generation ≠ h.generation)
    (hnew : (h.generation, r) ∉ served) :
    (dues rate (init ++ [.connection url h]) (served ++ [(h.generation, r)])).Perm
      (dues rate (init ++ [.connection url h]) served ++ [h.request rate r]) := by
  have hbefore : dues rate init (served ++ [(h.generation, r)]) = dues rate init served :=
    dues_of_served fun url' h' hmem hg => absurd hg (hinit url' h' hmem)
  have hall : Resource.all.Nodup := by decide
  have hlast :
      (Resource.all.filter fun r' => (h.generation, r') ∈ served ++ [(h.generation, r)]).Perm
        ((Resource.all.filter fun r' => (h.generation, r') ∈ served) ++ [r]) := by
    refine (List.perm_ext_iff_of_nodup (hall.filter _) ?_).mpr fun r' => ?_
    · refine List.Nodup.append (hall.filter _) (List.nodup_singleton r) ?_
      simpa [r.mem_all] using hnew
    · simp [r'.mem_all]
  rw [dues_append, dues_append, hbefore, List.append_assoc]
  refine List.Perm.append_left _ ?_
  simpa [dues, Opening.due] using hlast.map (h.request rate)

end Dues

namespace StreamTask

/-- What is settled about a task when it is spawned, and whether it was aborted. -/
def post (t : StreamTask) : (Audience × Generation × Bool) × Option Handle × UInt32 :=
  (t.badge, t.target, t.rate)

theorem request_eq {t : StreamTask} {rate : Option UInt32} (h : t.rate = rate.getD 0)
    (k : Handle) : t.request k = k.request rate t.resource := by
  cases hr : t.resource <;> simp only [request, Handle.request, h, hr]

theorem requests_goOn (t : StreamTask) (fresh : Bool)
    (feed : Option (Feed t.resource)) : (t.goOn fresh feed).requests = [] :=
  t.goOn_elim (fun _ => rfl) (fun _ _ => rfl) (fun _ _ _ _ _ => rfl) (fun _ _ _ _ _ => rfl)

end StreamTask

namespace Monitor

variable {m m' : Monitor} {i : Nat} {t : StreamTask} {past : List Opening}
  {served : List (Generation × Resource)}

/-- A task makes its request when it starts, if it has a connection, and none in any other run. -/
theorem requests_turn (m : Monitor) (t : StreamTask) :
    (m.turn t).requests = if t.starts then (t.target.map t.request).toList else [] := by
  unfold turn
  refine StreamTask.turn_elim ?_ ?_ ?_ ?_ ?_
  · intro hended
    have hnot : t.starts = false := by
      by_contra hstarts
      have hspawned := (StreamTask.starts_eq_true_iff.mp (by simpa using hstarts)).1
      rw [StreamTask.hasEnded_of_spawned hspawned] at hended
      cases hended
    rw [hnot]
    rfl
  · intro _ haborted
    simp [StreamTask.starts, haborted]
  · intro _ _ htarget
    simp [htarget]
  · intro h hspawned haborted htarget
    rw [if_pos (StreamTask.starts_eq_true_iff.mpr ⟨hspawned, haborted⟩), htarget]
    exact congrArg ([t.request h] ++ ·) (StreamTask.requests_goOn _ _ _)
  · intro held hheld _
    rw [StreamTask.starts_of_reading hheld, t.requests_goOn]
    rfl

/-- The rate is configured once. -/
theorem rate_step (h : Step m m') : m'.rate = m.rate := by
  cases h with
  | run j =>
      obtain ⟨_, _, _, _, _, _, _, hrun⟩ := m.exists_run_eq j
      rw [hrun]
  | _ => rfl

theorem rate_leads (h : m.Leads m') : m'.rate = m.rate := by
  induction h with
  | refl => rfl
  | tail _ step ih => exact (rate_step step).trans ih

/-! ### The monitor's staff -/

/-- The tasks of the current generation have its connection and the configured rate, and when the
monitor is dropped all its tasks are aborted. -/
structure Staffed (m : Monitor) : Prop where
  posted : ∀ t ∈ m.tasks, m.Heeds t →
    t.target = m.handle ∧ (t.target.isSome = true → t.rate = m.rate.getD 0)
  dismissed : m.alive = false → ∀ t ∈ m.tasks, t.audience = .board → t.aborted = true

namespace Staffed

theorem initial (rate : Option UInt32) : (Monitor.initial rate).Staffed where
  posted _ ht := absurd ht List.not_mem_nil
  dismissed alive := nomatch alive

theorem of_map_post (h : m.Staffed) (halive : m'.alive = m.alive) (hepoch : m'.epoch = m.epoch)
    (hrate : m'.rate = m.rate)
    (htasks : m'.tasks.map StreamTask.post = m.tasks.map StreamTask.post) : m'.Staffed := by
  have hgeneration : m'.generation = m.generation := congrArg Prod.fst hepoch
  have hhandle : m'.handle = m.handle := congrArg Prod.snd hepoch
  have hold : ∀ u ∈ m'.tasks, ∃ t ∈ m.tasks, t.post = u.post := by
    intro u hu
    exact List.mem_map.mp (htasks ▸ List.mem_map_of_mem hu)
  refine ⟨fun u hu hheeds => ?_, fun alive u hu haudience => ?_⟩
  · obtain ⟨t, ht, hpost⟩ := hold u hu
    simp only [StreamTask.post, StreamTask.badge, Prod.mk.injEq] at hpost
    obtain ⟨⟨haudience, hg, -⟩, htarget, hsame⟩ := hpost
    rw [← htarget, ← hsame, hhandle, hrate]
    refine h.posted t ht ⟨haudience.trans hheeds.1, ?_⟩
    rw [hg, hheeds.2, hgeneration]
  · obtain ⟨t, ht, hpost⟩ := hold u hu
    simp only [StreamTask.post, StreamTask.badge, Prod.mk.injEq] at hpost
    obtain ⟨⟨hboard, -, haborted⟩, -⟩ := hpost
    rw [← haborted]
    exact h.dismissed (halive ▸ alive) t ht (hboard.trans haudience)

theorem attach (hm : m.Lockstep) {g : Generation} {handle : Option Handle}
    (hg : m.generation.next? = some g) (alive : m.alive = true) :
    (m.attach g handle).Staffed := by
  refine ⟨fun u hu hheeds => ?_, fun dropped => ?_⟩
  · obtain ⟨j, hj⟩ := List.mem_iff_getElem?.mp hu
    obtain ⟨k, r, -, -, rfl⟩ := hm.exists_of_heeds_attach hg hj hheeds
    cases handle with
    | none => exact ⟨rfl, nofun⟩
    | some h => exact ⟨rfl, fun _ => rfl⟩
  · have hsame : (m.attach g handle).alive = m.alive := rfl
    rw [hsame, alive] at dropped
    cases dropped

theorem drop (h : m.Staffed) (hm : m.Retired) : m.drop.Staffed := by
  refine ⟨fun u hu hheeds => ?_, fun _ u hu haudience => ?_⟩
  · obtain ⟨i, hi⟩ := List.mem_iff_getElem?.mp hu
    obtain ⟨t, ht, hcore⟩ := StreamTask.exists_getElem?_of_map m.map_core_abandonTasks hi
    have hcase : m.Heeds t.core → t.core.target = m.handle ∧
        (t.core.target.isSome = true → t.core.rate = m.rate.getD 0) :=
      h.posted t (List.mem_of_getElem? ht)
    rw [hcore] at hcase
    exact hcase hheeds
  · obtain ⟨i, hi⟩ := List.mem_iff_getElem?.mp hu
    exact hm.aborted_abandonTasks hi haudience

theorem run (h : m.Staffed) (j : Job) : (m.run j).Staffed := by
  have hposts : (m.run j).tasks.map StreamTask.post = m.tasks.map StreamTask.post :=
    map_tasks_run (fun t said count phase => by
      simp only [StreamTask.post, StreamTask.badge, StreamTask.generation_progress]
      rfl) m j
  have hepoch := m.epoch_run j
  obtain ⟨_, _, _, _, _, _, _, hrun⟩ := m.exists_run_eq j
  rw [hrun] at hposts hepoch ⊢
  exact h.of_map_post rfl hepoch rfl hposts

end Staffed

/-! ### Accounts -/

/-- What a job serves: the generation and the resource of its stream task, unless the task has been
superseded by a later generation or by the end of the monitor. -/
def serves (m : Monitor) : Job → List (Generation × Resource)
  | .stream i =>
    match m.tasks[i]? with
    | none => []
    | some t =>
      if m.alive = true ∧ t.generation = m.generation then [(t.generation, t.resource)] else []
  | .observer _ => []

theorem serves_stream (ht : m.tasks[i]? = some t) : m.serves (.stream i) =
    if m.alive = true ∧ t.generation = m.generation then [(t.generation, t.resource)] else [] := by
  simp only [serves, ht]

/-- What is served while jobs are run one after the other. -/
def servesAll (m : Monitor) : List Job → List (Generation × Resource)
  | [] => []
  | j :: js => m.serves j ++ (m.run j).servesAll js

/-- Of what was opened, what is current is the last, and nothing else has its generation. -/
structure Latest (m : Monitor) (past : List Opening) : Prop where
  only : ∀ url h, .connection url h ∈ past → h.generation = m.generation → m.handle = some h
  last : ∀ h, m.handle = some h → ∃ url init, past = init ++ [.connection url h] ∧
    ∀ url' h', .connection url' h' ∈ init → h'.generation ≠ m.generation

/-- The requests that were made are those that are due, and while the monitor lives, its tasks have
started just if they have been served. -/
structure Accounts (m : Monitor) (past : List Opening) (served : List (Generation × Resource)) :
    Prop where
  requests : m.requests.entries.Perm (dues m.rate past served)
  served_le : ∀ p ∈ served, p.1 ≤ m.generation
  started : m.alive = true → ∀ t ∈ m.tasks, m.Heeds t →
    (t.phase = .spawned ↔ (t.generation, t.resource) ∉ served)

theorem Latest.of_epoch (h : m.Latest past) (hepoch : m'.epoch = m.epoch) : m'.Latest past := by
  have hgeneration : m'.generation = m.generation := congrArg Prod.fst hepoch
  have hhandle : m'.handle = m.handle := congrArg Prod.snd hepoch
  refine ⟨?_, ?_⟩
  · rw [hgeneration, hhandle]
    exact h.only
  · rw [hgeneration, hhandle]
    exact h.last

namespace Accounts

theorem initial (rate : Option UInt32) : (Monitor.initial rate).Accounts [] [] where
  requests := .refl _
  served_le _ hp := nomatch hp
  started _ _ ht := absurd ht List.not_mem_nil

/-- What becomes due with the first run of a current task is what the task requests: one stream over
the current connection, or nothing without one. -/
theorem requests_of_first (h : m.Accounts past served) (hlock : m.Lockstep) (hstaffed : m.Staffed)
    (hlatest : m.Latest past) (ht : t ∈ m.tasks) (hheeds : m.Heeds t)
    (hnew : (t.generation, t.resource) ∉ served) :
    (m.requests.entries ++ (t.target.map t.request).toList).Perm
      (dues m.rate past (served ++ [(t.generation, t.resource)])) := by
  obtain ⟨htarget, hrate⟩ := hstaffed.posted t ht hheeds
  cases hhandle : m.handle with
  | none =>
      rw [htarget, hhandle, dues_of_served]
      · simpa using h.requests
      · intro url k hk hg
        rw [hlatest.only url k hk (hg.trans hheeds.2)] at hhandle
        cases hhandle
  | some k =>
      obtain ⟨url, init, rfl, hinit⟩ := hlatest.last k hhandle
      have hgeneration : t.generation = k.generation :=
        hheeds.2.trans (hlock.handle k hhandle).symm
      have hrequest : t.request k = k.request m.rate t.resource :=
        StreamTask.request_eq (hrate (by rw [htarget, hhandle]; rfl)) k
      rw [← hheeds.2, hgeneration] at hinit
      rw [hgeneration] at hnew
      rw [htarget, hhandle, hgeneration, Option.map_some, Option.toList_some, hrequest]
      exact (h.requests.append_right _).trans (dues_of_first hinit hnew).symm

/-- A task that starts makes the request that becomes due. Any other task makes none, and none
becomes due, as it has been served before or is superseded. -/
theorem requests_runStream (h : m.Accounts past served) (hm : m.Clientless) (hstaffed : m.Staffed)
    (hlatest : m.Latest past) (ht : m.tasks[i]? = some t) :
    (m.requests.entries ++ (m.turn t).requests).Perm
      (dues m.rate past (served ++ m.serves (.stream i))) := by
  have hmem := List.mem_of_getElem? ht
  rw [requests_turn, serves_stream ht]
  by_cases hstarts : t.starts = true
  · obtain ⟨hspawned, haborted⟩ := StreamTask.starts_eq_true_iff.mp hstarts
    have hheeds := hm.heeds ht haborted
    have alive : m.alive = true := by
      by_contra dropped
      rw [hstaffed.dismissed (by simpa using dropped) t hmem hheeds.1] at haborted
      cases haborted
    rw [if_pos hstarts, if_pos ⟨alive, hheeds.2⟩]
    exact h.requests_of_first hm.reachable.exact.lockstep hstaffed hlatest hmem hheeds
      ((h.started alive t hmem hheeds).mp hspawned)
  · rw [if_neg hstarts, List.append_nil]
    split
    · next hcurrent =>
        obtain ⟨alive, hgeneration⟩ := hcurrent
        have hheeds : m.Heeds t := ⟨hm.solo t hmem, hgeneration⟩
        have hkept := hm.reachable.retired.kept alive i t ht hheeds.1 hgeneration
        have hserved : (t.generation, t.resource) ∈ served := by
          by_contra hnot
          have hspawned := (h.started alive t hmem hheeds).mpr hnot
          exact hstarts (StreamTask.starts_eq_true_iff.mpr ⟨hspawned, hkept⟩)
        rw [dues_of_served fun _ _ _ _ => hserved]
        exact h.requests
    · rw [List.append_nil]
      exact h.requests

/-- The task that has run has started, and no other has. -/
theorem started_runStream (h : m.Accounts past served) (hm : m.Clientless)
    (ht : m.tasks[i]? = some t) (alive : m.alive = true) {u : StreamTask}
    (hu : u ∈ (m.progress i t (m.progressOf (m.reach t) (m.turn t))).tasks) (hheeds : m.Heeds u) :
    u.phase = .spawned ↔ (u.generation, u.resource) ∉ served ++ m.serves (.stream i) := by
  obtain ⟨j, hj⟩ := List.mem_iff_getElem?.mp hu
  rcases cases_of_getElem?_progress ht hj with ⟨-, rfl⟩ | ⟨hji, hold⟩
  · have hserved : m.serves (.stream i) = [(t.generation, t.resource)] := by
      rw [serves_stream ht, if_pos ⟨alive, (heeds_progress.mp hheeds).2⟩]
    refine iff_of_false (m.phase_turn_ne_spawned t) ?_
    rw [hserved, StreamTask.generation_progress, StreamTask.resource_progress]
    simp
  · have hother : (u.generation, u.resource) ∉ m.serves (.stream i) := by
      intro hmem
      rw [serves_stream ht] at hmem
      split at hmem
      · next hcurrent =>
          have hsame := Prod.mk.inj (List.mem_singleton.mp hmem)
          have hboth : m.Heeds t := ⟨hm.solo t (List.mem_of_getElem? ht), hcurrent.2⟩
          exact hji (hm.reachable.exact.single j i u t hold ht hheeds hboth hsame.2)
      · cases hmem
    rw [h.started alive u (List.mem_of_getElem? hold) hheeds, List.mem_append, not_or]
    exact ⟨fun hnot => ⟨hnot, hother⟩, And.left⟩

theorem run (h : m.Accounts past served) (hm : m.Clientless) (hstaffed : m.Staffed)
    (hlatest : m.Latest past) (j : Job) :
    (m.run j).Accounts past (served ++ m.serves j) := by
  cases j with
  | observer k =>
      obtain ⟨board, observers, queue, hrun, -⟩ := m.exists_run_observer_eq k
      rw [hrun, serves, List.append_nil]
      exact ⟨h.requests, h.served_le, h.started⟩
  | stream i =>
      obtain ⟨queue, hrun⟩ := m.exists_run_stream_eq i
      rw [hrun]
      cases ht : m.tasks[i]? with
      | none =>
          have hserves : m.serves (.stream i) = [] := by simp only [serves, ht]
          rw [runStream_of_missing ht, hserves, List.append_nil]
          exact ⟨h.requests, h.served_le, h.started⟩
      | some t =>
          rw [runStream_eq_turn ht]
          refine ⟨h.requests_runStream hm hstaffed hlatest ht, fun p hp => ?_,
            fun alive u hu hheeds => h.started_runStream hm ht alive hu hheeds⟩
          rcases List.mem_append.mp hp with hold | hnew
          · exact h.served_le p hold
          · rw [serves_stream ht] at hnew
            split at hnew
            · next hcurrent =>
                rw [List.mem_singleton.mp hnew]
                exact Nat.le_of_eq (congrArg _ hcurrent.2)
            · cases hnew

theorem runAll (h : m.Accounts past served) (hm : m.Clientless) (hstaffed : m.Staffed)
    (hlatest : m.Latest past) (js : List Job) :
    (m.runAll js).Accounts past (served ++ m.servesAll js) := by
  induction js generalizing m served with
  | nil => rwa [servesAll, List.append_nil]
  | cons j js ih =>
      have hnext := ih (h.run hm hstaffed hlatest j) (hm.run j) (hstaffed.run j)
        (hlatest.of_epoch (m.epoch_run j))
      rwa [List.append_assoc] at hnext

/-- Nothing is due for what has just been opened. -/
theorem attach (h : m.Accounts past served) (hm : m.Lockstep) {g : Generation} {o : Opening}
    (hg : m.generation.next? = some g) (ho : ∀ url k, o = .connection url k → k.generation = g) :
    (m.attach g o.handle?).Accounts (past ++ [o]) served := by
  have hnext := Generation.toNat_of_next? hg
  have hnew : ∀ r, (g, r) ∉ served := by
    intro r hr
    have hle : g.toNat ≤ m.generation.toNat := h.served_le _ hr
    omega
  have hnothing : dues m.rate [o] served = [] := by
    cases o with
    | detachment => rfl
    | connection url k => simp [dues, Opening.due, ho url k rfl, hnew]
  refine ⟨?_, fun p hp => ?_, fun _ u hu hheeds => ?_⟩
  · change m.requests.entries.Perm (dues m.rate (past ++ [o]) served)
    rw [dues_append, hnothing, List.append_nil]
    exact h.requests
  · have hle : p.1.toNat ≤ m.generation.toNat := h.served_le p hp
    change p.1.toNat ≤ g.toNat
    omega
  · have hgeneration : u.generation = g := hheeds.2
    obtain ⟨j, hj⟩ := List.mem_iff_getElem?.mp hu
    have hunserved : (u.generation, u.resource) ∉ served := by
      rw [hgeneration]
      exact hnew u.resource
    refine iff_of_true ?_ hunserved
    obtain ⟨k, r, -, -, rfl⟩ := hm.exists_of_heeds_attach hg hj hheeds
    cases o <;> rfl

theorem drop (h : m.Accounts past served) : m.drop.Accounts past served :=
  ⟨h.requests, h.served_le, fun alive => nomatch alive⟩

end Accounts

end Monitor

namespace Session

variable {s s' : Session} {past : List Opening} {served : List (Generation × Resource)}

/-- What is served in a run of actions. -/
def servedAlong (s : Session) : List Action → List (Generation × Resource)
  | [] => []
  | a :: rest => s.monitor.servesAll (s.jobs a) ++ (s.act a).1.servedAlong rest

/-- What is recorded as opened last is what is current. -/
theorem Recorded.latest (h : s.Recorded past) : s.monitor.Latest past := by
  refine ⟨fun url k hk hg => ?_, fun k hk => ?_⟩
  · obtain ⟨i, hi⟩ := List.mem_iff_getElem?.mp hk
    obtain ⟨hlt, -⟩ := List.getElem?_eq_some_iff.mp hi
    have hplace := (h.place i url k hi).1
    rw [hg, h.count] at hplace
    refine (h.handle_eq_some_iff k).mpr ⟨url, ?_⟩
    rw [List.getLast?_eq_getElem?, hplace]
    exact hi
  · obtain ⟨url, hlast⟩ := (h.handle_eq_some_iff k).mp hk
    obtain ⟨init, rfl⟩ := List.getLast?_eq_some_iff.mp hlast
    refine ⟨url, init, rfl, fun url' k' hk' hg => ?_⟩
    obtain ⟨i, hi⟩ := List.mem_iff_getElem?.mp hk'
    obtain ⟨hlt, -⟩ := List.getElem?_eq_some_iff.mp hi
    have hplace := (h.place i url' k' ((List.getElem?_append_left hlt).trans hi)).1
    have hcount := h.count
    rw [← hg, List.length_append, List.length_singleton] at hcount
    omega

/-- Reading the requests does not take them away. -/
theorem requests_actBroker (s : Session) (a : BrokerAction) :
    (s.actBroker a).1.monitor.requests.entries = s.monitor.requests.entries := by
  cases a with
  | offer name host r =>
      simp only [actBroker, offer]
      split <;> rfl
  | send name r message =>
      simp only [actBroker]
      refine s.withNamed_elim s.feeds name _ rfl fun id _ => ?_
      split <;> rfl
  | fail name e | isAbandoned name =>
      simp only [actBroker]
      exact s.withNamed_elim s.feeds name _ rfl fun _ _ => rfl
  | close name =>
      simp only [actBroker]
      split <;> rfl
  | refuse e | requests => rfl

/-- The accounts of a session without clients, and what they rest on. -/
structure Audited (s : Session) (past : List Opening) (served : List (Generation × Resource)) :
    Prop where
  recorded : s.Recorded past
  clientless : s.monitor.Clientless
  staffed : s.monitor.Staffed
  accounts : s.monitor.Accounts past served

namespace Audited

theorem start (rate : Option UInt32) : (Session.start rate).Audited [] [] where
  recorded := .start rate
  clientless := clientless_start rate
  staffed := .initial rate
  accounts := .initial rate

/-- What is done about the connection serves nothing, but may open something. -/
theorem books_actConnection (h : s.Audited past served) (a : ConnectionAction) :
    (s.actConnection a).1.monitor.Staffed ∧ (s.actConnection a).1.monitor.Accounts
      (past ++ ((Action.connection a).opening? (s.actConnection a).2).toList) served := by
  have hlock := h.clientless.reachable.exact.lockstep
  have hfresh : ∀ g, s.monitor.generation.next? = some g → g ≠ s.monitor.generation := by
    rintro g hg rfl
    have hnext := Generation.toNat_of_next? hg
    omega
  rcases s.actConnection_cases a with ⟨ho, hepoch⟩ | ⟨o, ho, hopens⟩
  · rw [ho, Option.toList_none, List.append_nil]
    have hgeneration : (s.actConnection a).1.monitor.generation = s.monitor.generation :=
      congrArg (·.1.1) hepoch
    revert hgeneration
    refine s.actConnection_elim a (fun _ _ _ => ?_) ?_ fun _ _ => ?_
    · exact ⟨⟨h.staffed.posted, h.staffed.dismissed⟩,
        ⟨h.accounts.requests, h.accounts.served_le, h.accounts.started⟩⟩
    · exact fun g _ _ _ hg _ hsame => absurd hsame (hfresh g hg)
    · exact ⟨h.staffed.drop h.clientless.reachable.retired, h.accounts.drop⟩
  · rw [ho, Option.toList_some]
    revert hopens
    refine s.actConnection_elim a (fun _ _ hopens => ?_) ?_ fun _ hopens => ?_
    · exact absurd rfl (hfresh _ hopens.next)
    · intro g handle handles alive hg _ hopens
      have hhandle : handle = o.handle? := hopens.handle
      subst hhandle
      exact ⟨.attach hlock hg alive,
        h.accounts.attach hlock hg fun url k hk => (hopens.connection url k hk).1⟩
    · exact absurd rfl (hfresh _ hopens.next)

theorem books_runTasks (h : s.Audited past served) (js : List Job) :
    (s.runTasks js).monitor.Staffed ∧
      (s.runTasks js).monitor.Accounts past (served ++ s.monitor.servesAll js) := by
  refine ⟨?_, h.accounts.runAll h.clientless h.staffed h.recorded.latest js⟩
  change (s.monitor.runAll js).Staffed
  have hall : ∀ (m : Monitor), m.Staffed → (m.runAll js).Staffed := by
    induction js with
    | nil => exact fun _ hm => hm
    | cons j js ih => exact fun m hm => ih _ (hm.run j)
  exact hall _ h.staffed

theorem act (h : s.Audited past served) {a : Action} (ha : ∀ c, a ≠ .client c) :
    (s.act a).1.Audited (past ++ (a.opening? (s.act a).2).toList)
      (served ++ s.monitor.servesAll (s.jobs a)) := by
  suffices hbooks : (s.act a).1.monitor.Staffed ∧ (s.act a).1.monitor.Accounts
      (past ++ (a.opening? (s.act a).2).toList) (served ++ s.monitor.servesAll (s.jobs a)) from
    ⟨h.recorded.act a, clientless_act h.clientless ha, hbooks.1, hbooks.2⟩
  cases a with
  | broker b =>
      have hrequests := s.requests_actBroker b
      obtain ⟨_, _, _, _, _, hact⟩ := s.exists_actBroker_eq b
      simp only [Session.act, Action.opening?, jobs, Monitor.servesAll, Option.toList_none,
        List.append_nil]
      rw [hact] at hrequests ⊢
      refine ⟨⟨h.staffed.posted, h.staffed.dismissed⟩, ?_, h.accounts.served_le, h.accounts.started⟩
      rw [hrequests]
      exact h.accounts.requests
  | connection b =>
      have hjobs : s.monitor.servesAll (s.jobs (.connection b)) = [] := rfl
      rw [hjobs, List.append_nil]
      exact h.books_actConnection b
  | subscriber b =>
      obtain ⟨_, _, _, _, _, _, hact⟩ := s.exists_actSubscriber_eq b
      simp only [Session.act, Action.opening?, jobs, Monitor.servesAll, Option.toList_none,
        List.append_nil]
      rw [hact]
      exact ⟨⟨h.staffed.posted, h.staffed.dismissed⟩,
        h.accounts.requests, h.accounts.served_le, h.accounts.started⟩
  | client c => exact absurd rfl (ha c)
  | run j | settle =>
      rw [act_of_runsTasks s rfl]
      simp only [Action.opening?, Option.toList_none, List.append_nil]
      exact h.books_runTasks _

theorem actAll (h : s.Audited past served) {run : List Action}
    (hrun : ∀ a ∈ run, ∀ c, a ≠ .client c) :
    (s.actAll run).Audited (past ++ s.openings run) (served ++ s.servedAlong run) := by
  induction run generalizing s past served with
  | nil => rwa [openings, servedAlong, List.append_nil, List.append_nil]
  | cons a rest ih =>
      obtain ⟨ha, hrest⟩ := List.forall_mem_cons.mp hrun
      have hnext := ih (h.act ha) hrest
      rwa [List.append_assoc, List.append_assoc] at hnext

end Audited

/-- In a run without clients exactly the due requests have been made: for each successful connect
and each resource one, if its task was run before the connect was superseded. -/
theorem requests_are_due {rate : Option UInt32} {run : List Action}
    (hrun : ∀ a ∈ run, ∀ c, a ≠ .client c) :
    let s := (start rate).actAll run
    let past := (start rate).openings run
    let served := (start rate).servedAlong run
    s.monitor.requests.entries.Perm (dues rate past served) ∧
    ∀ i url h, past[i]? = some (.connection url h) →
      h.generation.toNat = i + 1 ∧ Endpoint.parse url = .ok h.endpoint := by
  intro s past served
  have haudited : s.Audited past served := (Audited.start rate).actAll hrun
  have hrate : s.monitor.rate = rate :=
    Monitor.rate_leads (monitor_leads ((start rate).leads_actAll run))
  refine ⟨?_, haudited.recorded.place⟩
  have hrequests := haudited.accounts.requests
  rwa [hrate] at hrequests

/-- Of the first connect one task is run in time, of the second none, and of the third both. A
stream that failed is not requested again. -/
theorem requests_are_due_of_superseded_connects :
    let run : List Action := [
      .connection (.connect "first" "http://[::1]"), .run (.stream 0),
      .connection (.connect "second" "http://[::2]"), .connection .shutdown, .settle,
      .broker (.offer "feed" "[::3]" .channels),
      .connection (.connect "third" "http://[::3]"), .settle,
      .broker (.fail "feed" (.transport "gone")), .settle, .settle]
    ((start (some 5)).actAll run).monitor.requests.entries.Perm [
      { host := "[::1]", resource := .channels, rate := none },
      { host := "[::3]", resource := .channels, rate := none },
      { host := "[::3]", resource := .adapters, rate := some 5 }] := by
  intro run
  obtain ⟨hrequests, -⟩ := @requests_are_due (some 5) run (by simp [run])
  have hdues : dues (some 5) ((start (some 5)).openings run) ((start (some 5)).servedAlong run) = [
      { host := "[::1]", resource := .channels, rate := none },
      { host := "[::3]", resource := .channels, rate := none },
      { host := "[::3]", resource := .adapters, rate := some 5 }] := by
    decide +kernel
  rwa [hdues] at hrequests

end Session

end BrokerMonitor
