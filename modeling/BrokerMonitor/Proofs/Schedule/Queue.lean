import BrokerMonitor.Proofs.Schedule.Settle
import BrokerMonitor.Proofs.Status.Reporting
/-!
# The queue

Whoever becomes ready is put into the queue, and leaves it when it is run. As nobody but the one
that runs ceases to be ready, the queue holds exactly those who are ready. So the jobs that `settle`
takes from it are a schedule, and when none is left nobody is ready.
-/

namespace BrokerMonitor

/-- The task is as it was, unless it was cancelled or aborted. -/
structure StreamTask.Remains (t t' : StreamTask) : Prop where
  resource : t'.resource = t.resource
  phase : t'.phase = t.phase
  cancelled : t.cancelled = true → t'.cancelled = true
  aborted : t.aborted = true → t'.aborted = true

theorem StreamTask.remains_self (t : StreamTask) : t.Remains t := ⟨rfl, rfl, id, id⟩

theorem StreamTask.remains_abort (t : StreamTask) : t.Remains t.abort :=
  ⟨rfl, rfl, fun _ => rfl, fun _ => rfl⟩

theorem StreamTask.remains_cancel (t : StreamTask) : t.Remains t.cancel :=
  ⟨rfl, rfl, fun _ => rfl, id⟩

namespace Monitor

variable {m m' : Monitor}

/-- The queue holds exactly those who are ready, each once. -/
structure Queued (m : Monitor) : Prop where
  nodup : m.queue.Nodup
  ready : ∀ j, j ∈ m.queue ↔ m.isReady j = true

theorem isReady_enqueueReady (m : Monitor) (j : Job) : m.enqueueReady.isReady j = m.isReady j := by
  cases j <;> rfl

namespace Queued

theorem initial (rate : Option UInt32) : (Monitor.initial rate).Queued where
  nodup := List.nodup_nil
  ready j := by cases j <;> simp [Monitor.initial, isReady]

/-- A queue of tasks that are ready is filled up with the others. -/
theorem enqueueReady (hnodup : m.queue.Nodup) (hready : ∀ j ∈ m.queue, m.isReady j = true) :
    m.enqueueReady.Queued := by
  have hnew : ∀ j, j ∈ m.jobs.filter (fun j => m.isReady j && !m.queue.contains j) ↔
      m.isReady j = true ∧ j ∉ m.queue := by
    intro j
    rw [List.mem_filter]
    simp only [Bool.and_eq_true, Bool.not_eq_true', List.contains_eq_mem, decide_eq_false_iff_not]
    exact ⟨fun h => h.2, fun h => ⟨mem_jobs_of_isReady h.1, h⟩⟩
  refine ⟨?_, ?_⟩
  · refine List.Nodup.append hnodup (m.nodup_jobs.filter _) ?_
    exact fun j hold hfresh => ((hnew j).mp hfresh).2 hold
  · intro j
    rw [isReady_enqueueReady]
    change j ∈ m.queue ++ _ ↔ _
    rw [List.mem_append, hnew]
    constructor
    · rintro (hold | ⟨h, -⟩)
      · exact hready j hold
      · exact h
    · intro h
      by_cases hold : j ∈ m.queue
      · exact .inl hold
      · exact .inr ⟨h, hold⟩

/-- Whoever was ready still is, and the others are put behind. -/
theorem of_mono (h : m.Queued) {n : Monitor} (hqueue : n.queue = m.queue)
    (hmono : ∀ j, m.isReady j = true → n.isReady j = true) : n.enqueueReady.Queued := by
  refine enqueueReady (hqueue ▸ h.nodup) fun j hj => ?_
  rw [hqueue] at hj
  exact hmono j ((h.ready j).mp hj)

/-- Nobody's readiness has changed. -/
theorem of_eq (h : m.Queued) (hqueue : m'.queue = m.queue)
    (heq : ∀ j, m'.isReady j = m.isReady j) : m'.Queued := by
  refine ⟨hqueue ▸ h.nodup, fun j => ?_⟩
  rw [hqueue, heq]
  exact h.ready j

theorem run (h : m.Queued) (hw : m.Wired) (hm : m.Lined) (j : Job) : (m.run j).Queued := by
  have hothers : ∀ l ∈ m.queue.erase j, (m.run j).isReady l = true := by
    intro l hl
    obtain ⟨hne, hmem⟩ := h.nodup.mem_erase_iff.mp hl
    exact ready_run hw hm (Ne.symm hne) ((h.ready l).mp hmem)
  cases j with
  | stream i =>
      let n : Monitor := { m with queue := m.queue.erase (.stream i) }
      have hqueue : (n.runStream i).queue = m.queue.erase (.stream i) :=
        n.runStream_elim i (fun _ => rfl) fun _ _ => rfl
      refine enqueueReady (m := n.runStream i) (hqueue ▸ h.nodup.erase _) fun l hl => ?_
      rw [← isReady_enqueueReady]
      exact hothers l (hqueue ▸ hl)
  | observer k =>
      let n : Monitor := { m with queue := m.queue.erase (.observer k) }
      have hqueue : (n.runObserver k).queue = m.queue.erase (.observer k) := by
        obtain ⟨board, observers, hrun, -⟩ := n.exists_runObserver_eq k
        rw [hrun]
      refine enqueueReady (m := n.runObserver k) (hqueue ▸ h.nodup.erase _) fun l hl => ?_
      rw [← isReady_enqueueReady]
      exact hothers l (hqueue ▸ hl)

end Queued

/-- Nothing is taken from a feed by changing it so that what it had to tell stays. -/
theorem news_modifyFeed {r r' : Resource} {q p : Nat} {g : Feed r → Feed r}
    (hg : ∀ f, f.hasNews = true → (g f).hasNews = true) (h : m.news r' p = true) :
    (m.modifyFeed r q g).news r' p = true := by
  by_cases hr : r' = r
  · subst hr
    obtain ⟨f, hf, hnews⟩ := (Option.any_eq_true _ _).mp h
    refine (Option.any_eq_true _ _).mpr ?_
    by_cases hqp : q = p
    · exact ⟨g f, by simp [modifyFeed, hf, hqp], hg f hnews⟩
    · exact ⟨f, by simp [modifyFeed, hf, hqp], hnews⟩
  · simpa [news, modifyFeed, EachResource.get_modify_of_ne _ _ hr] using h

/-- Every task is where it was, unless it was cancelled or aborted. -/
def Retains (m m' : Monitor) : Prop :=
  ∀ (i : Nat) (t : StreamTask), m.tasks[i]? = some t →
    ∃ t', m'.tasks[i]? = some t' ∧ t.Remains t'

theorem Retains.of_append (h : m.Retains m') {n : Monitor} {ts : List StreamTask}
    (htasks : n.tasks = m'.tasks ++ ts) : m.Retains n := by
  intro i t ht
  obtain ⟨t', ht', hremains⟩ := h i t ht
  obtain ⟨hlt, -⟩ := List.getElem?_eq_some_iff.mp ht'
  refine ⟨t', ?_, hremains⟩
  rw [htasks, List.getElem?_append_left hlt, ht']

theorem retains_of_eq (htasks : m'.tasks = m.tasks) : m.Retains m' :=
  fun _ t ht => ⟨t, htasks ▸ ht, t.remains_self⟩

theorem retains_abandonTasks (m : Monitor) : m.Retains m.abandonTasks := by
  intro i t ht
  rw [getElem?_tasks_abandonTasks, ht]
  by_cases hown : i ∈ m.own
  · exact ⟨t.abort, by simp [hown], t.remains_abort⟩
  · exact ⟨t, by simp [hown], t.remains_self⟩

theorem retains_cancel (m : Monitor) (i : Nat) :
    m.Retains { m with tasks := m.tasks.modify i (·.cancel) } := by
  intro j t ht
  by_cases hij : i = j
  · subst hij
    exact ⟨t.cancel, by simp [ht], t.remains_cancel⟩
  · exact ⟨t, by simp [hij, ht], t.remains_self⟩

/-- What somebody has read of a task's log is no mark on the task. -/
theorem retains_readLog {i : Nat} {t : StreamTask} (ht : m.tasks[i]? = some t) :
    m.Retains { m with tasks := m.tasks.set i { t with log := t.log.read.1 } } := by
  intro j u hu
  by_cases hij : i = j
  · subst hij
    obtain rfl := Option.some.inj (ht.symm.trans hu)
    exact ⟨_, List.getElem?_set_self (List.getElem?_eq_some_iff.mp ht).1, rfl, rfl, id, id⟩
  · exact ⟨u, (List.getElem?_set_ne hij).trans hu, u.remains_self⟩

/-- A task that is where it was stays ready as long as its feed's news stay. -/
theorem ready_stream_mono {i : Nat} (htasks : m.Retains m')
    (hnews : ∀ r p, m.news r p = true → m'.news r p = true)
    (hready : m.isReady (.stream i) = true) : m'.isReady (.stream i) = true := by
  obtain ⟨t, ht, hready⟩ := (Option.any_eq_true _ _).mp hready
  obtain ⟨t', ht', hresource, hphase, hcancelled, haborted⟩ := htasks i t ht
  refine (Option.any_eq_true _ _).mpr ⟨t', ht', ?_⟩
  have hended : t'.hasEnded = t.hasEnded := by simp [StreamTask.hasEnded, hphase]
  have hfeed : m.feedHasNews t = true → m'.feedHasNews t' = true := by
    have hplace : t'.feed? = t.feed? := by simp [StreamTask.feed?, hphase]
    rw [feedHasNews_eq, feedHasNews_eq, hplace, hresource]
    cases t.feed? with
    | none => exact id
    | some p => exact hnews t.resource p
  simp only [streamReady, hended, hphase, Bool.and_eq_true, Bool.or_eq_true] at hready ⊢
  refine ⟨hready.1, ?_⟩
  rcases hready.2 with ((h | h) | h) | h
  · exact .inl (.inl (.inl h))
  · exact .inl (.inl (.inr (hcancelled h)))
  · exact .inl (.inr (haborted h))
  · exact .inr (hfeed h)

/-- A feed that is held tells its reader the same after another feed has been offered. -/
theorem news_offer {r r' : Resource} {host : String} {p : Nat} (h : m.reader? r' p = some .held) :
    (m.offer r host).1.news r' p = m.news r' p := by
  by_cases hr : r' = r
  · subst hr
    obtain ⟨f, hf, hreader⟩ := Option.map_eq_some_iff.mp h
    obtain ⟨hlt, -⟩ := List.getElem?_eq_some_iff.mp hf
    have hkept : f.isOffered host = false := by simp [Feed.isOffered, hreader]
    have hsame : ((m.feeds.get r').offer host)[p]? = some f := by
      rw [Feeds.offer, List.getElem?_append_left (by simpa using hlt), List.getElem?_map, hf]
      simp [hkept]
    simp [news, offer, hsame, hf]
  · simp [news, offer, EachResource.get_modify_of_ne _ _ hr]

theorem inbox_listen_ne_nil {b : StatusBoard} {l : Nat} (h : b.inbox l ≠ []) :
    b.listen.1.inbox l ≠ [] := by
  rcases Nat.lt_or_ge l b.listeners.length with hlt | hge
  · have hsame : b.listen.1.listeners[l]? = b.listeners[l]? := List.getElem?_append_left hlt
    rwa [StatusBoard.inbox, hsame]
  · rw [StatusBoard.inbox, List.getElem?_eq_none hge] at h
    exact absurd rfl h

/-- What somebody has read of a task's log does not matter. -/
theorem isReady_readLog {i : Nat} {t : StreamTask} (ht : m.tasks[i]? = some t) (j : Job) :
    ({ m with tasks := m.tasks.set i { t with log := t.log.read.1 } } : Monitor).isReady j =
      m.isReady j := by
  cases j with
  | stream l =>
      simp only [isReady]
      by_cases hil : i = l
      · subst hil
        obtain ⟨hlt, -⟩ := List.getElem?_eq_some_iff.mp ht
        rw [List.getElem?_set_self hlt, ht]
        simp only [Option.any_some, streamReady, feedHasNews_eq]
        rfl
      · rw [List.getElem?_set_ne hil]
        rfl
  | observer k =>
      let n : Monitor := { m with tasks := m.tasks.set i { t with log := t.log.read.1 } }
      have hcore : n.tasks.map StreamTask.core = m.tasks.map StreamTask.core :=
        StreamTask.map_set ht rfl
      have hgone : n.boardGone = m.boardGone := by
        refine Bool.eq_iff_iff.mpr ⟨fun hn => ?_, (Step.readLog ht).boardGone⟩
        exact boardGone_of_map_core hn (boardGone_iff.mp hn).1 hcore.symm
      have hready : ∀ o, n.observerReady o = m.observerReady o := by
        intro o
        simp only [observerReady, hgone, n]
      change (m.observers[k]?).any n.observerReady = (m.observers[k]?).any m.observerReady
      rw [funext hready]

/-- Nor what somebody has read of what an observer has heard. -/
theorem isReady_readHeard {l : Nat} {o : Observer} (ho : m.observers[l]? = some o) (j : Job) :
    ({ m with observers := m.observers.set l { o with heard := o.heard.read.1 } } : Monitor).isReady
      j = m.isReady j := by
  cases j with
  | stream i => rfl
  | observer k =>
      simp only [isReady]
      by_cases hlk : l = k
      · subst hlk
        obtain ⟨hlt, -⟩ := List.getElem?_eq_some_iff.mp ho
        rw [List.getElem?_set_self hlt, ho]
        rfl
      · rw [List.getElem?_set_ne hlk]
        rfl

namespace Queued

/-- New tasks and marks on old ones. -/
theorem of_tasks (h : m.Queued) {n : Monitor} (step : m.Step n.enqueueReady)
    (hqueue : n.queue = m.queue) (hobservers : n.observers = m.observers)
    (hinbox : ∀ l, m.board.inbox l ≠ [] → n.board.inbox l ≠ [])
    (htasks : m.Retains n)
    (hnews : ∀ r p, m.news r p = true → n.news r p = true) : n.enqueueReady.Queued := by
  refine h.of_mono hqueue fun j hj => ?_
  cases j with
  | stream i => exact ready_stream_mono htasks hnews hj
  | observer k =>
      refine ready_observer_mono (fun o ho => ⟨o, hobservers ▸ ho, rfl, rfl, id⟩) hinbox ?_ hj
      exact step.boardGone

theorem observe (h : m.Queued) : m.observe.1.Queued := by
  let n : Monitor := { m with
    board := m.board.listen.1
    observers := m.observers ++ [{ line := m.board.listen.2 }] }
  refine h.of_mono (n := n) rfl fun j hj => ?_
  cases j with
  | stream i => exact hj
  | observer k =>
      refine ready_observer_mono ?_ (fun _ => inbox_listen_ne_nil) (Step.observe m).boardGone hj
      intro o ho
      obtain ⟨hlt, -⟩ := List.getElem?_eq_some_iff.mp ho
      exact ⟨o, (List.getElem?_append_left hlt).trans ho, rfl, rfl, id⟩

theorem unobserve (h : m.Queued) (l : Nat) : (m.unobserve l).Queued := by
  let n : Monitor := { m with
    observers := m.observers.modify l fun o => { o with aborted := true } }
  refine h.of_mono (n := n) rfl fun j hj => ?_
  cases j with
  | stream i => exact hj
  | observer k =>
      refine ready_observer_mono (m := m) ?_ (fun _ h => h) (Step.unobserve m l).boardGone hj
      intro o ho
      by_cases hlk : l = k
      · subst hlk
        exact ⟨{ o with aborted := true }, by simp [n, ho], rfl, rfl, fun _ => rfl⟩
      · exact ⟨o, by simp [n, hlk, ho], rfl, rfl, id⟩

theorem step (h : m.Queued) (hw : m.Wired) (hm : m.Lined) (step : m.Step m') : m'.Queued := by
  have hstep := step
  cases step with
  | refuse | meetRefusal | readRequests => exact h.of_eq rfl fun j => by cases j <;> rfl
  | offer r host =>
      refine h.of_eq rfl fun j => ?_
      cases j with
      | stream i => exact ready_stream_congr rfl fun t p ht hp => news_offer (hw.held i t p ht hp)
      | observer k => rfl
  | send id item =>
      refine h.of_tasks (n := m.modifyFeed id.resource id.place (·.send item)) hstep rfl rfl
        (fun _ h => h) (retains_of_eq rfl) fun r p => news_modifyFeed fun f hf => ?_
      unfold Feed.send
      split
      · exact hf
      · simp [Feed.hasNews]
  | close id =>
      refine h.of_tasks (n := m.modifyFeed id.resource id.place (·.close)) hstep rfl rfl
        (fun _ h => h) (retains_of_eq rfl) fun r p => news_modifyFeed fun f _ => ?_
      simp [Feed.hasNews, Feed.close]
  | @attach g handle =>
      refine h.of_tasks (n := { m.abandonTasks with
          store := m.store.reset g
          board := m.board.begin g handle.isSome
          tasks := m.abandonTasks.tasks ++ Resource.all.map (m.taskFor g handle)
          own := (List.range Resource.all.length).map (m.abandonTasks.tasks.length + ·)
          generation := g
          handle })
        hstep rfl rfl (fun _ hl => StatusBoard.inbox_publish_ne_nil hl _) ?_ fun _ _ => id
      exact m.retains_abandonTasks.of_append rfl
  | drop =>
      exact h.of_tasks (n := { m.abandonTasks with alive := false }) hstep rfl rfl (fun _ h => h)
        m.retains_abandonTasks fun _ _ => id
  | startOver r k =>
      exact h.of_tasks (n := m.spawn (m.clientTask r k)) hstep rfl rfl (fun _ h => h)
        ((retains_of_eq rfl).of_append rfl) fun _ _ => id
  | startDetached r g =>
      exact h.of_tasks (n := m.spawn (.detached r g .log)) hstep rfl rfl (fun _ h => h)
        ((retains_of_eq rfl).of_append rfl) fun _ _ => id
  | cancel l =>
      exact h.of_tasks (n := { m with tasks := m.tasks.modify l (·.cancel) }) hstep rfl rfl
        (fun _ h => h) (m.retains_cancel l) fun _ _ => id
  | readLog ht => exact h.of_eq rfl (isReady_readLog ht)
  | observe => exact h.observe
  | unobserve l => exact h.unobserve l
  | readHeard ho => exact h.of_eq rfl (isReady_readHeard ho)
  | run j => exact h.run hw hm j

theorem leads (h : m.Queued) (hw : m.Wired) (hm : m.Lined) (hleads : m.Leads m') :
    m'.Queued := by
  induction hleads with
  | refl => exact h
  | tail hn step ih => exact ih.step (hw.leads hn) (hm.leads hn) step

end Queued

/-! ### Settling -/

/-- Whoever comes first is ready. -/
theorem Queued.isReady_head (h : m.Queued) {j : Job} {rest : List Job}
    (hqueue : m.queue = j :: rest) : m.isReady j = true := by
  apply (h.ready j).mp
  rw [hqueue]
  exact List.mem_cons_self

theorem schedule_jobsWithin (h : m.Queued) (hw : m.Wired) (hm : m.Lined) (runs : Nat) :
    m.Schedule (m.jobsWithin runs) := by
  induction runs generalizing m with
  | zero => trivial
  | succ runs ih =>
      unfold jobsWithin
      split
      · trivial
      · next j rest hqueue =>
          have hready := h.isReady_head hqueue
          have hstep : m.Step (m.run j) := .run m j
          exact ⟨hready, ih (h.run hw hm j) (hw.step hstep) (hm.step hstep)⟩

/-- Once the queue is empty nobody is ready. -/
theorem Queued.isSettled (h : m.Queued) (hqueue : m.queue = []) : m.isSettled = true := by
  refine isSettled_iff.mpr fun j => ?_
  cases hready : m.isReady j with
  | false => rfl
  | true =>
      have hmem := (h.ready j).mpr hready
      rw [hqueue] at hmem
      cases hmem

theorem isSettled_settleWithin (h : m.Queued) (hw : m.Wired) (hm : m.Lined) {runs : Nat}
    (hruns : m.potential ≤ runs) : (m.settleWithin runs).isSettled = true := by
  induction runs generalizing m with
  | zero =>
      -- Whoever is ready could still be run.
      refine isSettled_iff.mpr fun j => ?_
      cases hready : m.isReady j with
      | false => exact hready
      | true =>
          have hlt := potential_run_lt hw hm hready
          omega
  | succ runs ih =>
      unfold settleWithin
      split
      · next hqueue => exact h.isSettled hqueue
      · next j rest hqueue =>
          have hready := h.isReady_head hqueue
          have hstep : m.Step (m.run j) := .run m j
          have hlt := potential_run_lt hw hm hready
          exact ih (h.run hw hm j) (hw.step hstep) (hm.step hstep) (by omega)

theorem settleWithin_of_queue (hqueue : m.queue = []) (runs : Nat) : m.settleWithin runs = m := by
  cases runs <;> simp [settleWithin, hqueue]

theorem settleWithin_add (m : Monitor) (first later : Nat) :
    m.settleWithin (first + later) = (m.settleWithin first).settleWithin later := by
  induction first generalizing m with
  | zero => rw [Nat.zero_add, settleWithin]
  | succ first ih =>
      rw [Nat.succ_add]
      cases hqueue : m.queue with
      | nil => rw [settleWithin_of_queue hqueue, settleWithin_of_queue hqueue,
          settleWithin_of_queue hqueue]
      | cons j rest =>
          simp only [settleWithin, hqueue]
          exact ih (m.run j)

/-! ### Reachable monitors -/

/-- A monitor to which nothing has happened but steps. -/
def Reachable (m : Monitor) : Prop := ∃ rate, (initial rate).Leads m

namespace Reachable

theorem step (h : m.Reachable) (step : m.Step m') : m'.Reachable := by
  obtain ⟨rate, hm⟩ := h
  exact ⟨rate, hm.tail step⟩

theorem run (h : m.Reachable) (j : Job) : (m.run j).Reachable := h.step (.run m j)

theorem runAll (h : m.Reachable) (js : List Job) : (m.runAll js).Reachable := by
  obtain ⟨rate, hm⟩ := h
  exact ⟨rate, hm.trans (m.leads_runAll js)⟩

theorem wired (h : m.Reachable) : m.Wired := by
  obtain ⟨rate, hm⟩ := h
  exact (Wired.initial rate).leads hm

theorem exact (h : m.Reachable) : m.Exact := by
  obtain ⟨rate, hm⟩ := h
  exact (Exact.initial rate).leads hm

theorem retired (h : m.Reachable) : m.Retired := by
  obtain ⟨rate, hm⟩ := h
  exact (Retired.initial rate).leads (.initial rate) hm

theorem attentive (h : m.Reachable) : m.Attentive := by
  obtain ⟨rate, hm⟩ := h
  exact (Attentive.initial rate).leads hm

theorem queued (h : m.Reachable) : m.Queued := by
  obtain ⟨rate, hm⟩ := h
  exact (Queued.initial rate).leads (.initial rate) (.initial rate) hm

theorem settle (h : m.Reachable) : m.settle.Reachable := by
  obtain ⟨rate, hm⟩ := h
  exact ⟨rate, hm.trans (m.leads_settleWithin _)⟩

/-- Nobody is ready after `settle`. -/
theorem isSettled_settle (h : m.Reachable) : m.settle.isSettled = true :=
  isSettled_settleWithin h.queued h.wired h.attentive.lined
    (Nat.le_of_lt m.potential_lt_settleBound)

theorem queue_settle (h : m.Reachable) : m.settle.queue = [] := by
  have hsettled := isSettled_iff.mp h.isSettled_settle
  have hqueued : m.settle.Queued := h.settle.queued
  rw [List.eq_nil_iff_forall_not_mem]
  intro j hj
  rw [hqueued.ready, hsettled] at hj
  cases hj

/-- Once nobody is ready, it does not matter how many runs more there could be. -/
theorem settleWithin_eq_settle (h : m.Reachable) {runs : Nat}
    (hqueue : (m.settleWithin runs).queue = []) : m.settleWithin runs = m.settle := by
  rcases Nat.le_total runs m.settleBound with hle | hle
  · obtain ⟨more, hmore⟩ := Nat.exists_eq_add_of_le hle
    rw [Monitor.settle, hmore, settleWithin_add, settleWithin_of_queue hqueue]
  · obtain ⟨more, rfl⟩ := Nat.exists_eq_add_of_le hle
    have hsettled : (m.settleWithin m.settleBound).queue = [] := h.queue_settle
    rw [Monitor.settle, settleWithin_add, settleWithin_of_queue hsettled]

end Reachable

end Monitor

end BrokerMonitor
