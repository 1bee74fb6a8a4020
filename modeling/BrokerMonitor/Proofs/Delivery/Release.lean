import BrokerMonitor.Proofs.Connect.Failed
import BrokerMonitor.Proofs.Connect.Requests
import BrokerMonitor.Proofs.Delivery.EndToEnd
import BrokerMonitor.Proofs.Delivery.Tenancy
import BrokerMonitor.Proofs.Outside
/-!
# Every stream is released

When everything has settled, the feeds that are held are those of the current tasks that have taken
nothing but messages. A task of an earlier generation was aborted, and so it was run and has let go
of its feed, whatever was still waiting there. A task that was aborted before it has started is
barred: it never opens a feed.
-/

namespace BrokerMonitor

namespace Monitor

variable {m m' : Monitor} {i : Nat} {t : StreamTask} {id : FeedId} {openers : List Nat}
  {taken : List (StreamEvent id.resource)}

/-- The feed's receiver is there: a task holds the feed. -/
def IsOpen (m : Monitor) (id : FeedId) : Prop := m.reader? id.resource id.place = some .held

/-- The feed's receiver is gone. -/
def IsLeft (m : Monitor) (id : FeedId) : Prop := m.reader? id.resource id.place = some .released

/-- The task is of the generation that is attached to a connection. -/
def IsAttached (m : Monitor) (t : StreamTask) : Prop :=
  m.alive = true ∧ m.handle.isSome = true ∧ t.generation = m.generation

namespace Tenancy

/-- A feed that was opened is open still, or it was left. -/
theorem isOpen_or_isLeft (h : m.Tenancy id openers taken) (hi : i ∈ openers) :
    m.IsOpen id ∨ m.IsLeft id := by
  have hopened : ¬ m.Unopened id := by
    intro hunopened
    rw [(h.unopened hunopened).1] at hi
    cases hi
  rw [Unopened, not_or] at hopened
  cases hreader : m.reader? id.resource id.place with
  | none => exact absurd hreader hopened.1
  | some reader =>
      cases reader with
      | offered => exact absurd hreader hopened.2
      | held => exact .inl hreader
      | released => exact .inr hreader

theorem eq_singleton (h : m.Tenancy id openers taken) (hi : i ∈ openers) : openers = [i] := by
  rcases h.isOpen_or_isLeft hi with hheld | hreleased
  · obtain ⟨k, u, hopeners, -⟩ := h.held hheld
    rw [hopeners] at hi ⊢
    rw [List.mem_singleton.mp hi]
  · have hone := (h.released hreleased).1
    obtain ⟨k, rfl⟩ := List.length_eq_one_iff.mp
      (Nat.le_antisymm hone (List.length_pos_of_mem hi))
    rw [List.mem_singleton.mp hi]

/-- Whoever has opened a feed is there. -/
theorem exists_opener (h : m.Tenancy id openers taken) (hi : i ∈ openers) :
    ∃ t, m.tasks[i]? = some t ∧ t.resource = id.resource ∧ t.phase ≠ .spawned := by
  rcases h.isOpen_or_isLeft hi with hheld | hreleased
  · obtain ⟨k, u, rfl, hu, hresource, hfeed, -⟩ := h.held hheld
    obtain rfl := List.mem_singleton.mp hi
    refine ⟨u, hu, hresource, ?_⟩
    rw [feed?_eq_some_iff.mp hfeed]
    exact nofun
  · obtain ⟨u, hu, hresource, hended, -⟩ := (h.released hreleased).2 i hi
    refine ⟨u, hu, hresource, fun hspawned => ?_⟩
    rw [StreamTask.hasEnded_of_spawned hspawned] at hended
    cases hended

/-- When nobody is ready, the tenant of a feed is a current task. -/
theorem exists_tenant (h : m.Tenancy id openers taken) (hm : m.Clientless) (hstaffed : m.Staffed)
    (hsettled : ∀ j, m.isReady j = false) (hopen : m.IsOpen id) :
    ∃ i t, openers = [i] ∧ m.tasks[i]? = some t ∧ t.resource = id.resource ∧
      t.feed? = some id.place ∧ m.Heeds t ∧ m.IsAttached t := by
  obtain ⟨i, t, hopeners, ht, hresource, hfeed, -⟩ := h.held hopen
  have hended := StreamTask.hasEnded_of_reading (feed?_eq_some_iff.mp hfeed)
  have haborted : t.aborted = false := by
    by_contra hnot
    have haborted : t.aborted = true := by simpa using hnot
    have hready : m.isReady (.stream i) = true := by
      simp [isReady, ht, streamReady, hended, haborted]
    rw [hsettled] at hready
    cases hready
  have hheeds := hm.heeds ht haborted
  have hshown := hm.reachable.exact.shown i t ht hheeds
  refine ⟨i, t, hopeners, ht, hresource, hfeed, hheeds, ?_, ?_, hheeds.2⟩
  · by_contra dropped
    rw [hstaffed.dismissed (by simpa using dropped) t (List.mem_of_getElem? ht) hheeds.1]
      at haborted
    cases haborted
  · rw [← hshown.target]
    by_contra hdetached
    rw [hshown.unfed (by simpa using hdetached)] at hfeed
    cases hfeed

/-- When nobody is ready, a feed is open exactly if the task that has opened it is attached and has
taken nothing but messages. -/
theorem isOpen_iff (h : m.Tenancy id openers taken) (hm : m.Clientless) (hstaffed : m.Staffed)
    (hsettled : ∀ j, m.isReady j = false) (hi : i ∈ openers) (ht : m.tasks[i]? = some t) :
    m.IsOpen id ↔ m.IsAttached t ∧ ∀ e ∈ taken, e.isMessage = true := by
  constructor
  · intro hopen
    obtain ⟨k, u, hopeners, hu, -, -, -, hattached⟩ := h.exists_tenant hm hstaffed hsettled hopen
    rw [hopeners] at hi
    obtain rfl := List.mem_singleton.mp hi
    obtain rfl := Option.some.inj (ht.symm.trans hu)
    obtain ⟨-, -, -, -, -, -, hall⟩ := h.held hopen
    exact ⟨hattached, hall⟩
  · rintro ⟨⟨alive, -, hcurrent⟩, hall⟩
    rcases h.isOpen_or_isLeft hi with hopen | hleft
    · exact hopen
    · -- An attached task was not aborted, so it has left on a failure or the end.
      obtain ⟨u, hu, -, -, hstop⟩ := (h.released hleft).2 i hi
      obtain rfl := Option.some.inj (ht.symm.trans hu)
      have haborted := hm.reachable.retired.kept alive i t ht
        (hm.solo t (List.mem_of_getElem? ht)) hcurrent
      obtain ⟨e, he, hnot⟩ := hstop haborted
      rw [hall e he] at hnot
      cases hnot

/-- When nobody is ready, no two feeds of one resource are open. -/
theorem eq_of_isOpen (h : m.Tenancy id openers taken) {other : FeedId} {openers' : List Nat}
    {taken' : List (StreamEvent other.resource)} (h' : m.Tenancy other openers' taken')
    (hm : m.Clientless) (hstaffed : m.Staffed) (hsettled : ∀ j, m.isReady j = false)
    (hopen : m.IsOpen id) (hopen' : m.IsOpen other) (hresource : id.resource = other.resource) :
    id = other := by
  obtain ⟨i, t, -, ht, hr, hplace, hheeds, -⟩ := h.exists_tenant hm hstaffed hsettled hopen
  obtain ⟨j, u, -, hu, hr', hplace', hheeds', -⟩ := h'.exists_tenant hm hstaffed hsettled hopen'
  have hsame : t.resource = u.resource := hr.trans (hresource.trans hr'.symm)
  obtain rfl := hm.reachable.exact.single i j t u ht hu hheeds hheeds' hsame
  obtain rfl := Option.some.inj (ht.symm.trans hu)
  have hplaces : id.place = other.place := Option.some.inj (hplace.symm.trans hplace')
  obtain ⟨r, p⟩ := id
  obtain ⟨r', p'⟩ := other
  exact congrArg₂ FeedId.mk hresource hplaces

end Tenancy

/-! ### Barred tasks -/

/-- The task at a place was aborted, and it holds no feed. -/
def Barred (m : Monitor) (i : Nat) : Prop :=
  ∃ t, m.tasks[i]? = some t ∧ t.aborted = true ∧ t.feed? = none

namespace Barred

theorem outside (h : m.Barred i) (htasks : m.Retains m') : m'.Barred i := by
  obtain ⟨t, ht, haborted, hfeed⟩ := h
  obtain ⟨t', ht', hremains⟩ := htasks i t ht
  refine ⟨t', ht', hremains.aborted haborted, ?_⟩
  rw [StreamTask.feed?, hremains.phase]
  exact hfeed

/-- Nobody's run lets it open a feed. -/
theorem runStream (h : m.Barred i) (k : Nat) : (m.runStream k).Barred i := by
  obtain ⟨t, ht, haborted, hfeed⟩ := h
  refine m.runStream_elim k (fun _ => ⟨t, ht, haborted, hfeed⟩) fun u hu => ?_
  by_cases hki : k = i
  · subst hki
    obtain rfl := Option.some.inj (ht.symm.trans hu)
    refine ⟨_, getElem?_tasks_progress ht _, haborted, ?_⟩
    show (StreamTask.progress t _ _ (m.turn t).phase).feed? = none
    cases hended : t.hasEnded with
    | true =>
        rw [turn_of_hasEnded m hended]
        exact hfeed
    | false =>
        rw [turn_of_aborted m hended haborted]
        rfl
  · exact ⟨t, (List.getElem?_set_ne hki).trans ht, haborted, hfeed⟩

theorem run (h : m.Barred i) (j : Job) : (m.run j).Barred i := by
  cases j with
  | stream k =>
      obtain ⟨queue, hrun⟩ := m.exists_run_stream_eq k
      rw [hrun]
      exact h.runStream k
  | observer k =>
      obtain ⟨board, observers, queue, hrun, -⟩ := m.exists_run_observer_eq k
      rw [hrun]
      exact h

theorem not_mem_openers (h : m.Barred i) (id : FeedId) (j : Job) : i ∉ m.openers id j := by
  obtain ⟨t, ht, haborted, -⟩ := h
  cases j with
  | observer k => exact List.not_mem_nil
  | stream k =>
      simp only [openers]
      split
      · next hany =>
          intro hi
          obtain rfl := List.mem_singleton.mp hi
          simp [ht, opens, StreamTask.starts, haborted] at hany
      · exact List.not_mem_nil

theorem runAll (h : m.Barred i) (id : FeedId) (js : List Job) :
    (m.runAll js).Barred i ∧ i ∉ m.openersAll id js := by
  induction js generalizing m with
  | nil => exact ⟨h, List.not_mem_nil⟩
  | cons j js ih =>
      obtain ⟨hbarred, hnot⟩ := ih (h.run j)
      refine ⟨hbarred, fun hi => ?_⟩
      rcases List.mem_append.mp hi with hfirst | hlater
      · exact h.not_mem_openers id j hfirst
      · exact hnot hlater

/-- Its own run leaves all feeds as they are. -/
theorem feeds_run (h : m.Barred i) : (m.run (.stream i)).feeds = m.feeds := by
  obtain ⟨t, ht, haborted, hfeed⟩ := h
  obtain ⟨queue, hrun⟩ := m.exists_run_stream_eq i
  have hreach : m.reach t = none := (m.reach_of_aborted haborted).trans hfeed
  rw [hrun, runStream_eq_turn ht, hreach]
  show m.feeds.modify t.resource (Feeds.alter · none (m.turn t).feed) = m.feeds
  exact m.feeds.modify_eq_self t.resource (Feeds.alter_none _ _)

end Barred

/-- A task that is superseded before it has started is barred. -/
theorem barred_of_superseded (hm : m.Clientless) (hstaffed : m.Staffed) (ht : m.tasks[i]? = some t)
    (hspawned : t.phase = .spawned)
    (hold : ¬ (m.alive = true ∧ t.generation = m.generation)) : m.Barred i := by
  have haudience := hm.solo t (List.mem_of_getElem? ht)
  refine ⟨t, ht, ?_, by rw [StreamTask.feed?, hspawned]⟩
  by_contra haborted
  refine hold ⟨?_, (hm.heeds ht (by simpa using haborted)).2⟩
  by_contra dropped
  exact haborted (hstaffed.dismissed (by simpa using dropped) t (List.mem_of_getElem? ht) haudience)

/-! ### What happens to readers from outside -/

theorem KeepsReader.trans_eq (h : m.KeepsReader m' id) {n : Monitor}
    (hsame : n.reader? id.resource id.place = m'.reader? id.resource id.place) :
    m.KeepsReader n id := by
  rcases h with heq | ⟨hbefore, hafter⟩
  · exact .inl (hsame.trans heq)
  · exact .inr ⟨hbefore, hsame ▸ hafter⟩

theorem reader?_close (m : Monitor) (id other : FeedId) :
    (m.close other).reader? id.resource id.place = m.reader? id.resource id.place :=
  m.reader?_modifyFeed id other fun _ => rfl

end Monitor

namespace Session

/-- What is taken from the feed `id` in a run of actions. -/
def taken (s : Session) (id : FeedId) : List Action → List (StreamEvent id.resource)
  | [] => []
  | a :: rest => s.monitor.takesAll id (s.jobs a) ++ (s.act a).1.taken id rest

variable {s : Session} {id : FeedId} {openers : List Nat} {taken : List (StreamEvent id.resource)}

/-- What the broker does leaves the readers as they are, but for those it has offered to. -/
theorem keepsReader_actBroker (s : Session) (a : BrokerAction) (id : FeedId) :
    s.monitor.KeepsReader (s.actBroker a).1.monitor id := by
  cases a with
  | offer name host r =>
      have hoffered := s.monitor.keepsReader_offer r host id
      simp only [actBroker, offer]
      split
      · exact hoffered.trans_eq (Monitor.reader?_close _ id _)
      · exact hoffered
  | send name r message =>
      simp only [actBroker]
      refine s.withNamed_elim s.feeds name _ (.inl rfl) fun other _ => ?_
      split
      · exact .inl (s.monitor.reader?_modifyFeed id other fun f => f.reader_send _)
      · exact .inl rfl
  | fail name e =>
      simp only [actBroker]
      refine s.withNamed_elim s.feeds name _ (.inl rfl) fun other _ => .inl ?_
      exact s.monitor.reader?_modifyFeed id other fun f => f.reader_send _
  | close name =>
      simp only [actBroker]
      split
      · exact .inl (s.monitor.reader?_close id _)
      · exact .inl rfl
  | isAbandoned name =>
      simp only [actBroker]
      exact s.withNamed_elim s.feeds name _ (.inl rfl) fun _ _ => .inl rfl
  | refuse e | requests => exact .inl rfl

/-- Without clients, an action that runs no task keeps the tasks where they are and leaves the
readers to them. -/
theorem retains_act (s : Session) {a : Action} (ha : a.runsTasks = false)
    (hclient : ∀ c, a ≠ .client c) (id : FeedId) :
    s.monitor.Retains (s.act a).1.monitor ∧ s.monitor.KeepsReader (s.act a).1.monitor id := by
  cases a with
  | broker a =>
      refine ⟨?_, s.keepsReader_actBroker a id⟩
      obtain ⟨_, _, _, _, _, hact⟩ := s.exists_actBroker_eq a
      rw [act, hact]
      exact Monitor.retains_of_eq rfl
  | connection a =>
      refine s.actConnection_elim a (fun _ _ => ?_) (fun _ _ _ _ _ _ => ?_) fun _ => ?_
      · exact ⟨Monitor.retains_of_eq rfl, .inl rfl⟩
      · exact ⟨s.monitor.retains_abandonTasks.of_append rfl, .inl rfl⟩
      · exact ⟨s.monitor.retains_abandonTasks, .inl rfl⟩
  | subscriber a =>
      obtain ⟨_, _, _, _, _, _, hact⟩ := s.exists_actSubscriber_eq a
      rw [act, hact]
      exact ⟨Monitor.retains_of_eq rfl, .inl rfl⟩
  | client c => exact absurd rfl (hclient c)
  | run | settle => cases ha

/-- Every action keeps the tenancy. -/
theorem tenancy_act (h : s.monitor.Tenancy id openers taken) (hm : s.monitor.Clientless)
    {a : Action} (ha : ∀ c, a ≠ .client c) :
    (s.act a).1.monitor.Tenancy id (openers ++ s.monitor.openersAll id (s.jobs a))
      (taken ++ s.monitor.takesAll id (s.jobs a)) := by
  cases hruns : a.runsTasks with
  | true =>
      rw [act_of_runsTasks s hruns]
      exact h.runAll hm _
  | false =>
      obtain ⟨htasks, hreader⟩ := s.retains_act hruns ha id
      rw [s.jobs_eq_nil hruns, Monitor.openersAll, Monitor.takesAll, List.append_nil,
        List.append_nil]
      exact h.outside htasks hreader

theorem tenancy_actAll (h : s.monitor.Tenancy id openers taken) (hm : s.monitor.Clientless)
    {run : List Action} (hrun : ∀ a ∈ run, ∀ c, a ≠ .client c) :
    (s.actAll run).monitor.Tenancy id (openers ++ s.openers id run) (taken ++ s.taken id run) := by
  induction run generalizing s openers taken with
  | nil => simpa [Session.openers, Session.taken, actAll] using h
  | cons a rest ih =>
      obtain ⟨ha, hrest⟩ := List.forall_mem_cons.mp hrun
      have hlater := ih (tenancy_act h hm ha) (clientless_act hm ha) hrest
      rw [List.append_assoc, List.append_assoc] at hlater
      exact hlater

/-- A task that is barred stays so, and opens no feed. -/
theorem barred_actAll {i : Nat} (h : s.monitor.Barred i) {run : List Action}
    (hrun : ∀ a ∈ run, ∀ c, a ≠ .client c) (id : FeedId) :
    (s.actAll run).monitor.Barred i ∧ i ∉ s.openers id run := by
  induction run generalizing s with
  | nil => exact ⟨h, List.not_mem_nil⟩
  | cons a rest ih =>
      obtain ⟨ha, hrest⟩ := List.forall_mem_cons.mp hrun
      have hnext : (s.act a).1.monitor.Barred i ∧ i ∉ s.monitor.openersAll id (s.jobs a) := by
        cases hruns : a.runsTasks with
        | true =>
            rw [act_of_runsTasks s hruns]
            exact h.runAll id _
        | false =>
            rw [s.jobs_eq_nil hruns]
            exact ⟨h.outside (s.retains_act hruns ha id).1, List.not_mem_nil⟩
      obtain ⟨hbarred, hnot⟩ := ih hnext.1 hrest
      exact ⟨hbarred, List.not_mem_append hnext.2 hnot⟩

/-! ### After the last settling -/

/-- After a settling in a run without clients nobody is ready, and every feed's tenancy is in order.
-/
theorem settled_of_run {rate : Option UInt32} {run : List Action}
    (hrun : ∀ a ∈ run, ∀ c, a ≠ .client c) :
    let m := ((start rate).actAll (run ++ [.settle])).monitor
    m.Clientless ∧ m.Staffed ∧ (∀ j, m.isReady j = false) ∧
      ∀ id, m.Tenancy id ((start rate).openers id (run ++ [.settle]))
        ((start rate).taken id (run ++ [.settle])) := by
  intro m
  have hrun' : ∀ a ∈ run ++ [.settle], ∀ c, a ≠ .client c :=
    List.forall_mem_append.mpr ⟨hrun, by simp⟩
  have haudited := (Audited.start rate).actAll hrun'
  refine ⟨haudited.clientless, haudited.staffed, ?_, fun id => ?_⟩
  · have hbefore := ((Audited.start rate).actAll hrun).clientless
    have hsettle : m = ((start rate).actAll run).monitor.settle :=
      congrArg Session.monitor (actAll_append _ run [.settle])
    rw [hsettle]
    exact Monitor.isSettled_iff.mp hbefore.reachable.isSettled_settle
  · exact tenancy_actAll (Monitor.Tenancy.initial rate id) (clientless_start rate) hrun'

/-- Nothing is open when nothing is attached. -/
theorem not_isOpen_of_detached {rate : Option UInt32} {run : List Action}
    (hrun : ∀ a ∈ run, ∀ c, a ≠ .client c) :
    let m := ((start rate).actAll (run ++ [.settle])).monitor
    m.alive = false ∨ m.handle = none → ∀ id, ¬ m.IsOpen id := by
  intro m hdetached id hopen
  obtain ⟨hm, hstaffed, hsettled, htenancy⟩ := settled_of_run hrun
  obtain ⟨-, -, -, -, -, -, -, alive, hattached, -⟩ :=
    (htenancy id).exists_tenant hm hstaffed hsettled hopen
  rcases hdetached with dropped | hnone
  · rw [dropped] at alive
    cases alive
  · rw [hnone] at hattached
    cases hattached

/-- A shutdown or a drop lets go of the connection. -/
theorem detached_actConnection (s : Session) {a : ConnectionAction} (ha : a = .shutdown ∨ a = .drop)
    (hdone : (s.actConnection a).2 ≠ .exhausted) :
    (s.actConnection a).1.monitor.alive = false ∨ (s.actConnection a).1.monitor.handle = none := by
  by_cases alive : s.monitor.alive = true
  · rcases ha with rfl | rfl
    · cases hg : s.monitor.generation.next? with
      | none => simp [actConnection, Monitor.shutdown?, alive, hg] at hdone
      | some g =>
          refine .inr ?_
          simp only [actConnection, Monitor.shutdown?, if_pos alive, hg, Option.map_some]
          rfl
    · refine .inl ?_
      rw [actConnection, if_pos alive]
      rfl
  · refine .inl ?_
    rcases ha with rfl | rfl <;> simp [actConnection, alive]

/-- So nothing is open after a shutdown or a drop, once that has settled. -/
theorem not_isOpen_of_letting_go {rate : Option UInt32} {run : List Action}
    (hrun : ∀ a ∈ run, ∀ c, a ≠ .client c) {a : ConnectionAction} (ha : a = .shutdown ∨ a = .drop)
    (hdone : (((start rate).actAll run).act (.connection a)).2 ≠ .exhausted) (id : FeedId) :
    ¬ ((start rate).actAll (run ++ [.connection a, .settle])).monitor.IsOpen id := by
  let s := (start rate).actAll run
  let s' := (s.act (.connection a)).1
  have hsplit : run ++ [.connection a, .settle] = (run ++ [.connection a]) ++ [.settle] := by simp
  have hrun' : ∀ b ∈ run ++ [.connection a], ∀ c, b ≠ .client c :=
    List.forall_mem_append.mpr ⟨hrun, by simp⟩
  have hlast : (start rate).actAll ((run ++ [.connection a]) ++ [.settle]) =
      (s'.act .settle).1 := by
    rw [actAll_append, actAll_append]
    rfl
  rw [hsplit]
  apply not_isOpen_of_detached hrun'
  rw [hlast]
  -- The settling attaches nothing.
  rcases detached_actConnection s ha hdone with dropped | hnone
  · refine .inl ?_
    by_contra hnot
    have alive : s'.monitor.alive = true :=
      Monitor.alive_of_leads (s'.monitor_leads_act .settle) (by simpa using hnot)
    exact absurd (alive.symm.trans dropped) nofun
  · refine .inr ?_
    have hepoch : s'.monitor.settle.epoch = s'.monitor.epoch := Monitor.epoch_settleWithin _ _
    exact (congrArg Prod.snd hepoch).trans hnone

/-- A task that was superseded before its first run opens no feed, and its run leaves them all as
they are. -/
theorem superseded_opens_nothing {rate : Option UInt32} {before later : List Action}
    (hbefore : ∀ a ∈ before, ∀ c, a ≠ .client c) (hlater : ∀ a ∈ later, ∀ c, a ≠ .client c)
    {i : Nat} {t : StreamTask} (ht : ((start rate).actAll before).monitor.tasks[i]? = some t)
    (hspawned : t.phase = .spawned)
    (hold : ¬ (((start rate).actAll before).monitor.alive = true ∧
      t.generation = ((start rate).actAll before).monitor.generation)) :
    (∀ id, i ∉ (start rate).openers id ((before ++ later) ++ [.settle])) ∧
      (((start rate).actAll (before ++ later)).monitor.run (.stream i)).feeds =
        ((start rate).actAll (before ++ later)).monitor.feeds := by
  have haudited := (Audited.start rate).actAll hbefore
  have hbarred := Monitor.barred_of_superseded haudited.clientless haudited.staffed ht hspawned hold
  constructor
  · intro id
    have hrest : ∀ a ∈ later ++ [.settle], ∀ c, a ≠ .client c :=
      List.forall_mem_append.mpr ⟨hlater, by simp⟩
    rw [List.append_assoc, openers_append]
    refine List.not_mem_append (fun hi => ?_) (barred_actAll hbarred hrest id).2
    -- Whoever has opened a feed has started.
    have htenancy := tenancy_actAll (Monitor.Tenancy.initial rate id) (clientless_start rate)
      hbefore
    obtain ⟨u, hu, -, hstarted⟩ := htenancy.exists_opener hi
    obtain rfl := Option.some.inj (ht.symm.trans hu)
    exact hstarted hspawned
  · rw [actAll_append]
    exact (barred_actAll hbarred hlater ⟨.channels, 0⟩).1.feeds_run

/-- Streams are not leaked. Take any run of a session without clients, of any actions in any order,
that ends with a settling. Each feed that was ever opened was opened by one task, and its receiver
is there exactly if this task is of the generation that is attached now, and has taken neither a
failure nor the end; else the receiver is gone, whatever was waiting in the feed. Receivers are
there only of feeds that were opened, and for each resource there is one at most, and none when
nothing is attached, so that nothing stays open after a shutdown or a drop.

A task that was superseded before its first run never opens a feed: whenever it is run, the feeds
are left as they are, for a later generation. -/
theorem no_stream_leaks {rate : Option UInt32} {run : List Action}
    (hrun : ∀ a ∈ run, ∀ c, a ≠ .client c) :
    let settled := run ++ [.settle]
    let m := ((start rate).actAll settled).monitor
    let openers := fun id => (start rate).openers id settled
    let taken := fun id => (start rate).taken id settled
    (∀ id, ∀ i ∈ openers id, ∃ t, m.tasks[i]? = some t ∧ t.resource = id.resource ∧
      openers id = [i] ∧ (m.IsOpen id ∨ m.IsLeft id) ∧
      (m.IsOpen id ↔ m.IsAttached t ∧ ∀ e ∈ taken id, e.isMessage = true)) ∧
    (∀ id, m.IsOpen id → openers id ≠ []) ∧
    (∀ id other, m.IsOpen id → m.IsOpen other → id.resource = other.resource → id = other) ∧
    (m.alive = false ∨ m.handle = none → ∀ id, ¬ m.IsOpen id) ∧
    (∀ a, a = .shutdown ∨ a = .drop →
      (((start rate).actAll run).act (.connection a)).2 ≠ .exhausted →
      ∀ id, ¬ ((start rate).actAll (run ++ [.connection a, .settle])).monitor.IsOpen id) ∧
    ∀ before later, run = before ++ later → ∀ i t,
      ((start rate).actAll before).monitor.tasks[i]? = some t → t.phase = .spawned →
      ¬ (((start rate).actAll before).monitor.alive = true ∧
        t.generation = ((start rate).actAll before).monitor.generation) →
      (∀ id, i ∉ openers id) ∧
      (((start rate).actAll run).monitor.run (.stream i)).feeds =
        ((start rate).actAll run).monitor.feeds := by
  intro settled m openers taken
  obtain ⟨hm, hstaffed, hsettled, htenancy⟩ := settled_of_run hrun
  refine ⟨?_, ?_, ?_, not_isOpen_of_detached hrun, ?_, ?_⟩
  · intro id i hi
    obtain ⟨t, ht, hresource, -⟩ := (htenancy id).exists_opener hi
    exact ⟨t, ht, hresource, (htenancy id).eq_singleton hi, (htenancy id).isOpen_or_isLeft hi,
      (htenancy id).isOpen_iff hm hstaffed hsettled hi ht⟩
  · intro id hopen hnobody
    obtain ⟨i, -, hopener, -⟩ := (htenancy id).held hopen
    have hone : openers id = [i] := hopener
    rw [hnobody] at hone
    cases hone
  · intro id other hopen hother hresource
    exact (htenancy id).eq_of_isOpen (htenancy other) hm hstaffed hsettled hopen hother hresource
  · exact fun a ha hdone => not_isOpen_of_letting_go hrun ha hdone
  · rintro before later rfl i t ht hspawned hold
    obtain ⟨hbefore, hlater⟩ := List.forall_mem_append.mp hrun
    exact superseded_opens_nothing hbefore hlater ht hspawned hold

/-- The first connect leaves its feed with a message in it. The second is superseded before its
tasks have run, and the feed that was offered in the meantime is opened by the third, until that is
shut down. -/
theorem no_stream_leaks_over_three_connects :
    let run : List Action := [
      .broker (.offer "first" "[::1]" .channels),
      .connection (.connect "a" "http://[::1]"), .settle,
      .broker (.send "first" .channels []), .broker (.offer "second" "[::1]" .channels),
      .connection (.connect "b" "http://[::1]"), .connection (.connect "c" "http://[::1]")]
    let settled := (start none).actAll (run ++ [.settle])
    settled.monitor.IsLeft ⟨.channels, 0⟩ ∧
    settled.monitor.IsOpen ⟨.channels, 1⟩ ∧
    (start none).openers ⟨.channels, 1⟩ (run ++ [.settle]) = [4] ∧
    2 ∉ (start none).openers ⟨.channels, 1⟩ (run ++ [.settle]) ∧
    ¬ ((start none).actAll (run ++ [.connection .shutdown, .settle])).monitor.IsOpen
      ⟨.channels, 1⟩ := by
  intro run settled
  obtain ⟨hopened, -, -, -, hdown, hsuperseded⟩ := @no_stream_leaks none run (by simp [run])
  obtain ⟨t, ht, -, -, hcases, hiff⟩ := hopened ⟨.channels, 0⟩ 0 (by decide +kernel)
  obtain ⟨u, hu, -, hone, -, hiff'⟩ := hopened ⟨.channels, 1⟩ 4 (by decide +kernel)
  have hold : (settled.monitor.tasks[0]?).all (·.generation != settled.monitor.generation) := by
    decide +kernel
  have hcurrent : (settled.monitor.tasks[4]?).all
      (·.generation == settled.monitor.generation) := by
    decide +kernel
  have hnever : (((start none).actAll run).monitor.tasks[2]?).any (fun v =>
      v.phase == .spawned && v.generation != ((start none).actAll run).monitor.generation) := by
    decide +kernel
  have htaken : ((start none).taken ⟨.channels, 1⟩ (run ++ [.settle])).all (·.isMessage) := by
    decide +kernel
  have hdone : ((((start none).actAll run).act (.connection .shutdown)).2 matches .exhausted) =
      false := by
    decide +kernel
  refine ⟨hcases.resolve_left fun hopen => ?_, hiff'.mpr ⟨⟨?_, ?_, ?_⟩, ?_⟩, hone, ?_, ?_⟩
  · have hattached := (hiff.mp hopen).1.2.2
    rw [ht, Option.all_some, bne_iff_ne] at hold
    exact hold hattached
  · decide +kernel
  · decide +kernel
  · rw [hu, Option.all_some, beq_iff_eq] at hcurrent
    exact hcurrent
  · exact List.all_eq_true.mp htaken
  · obtain ⟨v, hv, hwaits⟩ := (Option.any_eq_true _ _).mp hnever
    simp only [Bool.and_eq_true, beq_iff_eq, bne_iff_ne] at hwaits
    have hnothing := hsuperseded run [] (List.append_nil run).symm 2 v hv hwaits.1
      fun hboth => hwaits.2 hboth.2
    exact hnothing.1 ⟨.channels, 1⟩
  · refine hdown .shutdown (.inl rfl) (fun hexhausted => ?_) _
    rw [hexhausted] at hdone
    cases hdone

end Session

end BrokerMonitor
