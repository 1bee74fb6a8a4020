import BrokerMonitor.Proofs.Delivery.Release
/-!
# Who holds an open feed

A feed is open exactly as long as somebody reads it: every open feed is held by a task that has not
ended (`Manned`), be it one of the monitor's own or a client. A task that has opened a feed holds it
until its turn leaves it, and a feed that was left stays so for ever (`HeldOrLeft`).
-/

namespace BrokerMonitor

namespace Monitor

variable {m m' : Monitor} {i : Nat} {t : StreamTask} {id : FeedId}

/-- The task at a place reads the feed. -/
def HeldBy (m : Monitor) (id : FeedId) (i : Nat) : Prop :=
  ∃ t, m.tasks[i]? = some t ∧ t.resource = id.resource ∧ t.feed? = some id.place

/-- Every open feed is held by somebody. -/
def Manned (m : Monitor) : Prop := ∀ id, m.IsOpen id → ∃ i, m.HeldBy id i

/-- The task at a place reads the feed, or nobody will read it any more. -/
def HeldOrLeft (m : Monitor) (id : FeedId) (i : Nat) : Prop := m.HeldBy id i ∨ m.IsLeft id

/-- After its turn a task reads the feed that was within its reach, or the feed is left. -/
theorem turn_holds_or_leaves {p : Nat} (hreach : m.reach t = some p) :
    (m.turn t).phase = .reading (some p) ∨ ∀ f, ((m.turn t).feed f).reader = .released := by
  have hgoOn : ∀ (u : StreamTask) (fresh : Bool) (feed : Option (Feed u.resource)),
      u.phase = .reading (some p) → (u.goOn fresh feed).phase = .reading (some p) ∨
        ∀ f, ((u.goOn fresh feed).feed f).reader = .released := by
    intro u fresh feed hu
    refine u.goOn_elim ?_ ?_ ?_ ?_
    · exact fun _ => .inr fun _ => rfl
    · exact fun _ _ => .inl hu
    · exact fun _ _ _ _ _ => .inl hu
    · exact fun _ _ _ _ _ => .inr fun _ => rfl
  unfold turn
  refine StreamTask.turn_elim ?_ ?_ ?_ ?_ ?_
  · intro hended
    have hnothing : m.reach t = none := by
      cases hphase : t.phase with
      | ended => simp [reach, StreamTask.reach, StreamTask.starts, StreamTask.feed?, hphase]
      | spawned | reading => simp [StreamTask.hasEnded, hphase] at hended
    rw [hnothing] at hreach
    cases hreach
  · exact fun _ _ => .inr fun _ => rfl
  · intro hspawned haborted htarget
    rw [m.reach_of_starts (StreamTask.starts_eq_true_iff.mpr ⟨hspawned, haborted⟩), htarget]
      at hreach
    cases hreach
  · intro h _ _ _
    rcases hgoOn { t with phase := .reading (m.reach t) } (m.fresh t) (m.feedAt t.resource
      (m.reach t)) (congrArg TaskPhase.reading hreach) with hreads | hleaves
    · exact .inl hreads
    · exact .inr fun f => hleaves f.hold
  · intro held hheld _
    exact hgoOn t _ _ (hheld.trans (congrArg TaskPhase.reading
      ((m.reach_of_reading hheld).symm.trans hreach)))

/-- Whatever is there within the reach of a task is read by it after its turn, or left. -/
theorem heldOrLeft_turn (ht : m.tasks[i]? = some t) {p : Nat} (hreach : m.reach t = some p)
    (hthere : m.reader? t.resource p ≠ none) :
    (m.progress i t (m.progressOf (m.reach t) (m.turn t))).HeldOrLeft ⟨t.resource, p⟩ i := by
  rcases turn_holds_or_leaves hreach with hreads | hleaves
  · exact .inl ⟨_, getElem?_tasks_progress ht _, rfl, feed?_eq_some_iff.mpr hreads⟩
  · refine .inr ?_
    obtain ⟨reader, hreader⟩ := Option.ne_none_iff_exists'.mp hthere
    obtain ⟨f, hf, -⟩ := Option.map_eq_some_iff.mp hreader
    exact (Tenancy.reader?_turn hreach hf).trans (congrArg some (hleaves f))

/-- Who reads a feed out of reach does not change in a turn. -/
theorem reader?_turn_of_ne (h : t.resource = id.resource → m.reach t ≠ some id.place) :
    (m.progress i t (m.progressOf (m.reach t) (m.turn t))).reader? id.resource id.place =
      m.reader? id.resource id.place :=
  congrArg (Option.map fun f : Feed id.resource => f.reader)
    (getElem?_feeds_progressOf_of_ne (m.turn t) fun hr => h hr.symm)

/-! ### Steps -/

/-- A step is the run of a job, or it leaves the tasks where they are and the feeds to their
readers. -/
theorem Step.outside_or_run (h : m.Step m') :
    (m.Retains m' ∧ ∀ id, m.KeepsReader m' id) ∨ ∃ j, m' = m.run j := by
  cases h with
  | offer r host => exact .inl ⟨retains_of_eq rfl, m.keepsReader_offer r host⟩
  | send other item =>
      exact .inl ⟨retains_of_eq rfl, fun id =>
        .inl (m.reader?_modifyFeed id other fun f => f.reader_send item)⟩
  | close other => exact .inl ⟨retains_of_eq rfl, fun id => .inl (m.reader?_close id other)⟩
  | refuse | meetRefusal | readRequests | observe | unobserve | readHeard =>
      exact .inl ⟨retains_of_eq rfl, fun _ => .inl rfl⟩
  | attach => exact .inl ⟨m.retains_abandonTasks.of_append rfl, fun _ => .inl rfl⟩
  | drop => exact .inl ⟨m.retains_abandonTasks, fun _ => .inl rfl⟩
  | startOver | startDetached =>
      exact .inl ⟨(retains_of_eq rfl).of_append rfl, fun _ => .inl rfl⟩
  | readLog ht => exact .inl ⟨retains_readLog ht, fun _ => .inl rfl⟩
  | cancel i => exact .inl ⟨m.retains_cancel i, fun _ => .inl rfl⟩
  | run j => exact .inr ⟨j, rfl⟩

namespace HeldBy

theorem outside (h : m.HeldBy id i) (htasks : m.Retains m') : m'.HeldBy id i := by
  obtain ⟨t, ht, hresource, hfeed⟩ := h
  obtain ⟨t', ht', hremains⟩ := htasks i t ht
  refine ⟨t', ht', hremains.resource.trans hresource, ?_⟩
  rw [StreamTask.feed?, hremains.phase]
  exact hfeed

theorem runStream (h : m.HeldBy id i) (hw : m.Wired) (j : Nat) :
    (m.runStream j).HeldOrLeft id i := by
  obtain ⟨t, ht, hresource, hfeed⟩ := h
  refine m.runStream_elim j (fun _ => .inl ⟨t, ht, hresource, hfeed⟩) fun u hu => ?_
  by_cases hji : j = i
  · subst hji
    obtain rfl := Option.some.inj (ht.symm.trans hu)
    have hreach := m.reach_of_reading (feed?_eq_some_iff.mp hfeed)
    have hheld := hw.held j t id.place ht hfeed
    obtain ⟨r, p⟩ := id
    obtain rfl : t.resource = r := hresource
    exact heldOrLeft_turn ht hreach (by rw [hheld]; exact nofun)
  · exact .inl ⟨t, (List.getElem?_set_ne hji).trans ht, hresource, hfeed⟩

end HeldBy

namespace IsLeft

theorem outside (h : m.IsLeft id) (hreader : m.KeepsReader m' id) : m'.IsLeft id := by
  rcases hreader with hsame | ⟨hnone | hoffered, -⟩
  · exact hsame.trans h
  · rw [IsLeft, hnone] at h
    cases h
  · rw [IsLeft, hoffered] at h
    cases h

/-- What was left is out of everybody's reach. -/
theorem runStream (h : m.IsLeft id) (hw : m.Wired) (j : Nat) : (m.runStream j).IsLeft id := by
  refine m.runStream_elim j (fun _ => h) fun u hu => ?_
  refine (reader?_turn_of_ne fun hresource hreach => ?_).trans h
  have hreader : m.reader? u.resource id.place = some .released := hresource ▸ h
  rcases hw.reach_cases hu hreach with ⟨-, hoffered⟩ | ⟨-, -, hheld⟩
  · rw [hoffered] at hreader
    cases hreader
  · rw [hheld] at hreader
    cases hreader

end IsLeft

namespace HeldOrLeft

theorem run (h : m.HeldOrLeft id i) (hw : m.Wired) (j : Job) : (m.run j).HeldOrLeft id i := by
  cases j with
  | observer k =>
      obtain ⟨board, observers, queue, hrun, -⟩ := m.exists_run_observer_eq k
      rw [hrun]
      exact h
  | stream j =>
      obtain ⟨queue, hrun⟩ := m.exists_run_stream_eq j
      rw [hrun]
      show (m.runStream j).HeldOrLeft id i
      rcases h with hheld | hleft
      · exact hheld.runStream hw j
      · exact .inr (hleft.runStream hw j)

theorem step (h : m.HeldOrLeft id i) (hw : m.Wired) (step : m.Step m') : m'.HeldOrLeft id i := by
  rcases step.outside_or_run with ⟨htasks, hreader⟩ | ⟨j, rfl⟩
  · exact h.imp (·.outside htasks) (·.outside (hreader id))
  · exact h.run hw j

theorem leads (h : m.HeldOrLeft id i) (hw : m.Wired) (hleads : m.Leads m') :
    m'.HeldOrLeft id i := by
  induction hleads with
  | refl => exact h
  | tail hn step ih => exact ih.step (hw.leads hn) step

end HeldOrLeft

/-- Who opens a feed holds it after the run, or has already left it. -/
theorem heldOrLeft_of_mem_openers (hw : m.Wired) {j : Job} (h : i ∈ m.openers id j) :
    (m.run j).HeldOrLeft id i := by
  cases j with
  | observer k => cases h
  | stream k =>
      simp only [openers] at h
      split at h
      · next hany =>
          obtain rfl := List.mem_singleton.mp h
          obtain ⟨t, ht, hopens⟩ := (Option.any_eq_true _ _).mp hany
          simp only [opens, Bool.and_eq_true, beq_iff_eq] at hopens
          obtain ⟨⟨hstarts, hresource⟩, hreach⟩ := hopens
          obtain ⟨queue, hrun⟩ := m.exists_run_stream_eq i
          rw [hrun]
          show (m.runStream i).HeldOrLeft id i
          rw [runStream_eq_turn ht]
          obtain ⟨r, p⟩ := id
          obtain rfl : t.resource = r := hresource
          refine heldOrLeft_turn ht hreach ?_
          rcases hw.reach_cases ht hreach with ⟨-, hreader⟩ | ⟨-, -, hreader⟩ <;> simp [hreader]
      · cases h

theorem heldOrLeft_of_mem_openersAll (hw : m.Wired) {js : List Job}
    (h : i ∈ m.openersAll id js) : (m.runAll js).HeldOrLeft id i := by
  induction js generalizing m with
  | nil => cases h
  | cons j js ih =>
      have hnext : (m.run j).Wired := hw.step (.run m j)
      rcases List.mem_append.mp h with hfirst | hlater
      · exact (heldOrLeft_of_mem_openers hw hfirst).leads hnext ((m.run j).leads_runAll js)
      · exact ih hnext hlater

namespace Manned

theorem initial (rate : Option UInt32) : (Monitor.initial rate).Manned := by
  intro id hopen
  obtain ⟨r, p⟩ := id
  cases r <;> cases hopen

theorem outside (h : m.Manned) (htasks : m.Retains m') (hreader : ∀ id, m.KeepsReader m' id) :
    m'.Manned := by
  intro id hopen
  rcases hreader id with hsame | ⟨-, hnot⟩
  · obtain ⟨i, hheld⟩ := h id (hsame.symm.trans hopen)
    exact ⟨i, hheld.outside htasks⟩
  · exact absurd hopen hnot

theorem runStream (h : m.Manned) (j : Nat) : (m.runStream j).Manned := by
  refine m.runStream_elim j (fun _ => h) fun t ht id hopen => ?_
  by_cases hwithin : t.resource = id.resource ∧ m.reach t = some id.place
  · obtain ⟨r, p⟩ := id
    obtain ⟨rfl, hreach⟩ : t.resource = r ∧ m.reach t = some p := hwithin
    rcases turn_holds_or_leaves hreach with hreads | hleaves
    · exact ⟨j, _, getElem?_tasks_progress ht _, rfl, feed?_eq_some_iff.mpr hreads⟩
    · have hreader := getElem?_feeds_progressOf_self (m.turn t) hreach
      obtain ⟨f, hf, hheld⟩ := Option.map_eq_some_iff.mp hopen
      obtain ⟨g, -, rfl⟩ := Option.map_eq_some_iff.mp (hreader.symm.trans hf)
      rw [hleaves g] at hheld
      cases hheld
  · -- The feed was out of reach, so its reader is another task, which is where it was.
    have haway : t.resource = id.resource → m.reach t ≠ some id.place :=
      fun hr hreach => hwithin ⟨hr, hreach⟩
    obtain ⟨i, u, hu, hresource, hfeed⟩ := h id ((reader?_turn_of_ne haway).symm.trans hopen)
    have hij : j ≠ i := by
      rintro rfl
      obtain rfl := Option.some.inj (ht.symm.trans hu)
      exact haway hresource (m.reach_of_reading (feed?_eq_some_iff.mp hfeed))
    exact ⟨i, u, (List.getElem?_set_ne hij).trans hu, hresource, hfeed⟩

theorem step (h : m.Manned) (step : m.Step m') : m'.Manned := by
  rcases step.outside_or_run with ⟨htasks, hreader⟩ | ⟨j, rfl⟩
  · exact h.outside htasks hreader
  cases j with
  | stream i =>
      obtain ⟨queue, hrun⟩ := m.exists_run_stream_eq i
      rw [hrun]
      exact h.runStream i
  | observer k =>
      obtain ⟨board, observers, queue, hrun, -⟩ := m.exists_run_observer_eq k
      rw [hrun]
      exact h

theorem leads (h : m.Manned) (hm : m.Leads m') : m'.Manned := by
  induction hm with
  | refl => exact h
  | tail _ step ih => exact ih.step step

end Manned

theorem Reachable.manned (h : m.Reachable) : m.Manned := by
  obtain ⟨rate, hm⟩ := h
  exact (Manned.initial rate).leads hm

end Monitor

namespace Session

/-- Whoever has opened a feed in a run holds it at the end, or has left it. -/
theorem heldOrLeft_of_mem_openers {s : Session} (hs : s.monitor.Wired) {id : FeedId} {i : Nat}
    {run : List Action} (h : i ∈ s.openers id run) : (s.actAll run).monitor.HeldOrLeft id i := by
  induction run generalizing s with
  | nil => cases h
  | cons a rest ih =>
      have hnext : (s.act a).1.monitor.Wired := hs.leads (s.monitor_leads_act a)
      rcases List.mem_append.mp h with hfirst | hlater
      · cases hruns : a.runsTasks with
        | false =>
            rw [s.jobs_eq_nil hruns] at hfirst
            cases hfirst
        | true =>
            have hopened : (s.act a).1.monitor.HeldOrLeft id i := by
              rw [act_of_runsTasks s hruns]
              exact Monitor.heldOrLeft_of_mem_openersAll hs hfirst
            exact hopened.leads hnext (monitor_leads ((s.act a).1.leads_actAll rest))
      · exact ih hnext hlater

end Session

end BrokerMonitor
