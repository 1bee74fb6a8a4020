import BrokerMonitor.Proofs.Delivery.Holding
/-!
# Settling comes to rest

`settle` runs whoever comes first in the queue until nobody is ready. Each run of a stream task
takes it off those that are ready, and each run of an observer takes that one off, so that there are
fewer runs than `settle` allows for. A monitor at rest has nothing left to do: whoever reads a feed
waits for news of it, every observer has taken what was sent to it, and whoever was told to end has
ended. So settling again changes nothing.
-/

namespace BrokerMonitor

namespace Monitor

variable {m : Monitor} {i k : Nat} {t : StreamTask} {o : Observer}

/-! ### First in, first out -/

/-- Each job comes first in the queue when it is run. Those behind it keep their order, and whoever
becomes ready by the run goes behind them. -/
def InTurn (m : Monitor) : List Job → Prop
  | [] => True
  | j :: js => ∃ waiting more, m.queue = j :: waiting ∧ (m.run j).queue = waiting ++ more ∧
      (m.run j).InTurn js

/-- A run takes its job out of the queue, and puts others behind. -/
theorem exists_queue_run (m : Monitor) (j : Job) :
    ∃ more, (m.run j).queue = m.queue.erase j ++ more := by
  cases j with
  | stream i =>
      let n : Monitor := { m with queue := m.queue.erase (.stream i) }
      have hqueue : (n.runStream i).queue = n.queue :=
        n.runStream_elim i (fun _ => rfl) fun _ _ => rfl
      exact ⟨_, congrArg (· ++ _) hqueue⟩
  | observer k =>
      let n : Monitor := { m with queue := m.queue.erase (.observer k) }
      have hqueue : (n.runObserver k).queue = n.queue := by
        obtain ⟨board, observers, hrun, -⟩ := n.exists_runObserver_eq k
        rw [hrun]
      exact ⟨_, congrArg (· ++ _) hqueue⟩

theorem inTurn_jobsWithin (m : Monitor) (runs : Nat) : m.InTurn (m.jobsWithin runs) := by
  induction runs generalizing m with
  | zero => trivial
  | succ runs ih =>
      unfold jobsWithin
      split
      · trivial
      · next j waiting hqueue =>
          obtain ⟨more, hmore⟩ := m.exists_queue_run j
          rw [hqueue, List.erase_cons_head] at hmore
          exact ⟨waiting, more, hqueue, hmore, ih (m.run j)⟩

/-- As many runs are enough as there are jobs to run. -/
theorem settleWithin_length_jobsWithin (m : Monitor) (runs : Nat) :
    m.settleWithin (m.jobsWithin runs).length = m.settleWithin runs := by
  induction runs generalizing m with
  | zero => rfl
  | succ runs ih =>
      cases hqueue : m.queue with
      | nil =>
          rw [settleWithin_of_queue hqueue, settleWithin_of_queue hqueue]
      | cons j waiting =>
          have hjobs : m.jobsWithin (runs + 1) = j :: (m.run j).jobsWithin runs := by
            rw [jobsWithin, hqueue]
          simp only [hjobs, List.length_cons, settleWithin, hqueue]
          exact ih (m.run j)

/-! ### At rest -/

/-- Nothing is left to do. -/
structure AtRest (m : Monitor) : Prop where
  queue : m.queue = []
  idle : ∀ j, m.isReady j = false
  /-- Whoever has not ended reads, and was not told to end. -/
  tasks : ∀ (i : Nat) (t : StreamTask), m.tasks[i]? = some t → t.hasEnded = false →
    t.cancelled = false ∧ t.aborted = false ∧ ∃ place, t.phase = .reading place
  /-- Nothing waits in a feed that somebody reads. -/
  feeds : ∀ (id : FeedId) (f : Feed id.resource), m.feed? id = some f → f.reader = .held →
    f.pending = [] ∧ f.closed = false
  /-- Nothing waits for an observer, and one that was aborted has ended. -/
  observers : ∀ (k : Nat) (o : Observer), m.observers[k]? = some o →
    (o.aborted = false → m.board.Holds k []) ∧ (o.aborted = true → o.finished = true)

theorem news_eq_false_of_not_ready (ht : m.tasks[i]? = some t)
    (hready : m.isReady (.stream i) = false) {p : Nat} (hfeed : t.feed? = some p) :
    m.news t.resource p = false := by
  have hended : t.hasEnded = false :=
    StreamTask.hasEnded_of_reading (feed?_eq_some_iff.mp hfeed)
  have hall : t.phase ≠ .spawned ∧ t.cancelled = false ∧ t.aborted = false ∧
      m.feedHasNews t = false := by
    simpa [isReady, ht, streamReady, hended, and_assoc] using hready
  obtain ⟨-, -, -, hnews⟩ := hall
  rwa [feedHasNews_eq, hfeed, Option.any_some] at hnews

theorem reading_of_not_ready (ht : m.tasks[i]? = some t)
    (hready : m.isReady (.stream i) = false) (hended : t.hasEnded = false) :
    t.cancelled = false ∧ t.aborted = false ∧ ∃ place, t.phase = .reading place := by
  have hall : t.phase ≠ .spawned ∧ t.cancelled = false ∧ t.aborted = false ∧
      m.feedHasNews t = false := by
    simpa [isReady, ht, streamReady, hended, and_assoc] using hready
  obtain ⟨hstarted, hcancelled, haborted, -⟩ := hall
  refine ⟨hcancelled, haborted, ?_⟩
  cases hphase : t.phase with
  | spawned => exact absurd hphase hstarted
  | reading place => exact ⟨place, rfl⟩
  | ended outcome => simp [StreamTask.hasEnded, hphase] at hended

namespace Reachable

/-- When nobody is ready nothing is left to do. -/
theorem atRest (h : m.Reachable) (hidle : ∀ j, m.isReady j = false) : m.AtRest := by
  refine ⟨?_, hidle, ?_, ?_, ?_⟩
  · rw [List.eq_nil_iff_forall_not_mem]
    intro j hj
    rw [h.queued.ready, hidle] at hj
    cases hj
  · exact fun i t ht hended => reading_of_not_ready ht (hidle (.stream i)) hended
  · intro id f hf hheld
    -- Somebody reads the feed, and would be ready if there were news.
    have hopen : m.IsOpen id := Option.map_eq_some_iff.mpr ⟨f, hf, hheld⟩
    obtain ⟨i, t, ht, hresource, hfeed⟩ := h.manned id hopen
    have hnews := news_eq_false_of_not_ready ht (hidle (.stream i)) hfeed
    rw [hresource] at hnews
    have hnone : f.hasNews = false := by
      have hthere : (m.feeds.get id.resource)[id.place]? = some f := hf
      simpa [news, hthere] using hnews
    simpa [Feed.hasNews] using hnone
  · intro k o ho
    refine ⟨fun haborted => ?_, fun haborted => ?_⟩
    · exact h.attentive.holds_nil_of_not_ready ho haborted (hidle (.observer k))
    · simpa [isReady, ho, observerReady, haborted] using hidle (.observer k)

theorem atRest_settle (h : m.Reachable) : m.settle.AtRest :=
  h.settle.atRest (isSettled_iff.mp h.isSettled_settle)

/-- More runs than were needed make no difference. -/
theorem settleWithin_of_length_le (h : m.Reachable) {runs : Nat}
    (hruns : (m.jobsWithin m.settleBound).length ≤ runs) : m.settleWithin runs = m.settle := by
  obtain ⟨more, rfl⟩ := Nat.exists_eq_add_of_le hruns
  have henough := m.settleWithin_length_jobsWithin m.settleBound
  have hqueue : (m.settleWithin m.settleBound).queue = [] := h.queue_settle
  rw [settleWithin_add, henough, settleWithin_of_queue hqueue, Monitor.settle]

end Reachable

end Monitor

namespace Session

variable {s : Session}

theorem reachable_of_leads {rate : Option UInt32} (hs : (start rate).Leads s) :
    s.monitor.Reachable := ⟨rate, monitor_leads hs⟩

/-- Settling ends and is idempotent. In every state of a session, also between two runs inside
`settle`, with any feeds, tasks, clients and observers in it, settling is the run of the ready
tasks, first in first out, each of them ready when it is run, and of fewer of them than the bound
that `settle` has. It leaves the monitor at rest: nobody is ready, every stream that is still open
waits on an empty feed, every observer that was not aborted has taken what it was sent, and nobody
is left unfinished who was cancelled or aborted. Further runs, and settling again, change nothing.
-/
theorem settling_comes_to_rest {rate : Option UInt32} (hs : (start rate).Leads s) :
    let m := s.monitor
    let jobs := m.jobsWithin m.settleBound
    let settled := (s.act .settle).1
    settled.monitor = m.runAll jobs ∧ m.Schedule jobs ∧ m.InTurn jobs ∧
    jobs.length ≤ m.potential ∧ m.potential < m.settleBound ∧
    settled.monitor.AtRest ∧
    (∀ runs, jobs.length ≤ runs → m.settleWithin runs = settled.monitor) ∧
    settled.act .settle = (settled, .done) := by
  intro m jobs settled
  have hm : m.Reachable := reachable_of_leads hs
  have hlined := hm.attentive.lined
  have hschedule : m.Schedule jobs :=
    Monitor.schedule_jobsWithin hm.queued hm.wired hlined _
  have hrest : m.settle.AtRest := hm.atRest_settle
  refine ⟨m.settleWithin_eq_runAll _, hschedule, m.inTurn_jobsWithin _,
    hschedule.length_le hm.wired hlined, m.potential_lt_settleBound, hrest,
    fun runs hruns => hm.settleWithin_of_length_le hruns, ?_⟩
  have hagain : settled.monitor.settle = settled.monitor :=
    Monitor.settleWithin_of_queue hrest.queue _
  rw [act, hagain]

/-- A connect supersedes another one, whose channels have a message left. A client follows the new
connection, and one of two observers was aborted. The other has taken what it was sent, and is ready
again by what the new tasks report. -/
theorem settling_comes_to_rest_after_two_connects :
    let s := (start none).actAll [
      .subscriber (.observe "log"), .broker (.offer "first" "[::1]" .channels),
      .connection (.connect "a" "http://[::1]"), .settle,
      .broker (.send "first" .channels []), .broker (.offer "second" "[::1]" .channels),
      .subscriber (.observe "other"), .connection (.connect "b" "http://[::1]"),
      .client (.startOver "client" .channels "b"), .subscriber (.unobserve "other"),
      .run (.observer 0)]
    let settled := (s.act .settle).1
    (start none).Leads s ∧
    s.monitor.jobsWithin s.monitor.settleBound =
      [.stream 0, .observer 1, .stream 1, .stream 2, .stream 3, .stream 4, .observer 0] ∧
    settled.monitor.AtRest ∧ settled.act .settle = (settled, .done) := by
  intro s settled
  have hs : (start none).Leads s := leads_actAll _ _
  obtain ⟨-, -, -, -, -, hrest, -, hagain⟩ := settling_comes_to_rest hs
  exact ⟨hs, by decide +kernel, hrest, hagain⟩

end Session

end BrokerMonitor
