import BrokerMonitor.Proofs.Generation.Lockstep
/-!
# Stale tasks

A task is stale once a later generation has been opened. Its token may be cancelled and the task
aborted, but it can still be run, and a client over a kept handle may even be started after its
generation is over. None of this matters: a stale task changes only itself, the feeds, the requests
and the queue. Whoever looks at the status or at the listings gets the same answers whether or not
the task has run.

The reason lies in two places. The board takes a report only if it carries the board's generation,
and a slot takes a listing only of its own generation. By `Lockstep` both of these are the monitor's
generation, which is never a stale task's again.
-/

namespace BrokerMonitor

namespace Monitor

variable {m : Monitor} {i : Nat} {t : StreamTask}

/-- What the run of a stale task comes to. -/
theorem runStream_of_stale (ht : m.tasks[i]? = some t)
    (hboard : t.generation ≠ m.status.generation)
    (hslot : (m.snapshot t.resource).generation ≠ t.generation) :
    ∃ tasks feeds requests, m.runStream i = { m with tasks, feeds, requests } := by
  obtain ⟨p, hp, -⟩ := exists_runStream_eq_progress ht
  have hsame : m.progress i t p = { m with
      tasks := (m.progress i t p).tasks
      board := (m.progress i t p).board
      store := (m.progress i t p).store
      feeds := p.feeds
      requests := p.requests } := rfl
  rw [board_progress_of_stale hboard, store_progress_of_stale hslot] at hsame
  exact ⟨_, _, _, hp.trans hsame⟩

end Monitor

/-- An answer without the news that the monitor is over: what was ended has then no news. -/
def Answer.beforeEnd : Answer → Answer
  | .change .closed => .change .none
  | .next r .ended => .next r .pending
  | answer => answer

namespace Session

/-- A missing name is missing in both, and the answers to what is there are compared one by one. -/
theorem withNamed_congr {α β : Type} (f : Answer → β) {s s' : Session} (roster : Roster α)
    (name : String) {k k' : α → Session × Answer} (h : ∀ a, f (k' a).2 = f (k a).2) :
    f (s'.withNamed roster name k').2 = f (s.withNamed roster name k).2 := by
  unfold withNamed
  split
  · exact h _
  · rfl

/-- Whether the cell is gone decides only how an answer without news reads. -/
theorem beforeEnd_poll (c : Cell BrokerStatus) (gone gone' : Bool) (w : Receiver) :
    (Answer.change (c.poll gone' w).1).beforeEnd = (Answer.change (c.poll gone w).1).beforeEnd := by
  unfold Cell.poll
  split
  · cases gone <;> cases gone' <;> rfl
  · rfl

theorem beforeEnd_changed {r : Resource} (f : Subscription r.Record) (slot : Slot r.Record)
    (gone gone' : Bool) :
    (Answer.next r (f.changed slot gone').2).beforeEnd =
      (Answer.next r (f.changed slot gone).2).beforeEnd := by
  unfold Subscription.changed Cell.poll
  by_cases h : slot.seenBy f.receiver
  · cases gone <;> cases gone' <;> simp [h, Answer.beforeEnd]
  · simp [h]

theorem beforeEnd_next {r : Resource} (f : ListingStream) (slot : Slot r.Record)
    (gone gone' : Bool) :
    (Answer.next r (f.next slot gone').2).beforeEnd =
      (Answer.next r (f.next slot gone).2).beforeEnd := by
  unfold ListingStream.next Cell.poll
  split
  · by_cases h : slot.seenBy f.receiver
    · cases gone <;> cases gone' <;> simp [h, Answer.beforeEnd]
    · simp [h]
  · rfl

/-- Answers to subscribers come from the board, the store and the observers. The tasks show only in
whether the monitor is over. -/
theorem beforeEnd_actSubscriber (s : Session) (tasks : List StreamTask)
    (feeds : EachResource Feeds) (requests : Log StreamRequest) (queue : List Job)
    (a : SubscriberAction) :
    ((Session.actSubscriber
      { s with monitor := { s.monitor with tasks, feeds, requests, queue } } a).2).beforeEnd =
      (s.actSubscriber a).2.beforeEnd := by
  cases a with
  | observe name | watch name | subscribe name r =>
      simp only [actSubscriber]
      split <;> rfl
  | seen name =>
      refine withNamed_congr Answer.beforeEnd s.observers name fun i => ?_
      simp only [seen]
      split <;> rfl
  | unobserve name => exact withNamed_congr Answer.beforeEnd s.observers name fun _ => rfl
  | watched name =>
      exact withNamed_congr Answer.beforeEnd s.watches name fun w => beforeEnd_poll _ _ _ w
  | current name | latest name | intoStream name =>
      exact withNamed_congr Answer.beforeEnd s.followers name fun f => by cases f <;> rfl
  | changed name =>
      refine withNamed_congr Answer.beforeEnd s.followers name fun f => ?_
      cases f with
      | subscription r f => exact beforeEnd_changed f _ _ _
      | stream r f => rfl
  | next name =>
      refine withNamed_congr Answer.beforeEnd s.followers name fun f => ?_
      cases f with
      | subscription r f => rfl
      | stream r f => exact beforeEnd_next f _ _ _

/-- While the monitor lives nobody is told that it is over. -/
theorem beforeEnd_of_alive {s : Session} (alive : s.monitor.alive = true) (a : SubscriberAction) :
    (s.actSubscriber a).2.beforeEnd = (s.actSubscriber a).2 := by
  have hboard : s.monitor.boardGone = false := by simp [Monitor.boardGone, alive]
  have hstore : s.monitor.storeGone = false := by simp [Monitor.storeGone, alive]
  cases a with
  | observe name | watch name | subscribe name r =>
      simp only [actSubscriber, alive, if_true]
      rfl
  | seen name =>
      simp only [actSubscriber]
      refine s.withNamed_elim s.observers name _ rfl fun i _ => ?_
      unfold seen
      split <;> rfl
  | unobserve name =>
      simp only [actSubscriber]
      exact s.withNamed_elim s.observers name _ rfl fun _ _ => rfl
  | watched name =>
      simp only [actSubscriber, hboard]
      refine s.withNamed_elim s.watches name _ rfl fun w _ => ?_
      unfold Cell.poll
      split <;> rfl
  | current name | latest name | intoStream name =>
      simp only [actSubscriber]
      exact s.withNamed_elim s.followers name _ rfl fun f _ => by cases f <;> rfl
  | changed name =>
      simp only [actSubscriber]
      refine s.withNamed_elim s.followers name _ rfl fun f _ => ?_
      cases f with
      | stream r f => rfl
      | subscription r f =>
          simp only [changed, hstore, Subscription.changed, Cell.poll]
          by_cases h : Cell.seenBy (s.monitor.store.get r) f.receiver <;>
            simp [h, Answer.beforeEnd]
  | next name =>
      simp only [actSubscriber]
      refine s.withNamed_elim s.followers name _ rfl fun f _ => ?_
      cases f with
      | subscription r f => rfl
      | stream r f =>
          simp only [next, hstore, ListingStream.next, Cell.poll]
          split
          · by_cases h : Cell.seenBy (s.monitor.store.get r) f.receiver <;>
              simp [h, Answer.beforeEnd]
          · rfl

/-- In every state of a session, also between two runs of `settle`, the run of a task whose
generation is over leaves the board, the store and what the observers have heard as they were. Its
reports and its listings would all be rejected, and subscribers get the answers that they would have
got without it. Only when the monitor has been dropped may the run bring the news that all is
over. -/
theorem stale_task_is_isolated {rate : Option UInt32} {opened s : Session} {i : Nat}
    {t : StreamTask} (hopened : (start rate).Leads opened) (hs : opened.Leads s)
    (ht : s.monitor.tasks[i]? = some t) (hstale : t.generation < opened.monitor.generation) :
    let after := s.runTask (.stream i)
    after.monitor.board = s.monitor.board ∧
    after.monitor.store = s.monitor.store ∧
    after.monitor.observers = s.monitor.observers ∧
    (∀ r status, s.monitor.status.accept? ⟨r, t.generation, status⟩ = none) ∧
    (∀ r records, Slot.replace? (s.monitor.store.get r) t.generation records = none) ∧
    (∀ a, (after.actSubscriber a).2.beforeEnd = (s.actSubscriber a).2.beforeEnd) ∧
    (s.monitor.alive = true → ∀ a, (after.actSubscriber a).2 = (s.actSubscriber a).2) := by
  intro after
  have hlock : s.monitor.Lockstep :=
    (Monitor.Lockstep.initial rate).leads (monitor_leads (hopened.trans hs))
  have hlt : t.generation.toNat < s.monitor.generation.toNat :=
    Nat.lt_of_lt_of_le hstale (Monitor.generation_le_of_leads (monitor_leads hs))
  have hne : t.generation ≠ s.monitor.generation := fun h => Nat.ne_of_lt hlt (congrArg _ h)
  have hboard : t.generation ≠ s.monitor.status.generation := hlock.status ▸ hne
  have hslot : ∀ r, (s.monitor.snapshot r).generation ≠ t.generation :=
    fun r h => hne (h.symm.trans (hlock.snapshot r))
  obtain ⟨tasks, feeds, requests, hrun⟩ := Monitor.runStream_of_stale
    (m := { s.monitor with queue := s.monitor.queue.erase (.stream i) }) ht hboard
    (hslot t.resource)
  obtain ⟨queue, hafter⟩ : ∃ queue,
      after = { s with monitor := { s.monitor with tasks, feeds, requests, queue } } := by
    refine ⟨after.monitor.queue, ?_⟩
    simp only [after, runTask, Monitor.run, hrun]
    rfl
  have hanswer : ∀ a, (after.actSubscriber a).2.beforeEnd = (s.actSubscriber a).2.beforeEnd := by
    intro a
    rw [hafter]
    exact s.beforeEnd_actSubscriber tasks feeds requests queue a
  refine ⟨by rw [hafter], by rw [hafter], by rw [hafter], ?_, ?_, hanswer, ?_⟩
  · intro r status
    simp [BrokerStatus.accept?, hboard]
  · intro r records
    have := hslot r
    simp only [Monitor.snapshot] at this
    simp [Slot.replace?, this]
  · intro alive a
    have hafteralive : after.monitor.alive = true := by rw [hafter]; exact alive
    have h := hanswer a
    rwa [beforeEnd_of_alive hafteralive, beforeEnd_of_alive alive] at h

/-- A client that is started over the handle of an earlier connect opens its stream and finds a
listing there, and neither shows on the board or in the store. -/
theorem late_client_is_isolated :
    let opened := (start none).actAll [
      .connection (.connect "first" "http://[::1]"),
      .connection (.connect "second" "http://[::2]")]
    let s := opened.actAll [
      .client (.startOver "late" .channels "first"),
      .broker (.offer "feed" "[::1]" .channels),
      .broker (.send "feed" .channels [({ topic := "boats" } : ChannelEntry)])]
    ∃ t, s.monitor.tasks[4]? = some t ∧ t.generation < opened.monitor.generation ∧
      (s.runTask (.stream 4)).monitor.board = s.monitor.board ∧
      (s.runTask (.stream 4)).monitor.store = s.monitor.store ∧
      ∀ a, ((s.runTask (.stream 4)).actSubscriber a).2 = (s.actSubscriber a).2 := by
  intro opened s
  have hthere : (s.monitor.tasks[4]?).any
      (fun t => decide (t.generation < opened.monitor.generation)) = true := by decide +kernel
  have alive : s.monitor.alive = true := by decide +kernel
  obtain ⟨t, ht, hlt⟩ := (Option.any_eq_true _ _).mp hthere
  obtain ⟨hboard, hstore, -, -, -, -, hanswer⟩ := stale_task_is_isolated
    ((start none).leads_actAll _) (opened.leads_actAll _) ht (of_decide_eq_true hlt)
  exact ⟨t, ht, of_decide_eq_true hlt, hboard, hstore, hanswer alive⟩

end Session

end BrokerMonitor
