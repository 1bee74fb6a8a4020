import BrokerMonitor.Proofs.Presence.Thinning
/-!
# Settling with fewer observers

The tasks do the same in both monitors, as they ask nobody who observes. When an observer that is in
both is run, it hears the same in both, and when one that is in the larger monitor only is run, the
other monitor stands still. So both come to the same when they settle, although the larger one has
more to run.
-/

namespace BrokerMonitor

namespace StatusBoard

theorem take_eq_modify (b : StatusBoard) (k : Nat) : b.take k =
    ({ b with listeners := b.listeners.modify k fun l => l.take.1 }, b.inbox k) := by
  unfold StatusBoard.take StatusBoard.inbox
  cases hl : b.listeners[k]? <;> simp [List.modify_eq_set_getElem?, hl, Listener.take]

end StatusBoard

namespace Observer

/-- The observer after a run of its task, in which it finds what was `sent` on its line. -/
def heed (sent : List BrokerStatus) (gone : Bool) (o : Observer) : Observer :=
  if o.finished then o
  else if o.aborted then { o with finished := true }
  else { o with heard := o.heard.add sent, finished := gone }

/-- The observer's line after that. -/
def lineAfter (o : Observer) (l : Listener) : Listener :=
  if o.finished then l
  else if o.aborted then l.drop
  else l.take.1

theorem heed_on (sent : List BrokerStatus) (gone : Bool) (o : Observer) (line : Nat) :
    heed sent gone (o.on line) = (heed sent gone o).on line := by
  unfold heed on
  dsimp only
  split
  · rfl
  · split <;> rfl

end Observer

namespace Monitor

variable {places : List Nat} {m n : Monitor} {i k : Nat} {o : Observer}

/-! ### Runs -/

/-- A run of an observer's task concerns nobody else. -/
theorem runObserver_eq_attend (hm : m.Lined) (ho : m.observers[k]? = some o) :
    m.runObserver k = m.attend k o.lineAfter (Observer.heed (m.board.inbox k) m.boardGone) := by
  have hline : o.line = k := hm.line k o ho
  have hmodify : ∀ g : Observer → Observer, g o = Observer.heed (m.board.inbox k) m.boardGone o →
      m.observers.modify k g =
        m.observers.modify k (Observer.heed (m.board.inbox k) m.boardGone) := by
    intro g hg
    rw [List.modify_eq_set_getElem?, List.modify_eq_set_getElem?, ho]
    simp [hg]
  cases hfinished : o.finished with
  | true =>
      have hsame : o.lineAfter = id := funext fun l => if_pos hfinished
      have hrun : m.runObserver k = m := by simp [runObserver, ho, hfinished]
      rw [hrun, attend, hsame, List.modify_id, ← hmodify id (if_pos hfinished).symm, List.modify_id]
  | false =>
      have hgoes : ¬ o.finished = true := by simp [hfinished]
      cases haborted : o.aborted with
      | true =>
          have hdrop : o.lineAfter = Listener.drop :=
            funext fun l => (if_neg hgoes).trans (if_pos haborted)
          have hheed :
              Observer.heed (m.board.inbox k) m.boardGone o = { o with finished := true } :=
            (if_neg hgoes).trans (if_pos haborted)
          rw [attend, hdrop, ← hmodify (fun o => { o with finished := true }) hheed.symm]
          simp [runObserver, ho, hfinished, haborted, StatusBoard.unlisten, hline]
      | false =>
          have hspared : ¬ o.aborted = true := by simp [haborted]
          have htake : o.lineAfter = fun l => l.take.1 :=
            funext fun l => (if_neg hgoes).trans (if_neg hspared)
          have hheed : Observer.heed (m.board.inbox k) m.boardGone o =
              { o with heard := o.heard.add (m.board.inbox k), finished := m.boardGone } :=
            (if_neg hgoes).trans (if_neg hspared)
          rw [attend, htake, ← hmodify (fun o => { o with
            heard := o.heard.add (m.board.inbox k), finished := m.boardGone }) hheed.symm]
          simp [runObserver, ho, hfinished, haborted, hline, StatusBoard.take_eq_modify]

namespace Thins

theorem runObserver (h : m.Thins places n) (hm : m.Lined) (hn : n.Lined)
    (hi : places[i]? = some k) : (m.runObserver k).Thins places (n.runObserver i) := by
  have hk : k < m.observers.length := h.present k (List.mem_of_getElem? hi)
  obtain ⟨o, ho⟩ : ∃ o, m.observers[k]? = some o := ⟨_, List.getElem?_eq_getElem hk⟩
  have ho' := h.observer i k hi
  rw [ho] at ho'
  rw [runObserver_eq_attend hm ho, runObserver_eq_attend hn ho', h.board.inbox_eq hi,
    h.boardGone_eq]
  exact h.attend hi _ (Observer.heed_on _ _)

theorem runObserver_absent (h : m.Thins places n) (hm : m.Lined) (hk : k ∉ places) :
    (m.runObserver k).Thins places n := by
  cases ho : m.observers[k]? with
  | none =>
      have hnothing : m.runObserver k = m := by simp [Monitor.runObserver, ho]
      rwa [hnothing]
  | some o =>
      rw [runObserver_eq_attend hm ho]
      exact h.attend_absent hk _ _

/-- A task does the same in both monitors. -/
theorem runStream (h : m.Thins places n) (i : Nat) :
    (m.runStream i).Thins places (n.runStream i) := by
  have hboard := h.board
  obtain ⟨board, observers, queue, rfl⟩ := h.rest
  let n : Monitor := { m with board, observers, queue }
  cases ht : m.tasks[i]? with
  | none =>
      have hnothing : n.runStream i = n := runStream_of_missing ht
      rw [runStream_of_missing ht]
      show m.Thins places (n.runStream i)
      rwa [hnothing]
  | some t =>
      let p := m.progressOf (m.reach t) (m.turn t)
      have hrun : n.runStream i = n.progress i t p := runStream_eq_turn ht
      rw [runStream_eq_turn ht]
      show (m.progress i t p).Thins places (n.runStream i)
      rw [hrun]
      refine ⟨h.ordered, ⟨_, _, _, rfl⟩, ?_, h.present, h.length, h.observer, h.queue⟩
      show StatusBoard.Thins places (m.progress i t p).board (n.progress i t p).board
      unfold progress
      cases t.audience with
      | board => exact hboard.reportAll _
      | log => exact hboard

/-- Whoever is in both monitors is taken out of both queues. -/
theorem dequeue (h : m.Thins places n) {j j' : Job} (hj : j.among? places = some j') :
    ({ m with queue := m.queue.erase j } : Monitor).Thins places
      { n with queue := n.queue.erase j' } := by
  refine ⟨h.ordered, ?_, h.board, h.present, h.length, h.observer, ?_⟩
  · obtain ⟨board, observers, queue, rfl⟩ := h.rest
    exact ⟨_, _, _, rfl⟩
  · show n.queue.erase j' = (m.queue.erase j).filterMap _
    rw [h.queue, filterMap_erase_of_some hj fun l hl => among?_injective h.ordered hl hj]

theorem run (h : m.Thins places n) (hm : m.Lined) (hn : n.Lined) {j j' : Job}
    (hj : j.among? places = some j') : (m.run j).Thins places (n.run j') := by
  have hnext := h.dequeue hj
  have hlined := hm.step (.run m j)
  cases j with
  | stream i =>
      obtain rfl := Option.some.inj hj
      exact (hnext.runStream i).enqueueReady ⟨hlined.line, hlined.length⟩
  | observer k =>
      obtain ⟨i, hi, rfl⟩ := (among?_observer_eq_some_iff h.ordered).mp hj
      exact (hnext.runObserver ⟨hm.line, hm.length⟩ ⟨hn.line, hn.length⟩ hi).enqueueReady
        ⟨hlined.line, hlined.length⟩

/-- The other monitor stands still when somebody runs who is not there. -/
theorem run_absent (h : m.Thins places n) (hm : m.Lined) (hn : n.Queued) {j : Job}
    (hj : j.among? places = none) : (m.run j).Thins places n := by
  cases j with
  | stream i => cases hj
  | observer k =>
      have hk : k ∉ places := by
        intro hmem
        obtain ⟨i, hi⟩ := List.mem_iff_getElem?.mp hmem
        rw [(among?_observer_eq_some_iff h.ordered).mpr ⟨i, hi, rfl⟩] at hj
        cases hj
      have hnext : ({ m with queue := m.queue.erase (.observer k) } : Monitor).Thins places n := by
        refine ⟨h.ordered, h.rest, h.board, h.present, h.length, h.observer, ?_⟩
        show n.queue = (m.queue.erase (.observer k)).filterMap _
        rw [h.queue, filterMap_erase_of_none hj]
      have hlined := hm.step (.run m (.observer k))
      exact (hnext.runObserver_absent ⟨hm.line, hm.length⟩ hk).enqueueReady_left
        ⟨hlined.line, hlined.length⟩ hn

end Thins

/-! ### Settling -/

namespace Thins

/-- However many runs the larger monitor needs, the other can follow. -/
theorem settleWithin (h : m.Thins places n) (hm : m.Reachable) (hn : n.Reachable) (runs : Nat) :
    ∃ runs', (m.settleWithin runs).Thins places (n.settleWithin runs') := by
  induction runs generalizing m n with
  | zero => exact ⟨0, h⟩
  | succ runs ih =>
      have hlined := hm.attentive.lined
      cases hqueue : m.queue with
      | nil =>
          have hsame : m.settleWithin (runs + 1) = m := by simp [Monitor.settleWithin, hqueue]
          rw [hsame]
          exact ⟨0, h⟩
      | cons j rest =>
          have hstep : m.settleWithin (runs + 1) = (m.run j).settleWithin runs := by
            simp [Monitor.settleWithin, hqueue]
          rw [hstep]
          cases hj : j.among? places with
          | none => exact ih (h.run_absent hlined hn.queued hj) (hm.run j) hn
          | some j' =>
              obtain ⟨runs', hafter⟩ :=
                ih (h.run hlined hn.attentive.lined hj) (hm.run j) (hn.run j')
              have hqueue' : n.queue = j' :: rest.filterMap (·.among? places) := by
                rw [h.queue, hqueue, List.filterMap_cons_some hj]
              have hstep' : n.settleWithin (runs' + 1) = (n.run j').settleWithin runs' := by
                simp [Monitor.settleWithin, hqueue']
              exact ⟨runs' + 1, hstep' ▸ hafter⟩

theorem settle (h : m.Thins places n) (hm : m.Reachable) (hn : n.Reachable) :
    m.settle.Thins places n.settle := by
  obtain ⟨runs, hafter⟩ := h.settleWithin hm hn m.settleBound
  have hnobody : m.settle.queue = [] := hm.queue_settle
  have hdone : (n.settleWithin runs).queue = [] := by
    rw [hafter.queue]
    show m.settle.queue.filterMap _ = []
    rw [hnobody]
    rfl
  rwa [hn.settleWithin_eq_settle hdone] at hafter

end Thins

end Monitor

end BrokerMonitor
