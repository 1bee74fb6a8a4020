import BrokerMonitor.Proofs.Observation.Attentive
import BrokerMonitor.Proofs.Schedule.Wiring
/-!
# Who is ready

A task that has run is not ready any more. The run of a stream task leaves the readiness of all
other stream tasks as it was, and can only make observers ready; the run of an observer leaves
everybody else's readiness as it was. The queue holds exactly those who are ready (`Queued`).
-/

namespace BrokerMonitor

namespace Monitor

variable {m m' : Monitor} {i j k : Nat} {t : StreamTask}

/-! ### Stream tasks -/

/-- The feed at a place would give its reader something. -/
def news (m : Monitor) (r : Resource) (p : Nat) : Bool :=
  ((m.feeds.get r)[p]?).any (·.hasNews)

theorem feedHasNews_eq (m : Monitor) (t : StreamTask) :
    m.feedHasNews t = t.feed?.any fun p => m.news t.resource p := by
  unfold feedHasNews news
  cases t.feed? with
  | none => rfl
  | some p => cases h : (m.feeds.get t.resource)[p]? <;> simp [h]

/-- A task that waits after its turn was neither cancelled nor aborted, and its feed has no news. -/
theorem waiting_of_turn {place : Option Nat} (h : (m.turn t).phase = .reading place) :
    t.cancelled = false ∧ t.aborted = false ∧ place = m.reach t ∧
      ∀ p f, m.reach t = some p → (m.feeds.get t.resource)[p]? = some f →
        ((m.turn t).feed f).hasNews = false := by
  have hgoOn : ∀ u : StreamTask, ∀ feed : Option (Feed u.resource),
      (u.goOn (m.fresh t) feed).phase = .reading place →
        u.cancelled = false ∧ u.phase = .reading place ∧
          ∀ f, feed = some f → f.closed = false ∧
            ∀ f', ((u.goOn (m.fresh t) feed).feed f') = f'.drain := by
    intro u feed
    refine u.goOn_elim ?_ ?_ ?_ ?_
    · exact fun _ h => nomatch h
    · intro hcancelled hfeed h
      exact ⟨hcancelled, h, fun f hf => by rw [hfeed] at hf; cases hf⟩
    · intro f₀ hcancelled hfeed hclosed _ h
      refine ⟨hcancelled, h, fun f hf => ⟨?_, fun _ => rfl⟩⟩
      obtain rfl := Option.some.inj (hfeed.symm.trans hf)
      exact hclosed
    · exact fun _ _ _ _ _ h => nomatch h
  revert h
  unfold turn
  refine StreamTask.turn_elim ?_ ?_ ?_ ?_ ?_
  · intro hended h
    rw [StreamTask.hasEnded_of_reading h] at hended
    cases hended
  · exact fun _ _ h => nomatch h
  · exact fun _ _ _ h => nomatch h
  · intro handle hspawned haborted _ h
    obtain ⟨hcancelled, hplace, hfeed⟩ := hgoOn { t with phase := .reading (m.reach t) } _ h
    refine ⟨hcancelled, haborted, by simpa using hplace.symm, fun p f hp hf => ?_⟩
    obtain ⟨hclosed, hdrain⟩ := hfeed f (by simp [feedAt, hp, hf])
    have hlast := hdrain f.hold
    change ((StreamTask.goOn { t with phase := .reading (m.reach t) } _ _).feed f.hold).hasNews =
      false
    rw [hlast]
    simpa [Feed.hasNews, Feed.drain, Feed.hold] using hclosed
  · intro held hheld haborted h
    obtain ⟨hcancelled, hplace, hfeed⟩ := hgoOn t _ h
    refine ⟨hcancelled, haborted, ?_, fun p f hp hf => ?_⟩
    · rw [hheld] at hplace
      exact (TaskPhase.reading.inj hplace).symm.trans (m.reach_of_reading hheld).symm
    · obtain ⟨hclosed, hdrain⟩ := hfeed f (by simp [feedAt, hp, hf])
      rw [hdrain]
      simpa [Feed.hasNews, Feed.drain] using hclosed

/-- Nobody goes back to the start. -/
theorem phase_turn_ne_spawned (m : Monitor) (t : StreamTask) : (m.turn t).phase ≠ .spawned := by
  have hgoOn : ∀ u : StreamTask, ∀ feed : Option (Feed u.resource), u.phase ≠ .spawned →
      (u.goOn (m.fresh t) feed).phase ≠ .spawned := by
    intro u feed hu
    rcases u.phase_goOn (m.fresh t) feed with h | ⟨outcome, h⟩ <;> rw [h]
    · exact hu
    · exact nofun
  unfold turn
  refine StreamTask.turn_elim ?_ ?_ ?_ ?_ ?_
  · intro hended hspawned
    rw [StreamTask.hasEnded_of_spawned hspawned] at hended
    cases hended
  · exact fun _ _ => nofun
  · exact fun _ _ _ => nofun
  · intro handle _ _ _
    exact hgoOn { t with phase := .reading (m.reach t) } _ nofun
  · intro held hheld _
    apply hgoOn
    simp [hheld]

/-- After its run a stream task is not ready. -/
theorem not_ready_runStream (m : Monitor) (i : Nat) :
    (m.runStream i).isReady (.stream i) = false := by
  refine m.runStream_elim i (fun h => by simp [isReady, h]) fun t ht => ?_
  let p := m.progressOf (m.reach t) (m.turn t)
  let n := m.progress i t p
  let u := t.progress p.said p.messages.length p.phase
  have hself : n.tasks[i]? = some u := getElem?_tasks_progress ht p
  have hready : n.isReady (.stream i) = n.streamReady u := by
    simp only [isReady, hself, Option.any_some]
  have hphase : u.phase = (m.turn t).phase := rfl
  refine hready.trans ?_
  cases hafter : (m.turn t).phase with
  | spawned => exact absurd hafter (m.phase_turn_ne_spawned t)
  | ended outcome =>
      have hended : u.hasEnded = true := by simp [StreamTask.hasEnded, hphase, hafter]
      simp [streamReady, hended]
  | reading place =>
      obtain ⟨hcancelled, haborted, rfl, hnews⟩ := waiting_of_turn hafter
      have hfeed : u.feed? = m.reach t := by simp [StreamTask.feed?, hphase, hafter]
      have hquiet : n.feedHasNews u = false := by
        rw [feedHasNews_eq, hfeed]
        rcases Option.eq_none_or_eq_some (m.reach t) with hnone | ⟨q, hq⟩
        · rw [hnone]
          rfl
        · rw [hq]
          change ((p.feeds.get t.resource)[q]?).any (·.hasNews) = false
          rw [getElem?_feeds_progressOf_self _ hq]
          cases hf : (m.feeds.get t.resource)[q]? with
          | none => rfl
          | some f => exact hnews q f hq hf
      have hcancelled' : u.cancelled = false := hcancelled
      have haborted' : u.aborted = false := haborted
      simp [streamReady, hphase, hafter, hcancelled', haborted', hquiet]

/-- The readiness of stream tasks depends on the tasks and on the feeds that are held. -/
theorem ready_stream_congr (htask : m'.tasks[j]? = m.tasks[j]?)
    (hnews : ∀ t p, m.tasks[j]? = some t → t.feed? = some p →
      m'.news t.resource p = m.news t.resource p) :
    m'.isReady (.stream j) = m.isReady (.stream j) := by
  simp only [isReady, htask]
  cases ht : m.tasks[j]? with
  | none => rfl
  | some t =>
      have hfeed : m'.feedHasNews t = m.feedHasNews t := by
        rw [feedHasNews_eq, feedHasNews_eq]
        cases hp : t.feed? with
        | none => rfl
        | some p => exact hnews t p ht hp
      simp [streamReady, hfeed]

/-- The run of a stream task does not matter to the readiness of the others. -/
theorem ready_runStream_of_ne (hm : m.Wired) (hij : i ≠ j) :
    (m.runStream i).isReady (.stream j) = m.isReady (.stream j) := by
  refine m.runStream_elim i (fun _ => rfl) fun t ht => ?_
  refine ready_stream_congr (List.getElem?_set_ne hij) fun u q hu hq => ?_
  have hapart : u.resource = t.resource → m.reach t ≠ some q :=
    fun hr => hm.reach_ne hij ht hu hr.symm hq
  have hfeed := getElem?_feeds_progressOf_of_ne (m.turn t) hapart
  exact congrArg (fun f => f.any (·.hasNews)) hfeed

/-! ### Observers -/

theorem boardGone_runObserver (m : Monitor) (k : Nat) :
    (m.runObserver k).boardGone = m.boardGone := by
  obtain ⟨board, observers, hrun, -⟩ := m.exists_runObserver_eq k
  rw [hrun]
  rfl

/-- After its run an observer is not ready. -/
theorem not_ready_runObserver (hm : m.Lined) (k : Nat) :
    (m.runObserver k).isReady (.observer k) = false := by
  have hgone := m.boardGone_runObserver k
  cases ho : m.observers[k]? with
  | none => simp [runObserver, isReady, ho]
  | some o =>
      have hline : o.line = k := hm.line k o ho
      cases hfinished : o.finished with
      | true => simp [runObserver, isReady, observerReady, ho, hfinished]
      | false =>
          cases haborted : o.aborted with
          | true => simp [runObserver, isReady, observerReady, ho, hfinished, haborted]
          | false =>
              let p : Observer :=
                { o with heard := o.heard.add (m.board.take k).2, finished := m.boardGone }
              have hself : (m.runObserver k).observers[k]? = some p := by
                simp [runObserver, ho, hfinished, haborted, hline, p]
              have hempty : (m.runObserver k).board.inbox k = [] := by
                simp [runObserver, ho, hfinished, haborted, hline, m.board.inbox_take k]
              have hready : (m.runObserver k).isReady (.observer k) =
                  (!m.boardGone && (o.aborted || !((m.runObserver k).board.inbox o.line).isEmpty ||
                    (m.runObserver k).boardGone)) := by
                simp only [isReady, hself, Option.any_some]
                rfl
              rw [hready, haborted, hline, hempty, hgone]
              cases m.boardGone <;> rfl

/-- The run of an observer does not matter to the readiness of the others. -/
theorem ready_runObserver_of_ne (hm : m.Lined) {l : Nat} (hlk : l ≠ k) :
    (m.runObserver l).isReady (.observer k) = m.isReady (.observer k) := by
  have hgone := m.boardGone_runObserver l
  have hobserver : (m.runObserver l).observers[k]? = m.observers[k]? := by
    unfold runObserver
    split
    · rfl
    split
    · rfl
    split <;> simp [hlk]
  have hinbox : (m.runObserver l).board.inbox k = m.board.inbox k := by
    unfold runObserver
    split
    · rfl
    · next o ho =>
        have hline : o.line = l := hm.line l o ho
        split
        · rfl
        split
        · exact m.board.inbox_unlisten_of_ne (hline ▸ hlk)
        · exact m.board.inbox_take_of_ne (hline ▸ hlk)
  simp only [isReady, hobserver]
  cases ho : m.observers[k]? with
  | none => rfl
  | some o =>
      have hline : o.line = k := hm.line k o ho
      simp [observerReady, hline, hinbox, hgone]

/-- Who is there stays ready as long as nothing is taken from its line. -/
theorem ready_observer_mono (hobserver : ∀ o, m.observers[k]? = some o → ∃ o' : Observer,
      m'.observers[k]? = some o' ∧ o'.line = o.line ∧ o'.finished = o.finished ∧
      (o.aborted = true → o'.aborted = true))
    (hinbox : ∀ l, m.board.inbox l ≠ [] → m'.board.inbox l ≠ [])
    (hgone : m.boardGone = true → m'.boardGone = true)
    (hready : m.isReady (.observer k) = true) : m'.isReady (.observer k) = true := by
  obtain ⟨o, ho, hready⟩ := (Option.any_eq_true _ _).mp hready
  obtain ⟨o', ho', hline, hfinished, haborted⟩ := hobserver o ho
  refine (Option.any_eq_true _ _).mpr ⟨o', ho', ?_⟩
  simp only [observerReady, hline, hfinished, Bool.and_eq_true, Bool.or_eq_true,
    Bool.not_eq_true', List.isEmpty_eq_false_iff] at hready ⊢
  refine ⟨hready.1, ?_⟩
  rcases hready.2 with (h | h) | h
  · exact .inl (.inl (haborted h))
  · exact .inl (.inr (hinbox _ h))
  · exact .inr (hgone h)

/-! ### Runs -/

/-- Who has run is not ready. -/
theorem not_ready_run (hm : m.Lined) (j : Job) : (m.run j).isReady j = false := by
  cases j with
  | stream i =>
      obtain ⟨queue, hrun⟩ := m.exists_run_stream_eq i
      rw [hrun]
      exact m.not_ready_runStream i
  | observer k =>
      exact not_ready_runObserver (m := { m with queue := m.queue.erase (.observer k) })
        ⟨hm.line, hm.length⟩ k

/-- A run makes no difference to the readiness of other stream tasks. -/
theorem ready_stream_run (hm : m.Wired) {j : Job} (hj : j ≠ .stream i) :
    (m.run j).isReady (.stream i) = m.isReady (.stream i) := by
  cases j with
  | stream l =>
      have hli : l ≠ i := fun h => hj (h ▸ rfl)
      obtain ⟨queue, hrun⟩ := m.exists_run_stream_eq l
      rw [hrun]
      exact ready_runStream_of_ne hm hli
  | observer k =>
      obtain ⟨board, observers, queue, hrun, -⟩ := m.exists_run_observer_eq k
      rw [hrun]
      rfl

/-- The run of an observer makes no difference to the readiness of the others. -/
theorem ready_observer_run_observer (hm : m.Lined) {l : Nat} (hlk : l ≠ k) :
    (m.run (.observer l)).isReady (.observer k) = m.isReady (.observer k) :=
  ready_runObserver_of_ne (m := { m with queue := m.queue.erase (.observer l) })
    ⟨hm.line, hm.length⟩ hlk

/-- A run leaves the observers ready that were, except for its own. -/
theorem ready_observer_run (hm : m.Lined) {j : Job} (hj : j ≠ .observer k)
    (hready : m.isReady (.observer k) = true) : (m.run j).isReady (.observer k) = true := by
  cases j with
  | observer l =>
      have hlk : l ≠ k := fun h => hj (congrArg Job.observer h)
      rw [ready_observer_run_observer hm hlk]
      exact hready
  | stream i =>
      refine ready_observer_mono ?_ ?_ (Step.run m (.stream i)).boardGone hready
      · intro o ho
        exact ⟨o, by rwa [observers_run_stream], rfl, rfl, id⟩
      · intro l hl
        rw [board_run_stream]
        exact StatusBoard.inbox_reportAll_ne_nil hl _

theorem ready_run (hw : m.Wired) (hm : m.Lined) {j l : Job} (hj : j ≠ l)
    (hready : m.isReady l = true) : (m.run j).isReady l = true := by
  cases l with
  | stream i => rw [ready_stream_run hw hj]; exact hready
  | observer k => exact ready_observer_run hm hj hready

end Monitor

end BrokerMonitor
