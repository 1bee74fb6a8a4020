import BrokerMonitor.Proofs.Observation.Line
import BrokerMonitor.Proofs.Run.Turn
import BrokerMonitor.Proofs.Schedule.Jobs
/-!
# What observers hear

Each observer has a line of the board, the one at its own place. `Tracks` says how a monitor comes
out of a series of events at its board: every observer has then heard what was taken from its line
in the course of them, and nothing else. So the laws of lines become laws of observers.
-/

namespace BrokerMonitor

namespace StatusBoard

variable (b : StatusBoard)

theorem length_report (r : Report) : (b.report r).listeners.length = b.listeners.length := by
  unfold report
  split
  · exact List.length_map _
  · rfl

theorem length_reportAll (reports : List Report) :
    (b.reportAll reports).listeners.length = b.listeners.length := by
  induction reports generalizing b with
  | nil => rfl
  | cons r rest ih => exact (ih _).trans (b.length_report r)

theorem length_take (i : Nat) : (b.take i).1.listeners.length = b.listeners.length := by
  unfold take
  split
  · exact List.length_set
  · rfl

end StatusBoard

namespace Monitor

variable {m m' : Monitor}

/-! ### Everybody has a line -/

/-- Each observer has a line of its own, the one at its place. -/
structure Lined (m : Monitor) : Prop where
  line : ∀ (k : Nat) (o : Observer), m.observers[k]? = some o → o.line = k
  length : m.board.listeners.length = m.observers.length

namespace Lined

theorem initial (rate : Option UInt32) : (Monitor.initial rate).Lined where
  line _ _ ho := nomatch ho
  length := rfl

theorem modify (h : m.Lined) (k : Nat) {f : Observer → Observer} (hf : ∀ o, (f o).line = o.line) :
    ({ m with observers := m.observers.modify k f } : Monitor).Lined := by
  refine ⟨?_, by simpa using h.length⟩
  intro j o ho
  rw [List.getElem?_modify] at ho
  obtain ⟨o', ho', rfl⟩ := Option.map_eq_some_iff.mp ho
  have hline := h.line j o' ho'
  split
  · exact (hf o').trans hline
  · exact hline

theorem observe (h : m.Lined) : m.observe.1.Lined := by
  refine ⟨?_, ?_⟩
  · intro k o ho
    change (m.observers ++ [{ line := m.board.listeners.length }])[k]? = some o at ho
    rcases Nat.lt_or_ge k m.observers.length with hlt | hge
    · exact h.line k o (List.getElem?_append_left hlt ▸ ho)
    · rw [List.getElem?_append_right hge, List.getElem?_singleton] at ho
      split at ho
      · obtain rfl := Option.some.inj ho
        have hlength : m.board.listeners.length = m.observers.length := h.length
        change m.board.listeners.length = k
        omega
      · cases ho
  · change (m.board.listeners ++ [_]).length = (m.observers ++ [_]).length
    simp [h.length]

theorem runStream (h : m.Lined) (i : Nat) : (m.runStream i).Lined := by
  refine m.runStream_elim i (fun _ => h) fun t ht => ⟨h.line, ?_⟩
  cases ha : t.audience with
  | log => simpa [progress, ha] using h.length
  | board => simpa [progress, ha, StatusBoard.length_reportAll] using h.length

theorem runObserver (h : m.Lined) (k : Nat) : (m.runObserver k).Lined := by
  unfold Monitor.runObserver
  split
  · exact h
  · next o ho =>
      split
      · exact h
      split
      · have h' := h.modify k (f := fun o => { o with finished := true }) fun _ => rfl
        exact ⟨h'.line, by simpa [StatusBoard.unlisten] using h'.length⟩
      · have h' := h.modify k (f := fun o' => { o' with
          heard := o'.heard.add (m.board.take o.line).2, finished := m.boardGone }) fun _ => rfl
        exact ⟨h'.line, (m.board.length_take _).trans h'.length⟩

theorem step (h : m.Lined) (step : m.Step m') : m'.Lined := by
  cases step with
  | offer | send | close | refuse | meetRefusal | readRequests | drop | startOver | startDetached |
    readLog | cancel => exact ⟨h.line, h.length⟩
  | attach => exact ⟨h.line, (List.length_map _).trans h.length⟩
  | observe => exact h.observe
  | unobserve k =>
      have h' := h.modify k (f := fun o => { o with aborted := true }) fun _ => rfl
      exact ⟨h'.line, h'.length⟩
  | @readHeard k o ho =>
      refine ⟨?_, by simpa using h.length⟩
      intro j o' ho'
      obtain ⟨hlt, -⟩ := List.getElem?_eq_some_iff.mp ho
      by_cases hjk : k = j
      · subst hjk
        obtain rfl := Option.some.inj ((List.getElem?_set_self hlt).symm.trans ho')
        exact h.line k o ho
      · exact h.line j o' ((List.getElem?_set_ne hjk) ▸ ho')
  | run j =>
      have h' : ({ m with queue := m.queue.erase j } : Monitor).Lined := ⟨h.line, h.length⟩
      cases j with
      | stream i => exact ⟨(h'.runStream i).line, (h'.runStream i).length⟩
      | observer k => exact ⟨(h'.runObserver k).line, (h'.runObserver k).length⟩

theorem leads (h : m.Lined) (hm : m.Leads m') : m'.Lined := by
  induction hm with
  | refl => exact h
  | tail _ step ih => exact ih.step step

end Lined

/-! ### The events of a run -/

/-- The reports that the board gets from a run of task `i`. -/
def codes (m : Monitor) (i : Nat) : List Report :=
  match m.tasks[i]? with
  | none => []
  | some t =>
    match t.audience with
    | .board => t.passedOn (m.turn t).said
    | .log => []

/-- Whatever the board gets was passed on by a task of the monitor. -/
theorem exists_of_mem_codes {m : Monitor} {i : Nat} {told : Report} (h : told ∈ m.codes i) :
    ∃ t, m.tasks[i]? = some t ∧ t.audience = .board ∧ told ∈ t.passedOn (m.turn t).said := by
  unfold codes at h
  split at h
  · cases h
  · next t ht =>
      split at h
      · next haudience => exact ⟨t, ht, haudience, h⟩
      · cases h

theorem board_runStream (m : Monitor) (i : Nat) :
    (m.runStream i).board = m.board.reportAll (m.codes i) := by
  refine m.runStream_elim i ?_ ?_
  · intro ht
    simp [codes, ht, StatusBoard.reportAll]
  · intro t ht
    cases ha : t.audience <;> simp [progress, progressOf, codes, ht, ha, StatusBoard.reportAll]

theorem board_run_stream (m : Monitor) (i : Nat) :
    (m.run (.stream i)).board = m.board.reportAll (m.codes i) := by
  obtain ⟨queue, hrun⟩ := m.exists_run_stream_eq i
  rw [hrun]
  exact m.board_runStream i

/-- What happens to the board in a run of a task. -/
def boardEvents (m : Monitor) : Job → List StatusBoard.Event
  | .stream i => (m.codes i).map .report
  | .observer k =>
    match m.observers[k]? with
    | none => []
    | some o =>
      if o.finished then [] else if o.aborted then [.unlisten o.line] else [.take o.line]

/-- What happens to the board while jobs are run one after the other. -/
def boardEventsAll (m : Monitor) : List Job → List StatusBoard.Event
  | [] => []
  | j :: js => m.boardEvents j ++ (m.run j).boardEventsAll js

/-- A monitor comes out as `m'` after some events at its board. -/
structure Tracks (m : Monitor) (events : List StatusBoard.Event) (m' : Monitor) : Prop where
  board : m'.board = m.board.afterAll events
  /-- Observer `k` has heard what was taken from its line, and nothing once it was aborted. Only an
  aborted observer's line is dropped. -/
  observer : ∀ (k : Nat) (o : Observer), m.observers[k]? = some o → ∃ o' : Observer,
    m'.observers[k]? = some o' ∧
    o'.heard.entries = o.heard.entries ++ m.board.received k events ∧
    (o.aborted = true → o'.aborted = true ∧ o'.heard.entries = o.heard.entries) ∧
    (.unlisten k ∈ events → o'.aborted = true)

namespace Tracks

variable {first later : List StatusBoard.Event}

/-- Nothing happened to the board, and nobody has heard anything. -/
theorem silent (hboard : m'.board = m.board)
    (hobservers : ∀ (k : Nat) (o : Observer), m.observers[k]? = some o → ∃ o' : Observer,
      m'.observers[k]? = some o' ∧ o'.heard.entries = o.heard.entries ∧
      (o.aborted = true → o'.aborted = true)) : m.Tracks [] m' := by
  refine ⟨hboard, ?_⟩
  intro k o ho
  obtain ⟨o', ho', hheard, haborted⟩ := hobservers k o ho
  exact ⟨o', ho', by simp [hheard, StatusBoard.received], fun h => ⟨haborted h, hheard⟩,
    fun h => nomatch h⟩

/-- Something happened to the board, and the observers are as they were. -/
theorem of_board {e : StatusBoard.Event} (hboard : m'.board = m.board.after e)
    (hobservers : ∀ (k : Nat) (o : Observer), m.observers[k]? = some o → m'.observers[k]? = some o)
    (htake : ∀ k, e ≠ .take k) (hkept : ∀ k, e ≠ .unlisten k) : m.Tracks [e] m' := by
  refine ⟨hboard, ?_⟩
  intro k o ho
  have hnothing : m.board.received k [e] = [] := by
    apply StatusBoard.received_of_not_mem
    simpa using Ne.symm (htake k)
  exact ⟨o, hobservers k o ho, by simp [hnothing], fun h => ⟨h, rfl⟩,
    fun h => absurd (List.mem_singleton.mp h).symm (hkept k)⟩

theorem trans {m'' : Monitor} (h : m.Tracks first m') (h' : m'.Tracks later m'') :
    m.Tracks (first ++ later) m'' := by
  refine ⟨?_, ?_⟩
  · rw [h'.board, h.board, StatusBoard.afterAll_append]
  · intro k o ho
    obtain ⟨o', ho', hheard, haborted, hdropped⟩ := h.observer k o ho
    obtain ⟨o'', ho'', hheard', haborted', hdropped'⟩ := h'.observer k o' ho'
    refine ⟨o'', ho'', ?_, ?_, ?_⟩
    · rw [hheard', hheard, h.board, StatusBoard.received_append, List.append_assoc]
    · intro hab
      obtain ⟨hab', hsame⟩ := haborted hab
      exact ⟨(haborted' hab').1, (haborted' hab').2.trans hsame⟩
    · intro hmem
      rcases List.mem_append.mp hmem with hmem | hmem
      · exact (haborted' (hdropped hmem)).1
      · exact hdropped' hmem

end Tracks

theorem tracks_runStream (m : Monitor) (i : Nat) :
    m.Tracks ((m.codes i).map .report) (m.runStream i) := by
  refine ⟨?_, ?_⟩
  · rw [board_runStream, StatusBoard.afterAll_report]
  · intro k o ho
    have hnothing : m.board.received k ((m.codes i).map .report) = [] :=
      StatusBoard.received_of_not_mem (by simp)
    exact ⟨o, by simpa using ho, by simp [hnothing], fun h => ⟨h, rfl⟩, by simp⟩

theorem tracks_runObserver (hm : m.Lined) (j : Nat) :
    m.Tracks (m.boardEvents (.observer j)) (m.runObserver j) := by
  cases hj : m.observers[j]? with
  | none =>
      simp only [boardEvents, runObserver, hj]
      exact .silent rfl fun k o ho => ⟨o, ho, rfl, id⟩
  | some p =>
      have hline : p.line = j := hm.line j p hj
      simp only [boardEvents, runObserver, hj, hline]
      split
      · exact .silent rfl fun k o ho => ⟨o, ho, rfl, id⟩
      split
      · next haborted =>
          refine ⟨rfl, ?_⟩
          intro k o ho
          have hnothing : m.board.received k [.unlisten j] = [] :=
            StatusBoard.received_of_not_mem (by simp)
          rw [hnothing, List.append_nil]
          by_cases hjk : j = k
          · subst hjk
            obtain rfl := Option.some.inj (hj.symm.trans ho)
            exact ⟨{ p with finished := true }, by simp [hj], rfl, fun h => ⟨h, rfl⟩,
              fun _ => haborted⟩
          · exact ⟨o, by simpa [List.getElem?_modify, hjk] using ho, rfl, fun h => ⟨h, rfl⟩,
              fun h => absurd (by simpa using h) (Ne.symm hjk)⟩
      · next haborted =>
          refine ⟨rfl, ?_⟩
          intro k o ho
          by_cases hjk : j = k
          · subst hjk
            obtain rfl := Option.some.inj (hj.symm.trans ho)
            refine ⟨{ p with heard := p.heard.add (m.board.take j).2, finished := m.boardGone },
              by simp [hj], by simp [StatusBoard.received], fun h => absurd h haborted, by simp⟩
          · have hnothing : m.board.received k [.take j] = [] :=
              StatusBoard.received_of_not_mem (by simpa using Ne.symm hjk)
            exact ⟨o, by simpa [List.getElem?_modify, hjk] using ho, by simp [hnothing],
              fun h => ⟨h, rfl⟩, by simp⟩

theorem length_observers_runObserver (m : Monitor) (j : Nat) :
    (m.runObserver j).observers.length = m.observers.length := by
  unfold runObserver
  split
  · rfl
  split
  · rfl
  split <;> exact List.length_modify _ _ _

/-- The run of a task, as the board and the observers see it. -/
theorem tracks_run (hm : m.Lined) (j : Job) : m.Tracks (m.boardEvents j) (m.run j) := by
  have hlined : ({ m with queue := m.queue.erase j } : Monitor).Lined := ⟨hm.line, hm.length⟩
  cases j with
  | stream i =>
      have h := tracks_runStream { m with queue := m.queue.erase (.stream i) } i
      exact ⟨h.board, h.observer⟩
  | observer k =>
      have h := tracks_runObserver hlined k
      exact ⟨h.board, h.observer⟩

theorem tracks_runAll (hm : m.Lined) (js : List Job) :
    m.Tracks (m.boardEventsAll js) (m.runAll js) := by
  induction js generalizing m with
  | nil => exact .silent rfl fun k o ho => ⟨o, ho, rfl, id⟩
  | cons j js ih => exact (tracks_run hm j).trans (ih (hm.step (.run m j)))

theorem tracks_observe (m : Monitor) : m.Tracks [.listen] m.observe.1 := by
  refine .of_board rfl ?_ (by simp) (by simp)
  intro k o ho
  obtain ⟨hlt, -⟩ := List.getElem?_eq_some_iff.mp ho
  exact (List.getElem?_append_left hlt).trans ho

theorem tracks_attach (m : Monitor) (g : Generation) (h : Option Handle) :
    m.Tracks [.begin g h.isSome] (m.attach g h) :=
  .of_board rfl (fun _ _ ho => ho) (by simp) (by simp)

theorem tracks_unobserve (m : Monitor) (i : Nat) : m.Tracks [] (m.unobserve i) := by
  refine .silent rfl ?_
  intro k o ho
  by_cases hik : i = k
  · subst hik
    exact ⟨{ o with aborted := true }, by simp [unobserve, enqueueReady, ho], rfl, fun _ => rfl⟩
  · exact ⟨o, by simpa [unobserve, enqueueReady, List.getElem?_modify, hik] using ho, rfl, id⟩

theorem tracks_readHeard {i : Nat} {o : Observer} (ho : m.observers[i]? = some o) :
    m.Tracks [] { m with observers := m.observers.set i { o with heard := o.heard.read.1 } } := by
  refine .silent rfl ?_
  intro k p hp
  by_cases hik : i = k
  · subst hik
    obtain rfl := Option.some.inj (ho.symm.trans hp)
    obtain ⟨hlt, -⟩ := List.getElem?_eq_some_iff.mp ho
    exact ⟨{ o with heard := o.heard.read.1 }, List.getElem?_set_self hlt, rfl, id⟩
  · exact ⟨p, (List.getElem?_set_ne hik).trans hp, rfl, id⟩

end Monitor

end BrokerMonitor
