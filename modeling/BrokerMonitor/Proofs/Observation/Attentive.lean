import BrokerMonitor.Proofs.Generation.Lockstep
import BrokerMonitor.Proofs.Observation.Observer
/-!
# Observers that nobody has aborted

An observer that nobody has aborted keeps its line. What it has heard and what waits in the line end
with the current status, and it ends only when the board is gone and nothing is left for it. The
board is gone once the monitor has been dropped and its tasks have ended, and it never comes back.
-/

namespace BrokerMonitor

namespace Monitor

variable {m m' : Monitor}

/-! ### The end of the board -/

theorem boardGone_iff : m.boardGone = true ↔
    m.alive = false ∧ ∀ t ∈ m.tasks, t.audience = .board → t.hasEnded = true := by
  have hor (a b : Bool) : (!a || b) = true ↔ (a = true → b = true) := by cases a <;> simp
  simp [boardGone, bne, hor]

/-- When the board is gone, no task reports to it. -/
theorem codes_of_boardGone (h : m.boardGone = true) (i : Nat) : m.codes i = [] := by
  unfold codes
  split
  · rfl
  · next t ht =>
      split
      · next haudience =>
          have hended := (boardGone_iff.mp h).2 t (List.mem_of_getElem? ht) haudience
          simp [turn, StreamTask.turn, hended, StreamTask.passedOn]
      · rfl

/-- The status is computed anew only by what generations and reports do. -/
theorem recomputed_boardEvents_observer (m : Monitor) (k : Nat) (s : BrokerStatus) :
    s.recomputed (m.boardEvents (.observer k)) = [] := by
  unfold boardEvents
  dsimp only
  split
  · rfl
  split
  · rfl
  split <;> rfl

/-- Every step is a series of events for the board and the observers, and none of them computes a
status once the board is gone. -/
theorem Step.exists_tracks (hm : m.Lined) (h : m.Step m') :
    ∃ events, m.Tracks events m' ∧ (m.boardGone = true → m.status.recomputed events = []) := by
  cases h with
  | attach hg hh alive =>
      refine ⟨_, m.tracks_attach _ _, fun hgone => ?_⟩
      rw [(boardGone_iff.mp hgone).1] at alive
      cases alive
  | observe => exact ⟨_, m.tracks_observe, fun _ => rfl⟩
  | unobserve i => exact ⟨_, m.tracks_unobserve i, fun _ => rfl⟩
  | readHeard ho => exact ⟨_, tracks_readHeard ho, fun _ => rfl⟩
  | run j =>
      refine ⟨_, tracks_run hm j, fun hgone => ?_⟩
      cases j with
      | stream i => simp [boardEvents, codes_of_boardGone hgone, BrokerStatus.recomputed]
      | observer k => exact m.recomputed_boardEvents_observer k _
  | _ => exact ⟨_, .silent rfl fun k o ho => ⟨o, ho, rfl, id⟩, fun _ => rfl⟩

/-- What is done to tasks from outside does not bring the board back. -/
theorem boardGone_of_map_core (h : m.boardGone = true) (halive : m'.alive = false)
    (htasks : m'.tasks.map StreamTask.core = m.tasks.map StreamTask.core) :
    m'.boardGone = true := by
  refine boardGone_iff.mpr ⟨halive, ?_⟩
  intro u hu haudience
  obtain ⟨i, hi⟩ := List.mem_iff_getElem?.mp hu
  obtain ⟨t, ht, hcore⟩ := StreamTask.exists_getElem?_of_map htasks hi
  have hended : t.core.audience = .board → t.core.hasEnded = true :=
    (boardGone_iff.mp h).2 t (List.mem_of_getElem? ht)
  rw [hcore] at hended
  exact hended haudience

/-- A board that is gone does not come back. -/
theorem Step.boardGone (h : m.Step m') (hgone : m.boardGone = true) : m'.boardGone = true := by
  have halive := (boardGone_iff.mp hgone).1
  cases h with
  | attach _ _ alive | startOver _ _ alive | startDetached _ _ alive =>
      rw [halive] at alive
      cases alive
  | drop => exact boardGone_of_map_core hgone rfl m.map_core_abandonTasks
  | readLog ht => exact boardGone_of_map_core hgone halive (StreamTask.map_set ht rfl)
  | cancel i =>
      exact boardGone_of_map_core hgone halive
        (StreamTask.map_modify m.tasks i fun t => (rfl : t.cancel.core = t.core))
  | run j =>
      cases j with
      | observer k =>
          obtain ⟨board, observers, queue, hrun, -⟩ := m.exists_run_observer_eq k
          rw [hrun]
          exact hgone
      | stream i =>
          obtain ⟨queue, hrun⟩ := m.exists_run_stream_eq i
          rw [hrun]
          change (m.runStream i).boardGone = true
          refine m.runStream_elim i (fun _ => hgone) fun t ht => boardGone_iff.mpr ⟨halive, ?_⟩
          intro u hu haudience
          rcases List.mem_or_eq_of_mem_set hu with hu | rfl
          · exact (boardGone_iff.mp hgone).2 u hu haudience
          · have hended : t.hasEnded = true :=
              (boardGone_iff.mp hgone).2 t (List.mem_of_getElem? ht) haudience
            rw [turn_of_hasEnded _ hended]
            exact hended
  | _ => exact hgone

/-! ### Attention -/

/-- What observers can rely on. -/
structure Attentive (m : Monitor) : Prop where
  lined : m.Lined
  /-- An observer that nobody has aborted keeps its line, and the last that it has heard or that
  waits for it is the current status. -/
  current : ∀ (k : Nat) (o : Observer), m.observers[k]? = some o → o.aborted = false →
    ∃ inbox, m.board.Holds k inbox ∧ (o.heard.entries ++ inbox).getLast? = some m.status
  /-- It has ended only if nothing more can come, and it has heard everything. -/
  drained : ∀ (k : Nat) (o : Observer), m.observers[k]? = some o → o.aborted = false →
    o.finished = true → m.boardGone = true ∧ m.board.Holds k []

/-- An observer that nobody has aborted has heard what was in its line and what was computed, but
for what waits in the line. -/
theorem Tracks.complete {events : List StatusBoard.Event} (h : m.Tracks events m') {k : Nat}
    {o o' : Observer} (ho : m.observers[k]? = some o) (ho' : m'.observers[k]? = some o')
    (haborted : o'.aborted = false) {inbox : List BrokerStatus} (hline : m.board.Holds k inbox) :
    ∃ inbox', m'.board.Holds k inbox' ∧
      o'.heard.entries ++ inbox' =
        o.heard.entries ++ inbox ++ m.status.recomputed events := by
  obtain ⟨p, hp, hheard, -, hdropped⟩ := h.observer k o ho
  obtain rfl := Option.some.inj (hp.symm.trans ho')
  have hkept : .unlisten k ∉ events := fun hmem => by simp [hdropped hmem] at haborted
  obtain ⟨inbox', hline', hall⟩ := hline.afterAll hkept
  refine ⟨inbox', h.board ▸ hline', ?_⟩
  rw [hheard, List.append_assoc, hall, List.append_assoc]
  rfl

/-- An abort is for ever. -/
theorem Tracks.aborted {events : List StatusBoard.Event} (h : m.Tracks events m') {k : Nat}
    {o o' : Observer} (ho : m.observers[k]? = some o) (ho' : m'.observers[k]? = some o')
    (haborted : o'.aborted = false) : o.aborted = false := by
  obtain ⟨p, hp, -, hmono, -⟩ := h.observer k o ho
  obtain rfl := Option.some.inj (hp.symm.trans ho')
  by_contra hab
  have := (hmono (by simpa using hab)).1
  simp [this] at haborted

/-- Observers are only ever added, one by one. -/
theorem Step.length_observers (h : m.Step m') :
    m' = m.observe.1 ∨ m'.observers.length = m.observers.length := by
  cases h with
  | observe => exact .inl rfl
  | unobserve => exact .inr (List.length_modify _ _ _)
  | readHeard => exact .inr List.length_set
  | run j =>
      refine .inr ?_
      cases j with
      | stream i => exact congrArg List.length (m.observers_run_stream i)
      | observer k => exact length_observers_runObserver { m with queue := _ } k
  | _ => exact .inr rfl

/-- An observer that has ended in its run found the board gone, and took what was in its line. -/
theorem finished_runObserver (hm : m.Lined) {j k : Nat} {o' : Observer}
    (ho' : (m.runObserver j).observers[k]? = some o') (haborted : o'.aborted = false)
    (hfinished : o'.finished = true) :
    (∃ o, m.observers[k]? = some o ∧ o.aborted = false ∧ o.finished = true) ∨
      ((m.runObserver j).boardGone = true ∧ (m.runObserver j).board.inbox k = []) := by
  unfold runObserver at ho' ⊢
  split at ho'
  · exact .inl ⟨o', ho', haborted, hfinished⟩
  · next p hp =>
      split at ho'
      · exact .inl ⟨o', ho', haborted, hfinished⟩
      · next hrunning =>
          by_cases hjk : j = k
          · subst hjk
            split at ho'
            · next hab =>
                obtain rfl : _ = o' := by simpa [hp] using ho'
                exact absurd hab (by simpa using haborted)
            · next hab =>
                obtain rfl : _ = o' := by simpa [hp] using ho'
                have hline : p.line = j := hm.line j p hp
                refine .inr ?_
                simp only [hrunning, hab, hline]
                exact ⟨hfinished, m.board.inbox_take j⟩
          · refine .inl ⟨o', ?_, haborted, hfinished⟩
            split at ho' <;> simpa [List.getElem?_modify, hjk] using ho'

/-- An observer that has ended had ended before, or it has ended in this step, with the board gone
and nothing left in its line. -/
theorem Step.finished (hm : m.Lined) (h : m.Step m') {k : Nat} {o' : Observer}
    (ho' : m'.observers[k]? = some o') (haborted : o'.aborted = false)
    (hfinished : o'.finished = true) :
    (∃ o, m.observers[k]? = some o ∧ o.aborted = false ∧ o.finished = true) ∨
      (m'.boardGone = true ∧ m'.board.inbox k = []) := by
  cases h with
  | observe =>
      change (m.observers ++ [_])[k]? = some o' at ho'
      rcases Nat.lt_or_ge k m.observers.length with hlt | hge
      · exact .inl ⟨o', List.getElem?_append_left hlt ▸ ho', haborted, hfinished⟩
      · rw [List.getElem?_append_right hge, List.getElem?_singleton] at ho'
        split at ho'
        · obtain rfl := Option.some.inj ho'
          cases hfinished
        · cases ho'
  | unobserve i =>
      change (m.observers.modify i _)[k]? = some o' at ho'
      rw [List.getElem?_modify] at ho'
      obtain ⟨o, ho, rfl⟩ := Option.map_eq_some_iff.mp ho'
      by_cases hik : i = k
      · simp [hik] at haborted
      · simp only [hik, if_false] at haborted hfinished
        exact .inl ⟨o, ho, haborted, hfinished⟩
  | @readHeard i o ho =>
      by_cases hik : i = k
      · subst hik
        obtain ⟨hlt, -⟩ := List.getElem?_eq_some_iff.mp ho
        obtain rfl := Option.some.inj ((List.getElem?_set_self hlt).symm.trans ho')
        exact .inl ⟨o, ho, haborted, hfinished⟩
      · exact .inl ⟨o', (List.getElem?_set_ne hik) ▸ ho', haborted, hfinished⟩
  | run j =>
      cases j with
      | stream i => exact .inl ⟨o', m.observers_run_stream i ▸ ho', haborted, hfinished⟩
      | observer j =>
          exact finished_runObserver (m := { m with queue := m.queue.erase (.observer j) })
            ⟨hm.line, hm.length⟩ ho' haborted hfinished
  | _ => exact .inl ⟨o', ho', haborted, hfinished⟩

namespace Attentive

theorem initial (rate : Option UInt32) : (Monitor.initial rate).Attentive where
  lined := .initial rate
  current _ _ ho := nomatch ho
  drained _ _ ho := nomatch ho

/-- Events at the board keep an observer's line up to date. -/
theorem current_of_tracks (h : m.Attentive) {events : List StatusBoard.Event}
    (ht : m.Tracks events m') {k : Nat} {o o' : Observer} (ho : m.observers[k]? = some o)
    (ho' : m'.observers[k]? = some o') (haborted : o'.aborted = false) :
    ∃ inbox, m'.board.Holds k inbox ∧ (o'.heard.entries ++ inbox).getLast? = some m'.status := by
  obtain ⟨inbox, hline, hlast⟩ := h.current k o ho (ht.aborted ho ho' haborted)
  obtain ⟨inbox', hline', hall⟩ := ht.complete ho ho' haborted hline
  refine ⟨inbox', hline', ?_⟩
  have hstatus : m'.status = (m.status.recomputed events).getLast?.getD m.status := by
    have := StatusBoard.current_afterAll m.board events
    rw [← ht.board] at this
    exact this
  rw [hall, List.getLast?_append, hlast, hstatus]
  cases (m.status.recomputed events).getLast? <;> rfl

theorem observe (h : m.Attentive) : m.observe.1.Attentive := by
  have hstep : m.Step m.observe.1 := .observe m
  have hcases : ∀ (k : Nat) (o : Observer), m.observe.1.observers[k]? = some o →
      m.observers[k]? = some o ∨
        k = m.observers.length ∧ o = { line := m.board.listeners.length } := by
    intro k o ho
    change (m.observers ++ [_])[k]? = some o at ho
    rcases Nat.lt_or_ge k m.observers.length with hlt | hge
    · exact .inl (List.getElem?_append_left hlt ▸ ho)
    · rw [List.getElem?_append_right hge, List.getElem?_singleton] at ho
      split at ho
      · exact .inr ⟨by omega, (Option.some.inj ho).symm⟩
      · cases ho
  refine ⟨h.lined.step hstep, ?_, ?_⟩
  · intro k o ho haborted
    rcases hcases k o ho with hold | ⟨rfl, rfl⟩
    · exact h.current_of_tracks m.tracks_observe hold ho haborted
    · refine ⟨[m.status], ?_, rfl⟩
      have hline := StatusBoard.Holds.listen m.board
      rw [h.lined.length] at hline
      exact hline
  · intro k o ho haborted hfinished
    rcases hcases k o ho with hold | ⟨-, rfl⟩
    · obtain ⟨hgone, hline⟩ := h.drained k o hold haborted hfinished
      refine ⟨hstep.boardGone hgone, ?_⟩
      obtain ⟨hlt, -⟩ := List.getElem?_eq_some_iff.mp hline
      exact (List.getElem?_append_left hlt).trans hline
    · cases hfinished

theorem step (h : m.Attentive) (step : m.Step m') : m'.Attentive := by
  rcases step.length_observers with rfl | hlength
  · exact h.observe
  · obtain ⟨events, ht, hnothing⟩ := step.exists_tracks h.lined
    have hold : ∀ (k : Nat) (o' : Observer), m'.observers[k]? = some o' →
        ∃ o, m.observers[k]? = some o := by
      intro k o' ho'
      obtain ⟨hlt, -⟩ := List.getElem?_eq_some_iff.mp ho'
      exact ⟨_, List.getElem?_eq_getElem (hlength ▸ hlt)⟩
    refine ⟨h.lined.step step, ?_, ?_⟩
    · intro k o' ho' haborted
      obtain ⟨o, ho⟩ := hold k o' ho'
      exact h.current_of_tracks ht ho ho' haborted
    · intro k o' ho' haborted hfinished
      obtain ⟨o, ho⟩ := hold k o' ho'
      obtain ⟨inbox, hline, -⟩ := h.current_of_tracks ht ho ho' haborted
      rcases step.finished h.lined ho' haborted hfinished with ⟨p, hp, hab, hfin⟩ | ⟨hgone, hinbox⟩
      · -- It had ended before, with an empty line, and then nothing was computed for the line.
        obtain ⟨hgone, hempty⟩ := h.drained k p hp hab hfin
        obtain ⟨inbox', hline', hall⟩ := ht.complete hp ho' haborted hempty
        obtain ⟨q, hq, hheard, -⟩ := ht.observer k p hp
        obtain rfl := Option.some.inj (hq.symm.trans ho')
        rw [hnothing hgone, hheard, List.append_nil, List.append_nil, List.append_assoc,
          List.append_right_eq_self] at hall
        obtain ⟨-, rfl⟩ := List.append_eq_nil_iff.mp hall
        exact ⟨step.boardGone hgone, hline'⟩
      · refine ⟨hgone, ?_⟩
        rw [hline.inbox_eq] at hinbox
        exact hinbox ▸ hline

theorem leads (h : m.Attentive) (hm : m.Leads m') : m'.Attentive := by
  induction hm with
  | refl => exact h
  | tail _ step ih => exact ih.step step

/-- Nothing waits for an observer that is neither aborted nor ready. -/
theorem holds_nil_of_not_ready (h : m.Attentive) {k : Nat} {o : Observer}
    (ho : m.observers[k]? = some o) (haborted : o.aborted = false)
    (hready : m.isReady (.observer k) = false) : m.board.Holds k [] := by
  cases hfinished : o.finished with
  | true => exact (h.drained k o ho haborted hfinished).2
  | false =>
      obtain ⟨inbox, hline, -⟩ := h.current k o ho haborted
      have hnothing : inbox = [] ∧ m.boardGone = false := by
        simpa [isReady, ho, observerReady, hfinished, haborted, h.lined.line k o ho,
          hline.inbox_eq] using hready
      exact hnothing.1 ▸ hline

end Attentive

end Monitor

end BrokerMonitor
