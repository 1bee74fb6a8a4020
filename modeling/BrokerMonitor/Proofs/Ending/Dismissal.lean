import BrokerMonitor.Proofs.Observation.Coalesced
import BrokerMonitor.Proofs.Schedule.Rest
/-!
# The end of the monitor's own tasks

When the monitor is dropped all its tasks are aborted, so that nothing is reported any more and the
status stays as it is. Once everything has settled they have ended: the board is gone, and what is
still open is read by clients. An observer that was not aborted has then heard everything, and has
finished, which it stays.
-/

namespace BrokerMonitor

namespace Monitor

variable {m m' : Monitor} {i k : Nat} {t : StreamTask} {o : Observer} {id : FeedId}

theorem Staffed.step (h : m.Staffed) (hm : m.Reachable) (step : m.Step m') : m'.Staffed := by
  have hclient : m.alive = true → ∀ c : StreamTask, c.audience = .log →
      (m.startClient c).1.Staffed := by
    intro alive c haudience
    refine ⟨fun u hu hheeds => ?_, fun dropped => ?_⟩
    · rcases List.mem_append.mp hu with hold | hnew
      · exact h.posted u hold hheeds
      · obtain rfl := List.mem_singleton.mp hnew
        exact absurd (haudience.symm.trans hheeds.1) nofun
    · exact absurd (alive.symm.trans dropped) nofun
  cases step with
  | attach hg _ alive => exact .attach hm.exact.lockstep hg alive
  | drop => exact h.drop hm.retired
  | startOver r k alive => exact hclient alive _ rfl
  | startDetached r g alive => exact hclient alive _ rfl
  | readLog ht => exact h.of_map_post rfl rfl rfl (StreamTask.map_set ht rfl)
  | cancel i =>
      exact h.of_map_post rfl rfl rfl
        (StreamTask.map_modify m.tasks i fun t => (rfl : t.cancel.post = t.post))
  | run j => exact h.run j
  | _ => exact ⟨h.posted, h.dismissed⟩

theorem Reachable.leads (h : m.Reachable) (hm : m.Leads m') : m'.Reachable := by
  obtain ⟨rate, hstart⟩ := h
  exact ⟨rate, hstart.trans hm⟩

theorem Reachable.staffed (h : m.Reachable) : m.Staffed := by
  obtain ⟨rate, hm⟩ := h
  induction hm with
  | refl => exact .initial rate
  | tail hn step ih => exact ih.step ⟨rate, hn⟩ step

theorem dropped_of_leads (h : m.Leads m') (dropped : m.alive = false) : m'.alive = false := by
  by_contra hnot
  have alive := alive_of_leads h (by simpa using hnot)
  exact absurd (alive.symm.trans dropped) nofun

/-! ### The last status -/

/-- Whoever was aborted reports nothing. -/
theorem codes_of_dropped (h : m.Staffed) (dropped : m.alive = false) (i : Nat) :
    m.codes i = [] := by
  unfold codes
  split
  · rfl
  · next t ht =>
      split
      · next haudience =>
          have haborted := h.dismissed dropped t (List.mem_of_getElem? ht) haudience
          rw [(nothing_of_aborted m haborted).2]
          rfl
      · rfl

theorem status_runObserver (m : Monitor) (k : Nat) :
    (m.runObserver k).board.status = m.board.status := by
  unfold runObserver
  split
  · rfl
  split
  · rfl
  split
  · rfl
  · show (m.board.take _).1.status = m.board.status
    unfold StatusBoard.take
    split <;> rfl

/-- Nothing is announced after the drop. -/
theorem Step.status_of_dropped (step : m.Step m') (hm : m.Reachable) (dropped : m.alive = false) :
    m'.board.status = m.board.status := by
  cases step with
  | attach _ _ alive => exact absurd (alive.symm.trans dropped) nofun
  | run j =>
      cases j with
      | stream i => rw [m.board_run_stream i, codes_of_dropped hm.staffed dropped]; rfl
      | observer k => exact status_runObserver { m with queue := _ } k
  | _ => rfl

theorem status_of_dropped (hm : m.Reachable) (h : m.Leads m') (dropped : m.alive = false) :
    m'.board.status = m.board.status := by
  induction h with
  | refl => rfl
  | tail hn step ih =>
      exact (step.status_of_dropped (hm.leads hn) (dropped_of_leads hn dropped)).trans ih

/-- Where nothing was announced, nothing was computed. -/
theorem Tracks.recomputed_eq_nil {events : List StatusBoard.Event} (h : m.Tracks events m')
    (hsame : m'.board.status = m.board.status) : m.status.recomputed events = [] := by
  have hversion := m.board.version_afterAll events
  rw [← h.board, hsame, Nat.left_eq_add] at hversion
  exact List.eq_nil_of_length_eq_zero hversion

/-! ### The tasks and their feeds -/

/-- Once everything has settled after the drop the board is gone. -/
theorem AtRest.boardGone (h : m.AtRest) (hm : m.Reachable) (dropped : m.alive = false) :
    m.boardGone = true := by
  refine boardGone_iff.mpr ⟨dropped, fun t ht haudience => ?_⟩
  by_contra hended
  obtain ⟨i, hi⟩ := List.mem_iff_getElem?.mp ht
  obtain ⟨-, haborted, -⟩ := h.tasks i t hi (by simpa using hended)
  have hdismissed := hm.staffed.dismissed dropped t ht haudience
  exact absurd (haborted.symm.trans hdismissed) nofun

theorem boardGone_of_leads (h : m.Leads m') (hgone : m.boardGone = true) : m'.boardGone = true := by
  induction h with
  | refl => exact hgone
  | tail _ step ih => exact step.boardGone ih

/-- Whoever has ended has left the feed that it had opened. -/
theorem HeldOrLeft.isLeft (h : m.HeldOrLeft id i) (ht : m.tasks[i]? = some t)
    (hended : t.hasEnded = true) : m.IsLeft id := by
  refine h.resolve_left ?_
  rintro ⟨u, hu, -, hfeed⟩
  obtain rfl := Option.some.inj (ht.symm.trans hu)
  rw [StreamTask.hasEnded_of_reading (feed?_eq_some_iff.mp hfeed)] at hended
  cases hended

/-- What is open after the board is gone is read by a client that still runs. -/
theorem Manned.exists_client (h : m.Manned) (hgone : m.boardGone = true) (hopen : m.IsOpen id) :
    ∃ (i : Nat) (t : StreamTask), m.tasks[i]? = some t ∧ t.audience = .log ∧ t.hasEnded = false ∧
      t.resource = id.resource ∧ t.feed? = some id.place := by
  obtain ⟨i, t, ht, hresource, hfeed⟩ := h id hopen
  have hrunning := StreamTask.hasEnded_of_reading (feed?_eq_some_iff.mp hfeed)
  refine ⟨i, t, ht, ?_, hrunning, hresource, hfeed⟩
  cases haudience : t.audience with
  | log => rfl
  | board =>
      have hended := (boardGone_iff.mp hgone).2 t (List.mem_of_getElem? ht) haudience
      exact absurd (hrunning.symm.trans hended) nofun

/-! ### Observers -/

/-- An observer that has finished stays so, and hears nothing more. -/
theorem Step.stays_finished (step : m.Step m') (ho : m.observers[k]? = some o)
    (hfinished : o.finished = true) : ∃ o', m'.observers[k]? = some o' ∧ o'.finished = true ∧
      o'.heard.entries = o.heard.entries := by
  have hsame : ∀ {n : Monitor}, n.observers = m.observers → ∃ o', n.observers[k]? = some o' ∧
      o'.finished = true ∧ o'.heard.entries = o.heard.entries := by
    intro n hn
    exact ⟨o, by rw [hn, ho], hfinished, rfl⟩
  obtain ⟨hlt, -⟩ := List.getElem?_eq_some_iff.mp ho
  cases step with
  | observe => exact ⟨o, (List.getElem?_append_left hlt).trans ho, hfinished, rfl⟩
  | unobserve l =>
      by_cases hlk : l = k
      · subst hlk
        exact ⟨{ o with aborted := true }, by simp [Monitor.unobserve, Monitor.enqueueReady, ho],
          hfinished, rfl⟩
      · exact ⟨o, by simp [Monitor.unobserve, Monitor.enqueueReady, hlk, ho], hfinished, rfl⟩
  | @readHeard l p hp =>
      by_cases hlk : l = k
      · subst hlk
        obtain rfl := Option.some.inj (hp.symm.trans ho)
        exact ⟨_, List.getElem?_set_self hlt, hfinished, rfl⟩
      · exact ⟨o, (List.getElem?_set_ne hlk).trans ho, hfinished, rfl⟩
  | run j =>
      cases j with
      | stream i => exact hsame (m.observers_run_stream i)
      | observer l =>
          let n : Monitor := { m with queue := m.queue.erase (.observer l) }
          suffices hrun : (n.runObserver l).observers[k]? = some o from ⟨o, hrun, hfinished, rfl⟩
          unfold runObserver
          split
          · exact ho
          · next p hp =>
              split
              · exact ho
              · next hrunning =>
                  have hlk : l ≠ k := by
                    rintro rfl
                    obtain rfl := Option.some.inj (hp.symm.trans ho)
                    exact hrunning hfinished
                  split <;> simpa [List.getElem?_modify, hlk] using ho
  | _ => exact hsame rfl

theorem stays_finished (h : m.Leads m') (ho : m.observers[k]? = some o)
    (hfinished : o.finished = true) : ∃ o', m'.observers[k]? = some o' ∧ o'.finished = true ∧
      o'.heard.entries = o.heard.entries := by
  induction h with
  | refl => exact ⟨o, ho, hfinished, rfl⟩
  | tail _ step ih =>
      obtain ⟨p, hp, hpfinished, hpheard⟩ := ih
      obtain ⟨o', ho', hfinished', hheard⟩ := step.stays_finished hp hpfinished
      exact ⟨o', ho', hfinished', hheard.trans hpheard⟩

/-- When nothing is left to do and the board is gone, all observers have finished. -/
theorem AtRest.finished (h : m.AtRest) (hgone : m.boardGone = true)
    (ho : m.observers[k]? = some o) : o.finished = true := by
  have hidle := h.idle (.observer k)
  simpa [isReady, ho, observerReady, hgone] using hidle

end Monitor

namespace Session

variable {s : Session} {k : Nat} {o : Observer}

/-- What an observer that nobody has aborted was sent since it was registered. -/
theorem exists_observer_actAll (hs : s.monitor.Reachable) (alive : s.monitor.alive = true)
    (name : String) (later : List Action) :
    let observed := (s.act (.subscriber (.observe name))).1
    let after := observed.actAll later
    let k := s.monitor.observers.length
    ∃ o, after.monitor.observers[k]? = some o ∧ (o.aborted = false →
      ∃ inbox, after.monitor.board.Holds k inbox ∧ o.heard.entries ++ inbox =
        s.monitor.status :: s.monitor.status.recomputed (observed.boardEventsAlong later)) := by
  intro observed after k
  have hobserved : observed =
      { s with monitor := s.monitor.observe.1, observers := s.observers.put name k } :=
    s.act_observe alive name
  have hobserver : observed.monitor.observers[k]? =
      some { line := s.monitor.board.listeners.length } := by
    rw [hobserved]
    exact List.getElem?_concat_length
  have hline : observed.monitor.board.Holds k [s.monitor.status] := by
    have h := StatusBoard.Holds.listen s.monitor.board
    rw [hs.attentive.lined.length] at h
    rw [hobserved]
    exact h
  have hlined : observed.monitor.Lined := hs.attentive.lined.leads (s.monitor_leads_act _)
  have htracks := tracks_actAll hlined later
  obtain ⟨o, ho, -⟩ := htracks.observer k _ hobserver
  refine ⟨o, ho, fun haborted => ?_⟩
  obtain ⟨inbox, hafter, hall⟩ := htracks.complete hobserver ho haborted hline
  refine ⟨inbox, hafter, hall.trans ?_⟩
  rw [hobserved]
  rfl

/-! ### The drop -/

/-- The monitor is dropped, and everything settles. -/
def windUp (s : Session) : Session := s.actAll [.connection .drop, .settle]

theorem leads_windUp (s : Session) : s.Leads s.windUp := s.leads_actAll _

/-- Whether it was dropped before or not, the monitor is dropped now, with the status and the
generation that it had. -/
theorem dropped_act_drop (s : Session) :
    (s.act (.connection .drop)).1.monitor.alive = false ∧
      (s.act (.connection .drop)).1.monitor.board = s.monitor.board ∧
      (s.act (.connection .drop)).1.monitor.generation = s.monitor.generation := by
  simp only [act, actConnection]
  split
  · exact ⟨rfl, rfl, rfl⟩
  · next hdropped => exact ⟨by simpa using hdropped, rfl, rfl⟩

theorem atRest_windUp (hs : s.monitor.Reachable) : s.windUp.monitor.AtRest :=
  (hs.leads (s.monitor_leads_act (.connection .drop))).atRest_settle

theorem boardGone_windUp (hs : s.monitor.Reachable) : s.windUp.monitor.boardGone = true := by
  have hleads := (s.act (.connection .drop)).1.monitor_leads_act .settle
  exact (atRest_windUp hs).boardGone (hs.leads (monitor_leads s.leads_windUp))
    (Monitor.dropped_of_leads hleads s.dropped_act_drop.1)

/-- The status stays as it was when the monitor was dropped. -/
theorem status_windUp (hs : s.monitor.Reachable) :
    s.windUp.monitor.board.status = s.monitor.board.status := by
  let dropped := (s.act (.connection .drop)).1
  have hdropped := hs.leads (s.monitor_leads_act (.connection .drop))
  have hsettled := Monitor.status_of_dropped hdropped (dropped.monitor_leads_act .settle)
    s.dropped_act_drop.1
  exact hsettled.trans (congrArg StatusBoard.status s.dropped_act_drop.2.1)

/-- An observer has heard at the end what it was sent before the drop, and has finished. -/
theorem heard_windUp (hs : s.monitor.Reachable) (ho : s.monitor.observers[k]? = some o)
    {complete : List BrokerStatus} (hcomplete : o.aborted = false →
      ∃ inbox, s.monitor.board.Holds k inbox ∧ o.heard.entries ++ inbox = complete) :
    ∃ o', s.windUp.monitor.observers[k]? = some o' ∧ o'.finished = true ∧
      (o'.aborted = false → o'.heard.entries = complete) := by
  have htracks := tracks_actAll hs.attentive.lined [.connection .drop, .settle]
  obtain ⟨o', ho', -⟩ := htracks.observer k o ho
  refine ⟨o', ho', (atRest_windUp hs).finished (boardGone_windUp hs) ho', fun haborted => ?_⟩
  obtain ⟨inbox, hline, hall⟩ := hcomplete (htracks.aborted ho ho' haborted)
  obtain ⟨inbox', hline', hall'⟩ := htracks.complete ho ho' haborted hline
  have hempty : inbox' = [] :=
    hline'.unique (((atRest_windUp hs).observers k o' ho').1 haborted)
  rwa [htracks.recomputed_eq_nil (status_windUp hs), hempty, List.append_nil, List.append_nil,
    hall] at hall'

end Session

end BrokerMonitor
