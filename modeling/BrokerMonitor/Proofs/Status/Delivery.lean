import BrokerMonitor.Proofs.Generation.Openings
import BrokerMonitor.Proofs.Status.Reporting
/-!
# The status is exact wherever it is heard

`Told` follows statuses from the board through the listeners' lines to the observers. What a step
tells anybody is exact for the handle that is then current, so what holds of such statuses holds of
everything that anybody ever hears. In a session this gives each status that was heard a state of
the run in which it was exact.
-/

namespace BrokerMonitor

namespace Monitor

variable {m m' : Monitor} {P Q : BrokerStatus → Prop}

/-- Whatever anybody has heard or will hear of the board satisfies `P`. -/
structure Told (m : Monitor) (P : BrokerStatus → Prop) : Prop where
  board : m.board.Tells P
  heard : ∀ o ∈ m.observers, ∀ s ∈ o.heard.entries, P s

namespace Told

theorem mono (h : m.Told P) (hPQ : ∀ s, P s → Q s) : m.Told Q :=
  ⟨h.board.mono hPQ, fun o ho s hs => hPQ s (h.heard o ho s hs)⟩

theorem observe (h : m.Told P) : m.observe.1.Told P := by
  refine ⟨h.board.listen, ?_⟩
  intro o ho s hs
  rcases List.mem_append.mp ho with ho | ho
  · exact h.heard o ho s hs
  · obtain rfl := List.mem_singleton.mp ho
    cases hs

/-- An observer is changed in a way that it has then heard nothing else. -/
theorem modify_observers (h : m.Told P) {i : Nat} {f : Observer → Observer}
    (hf : ∀ o ∈ m.observers, ∀ s ∈ (f o).heard.entries, P s) :
    ({ m with observers := m.observers.modify i f } : Monitor).Told P := by
  refine ⟨h.board, ?_⟩
  intro o ho s hs
  obtain ⟨j, hj⟩ := List.mem_iff_getElem?.mp ho
  simp only [List.getElem?_modify] at hj
  obtain ⟨k, hk, rfl⟩ := Option.map_eq_some_iff.mp hj
  have hmem := List.mem_of_getElem? hk
  split at hs
  · exact hf k hmem s hs
  · exact h.heard k hmem s hs

theorem runObserver (h : m.Told P) (i : Nat) : (m.runObserver i).Told P := by
  unfold Monitor.runObserver
  split
  · exact h
  · next o ho =>
      split
      · exact h
      split
      · have hboard : ({ m with board := m.board.unlisten o.line } : Monitor).Told P :=
          ⟨h.board.unlisten o.line, h.heard⟩
        exact hboard.modify_observers h.heard
      · obtain ⟨hboard, hsent⟩ := h.board.take o.line
        have htaken : ({ m with board := (m.board.take o.line).1 } : Monitor).Told P :=
          ⟨hboard, h.heard⟩
        refine htaken.modify_observers fun k hk s hs => ?_
        rcases List.mem_append.mp hs with hs | hs
        · exact h.heard k hk s hs
        · exact hsent s hs

theorem runStream (h : m.Told P) (hm : m.Exact) (i : Nat)
    (hP : ∀ s : BrokerStatus, s.Exact m.handle.isSome → s.generation = m.generation → P s) :
    (m.runStream i).Told P := by
  cases ht : m.tasks[i]? with
  | none => simpa [Monitor.runStream, ht] using h
  | some t =>
      obtain ⟨p, hp, hpossible⟩ := exists_runStream_eq_progress ht
      rw [hp]
      refine ⟨?_, h.heard⟩
      by_cases hc : m.Heeds t
      · rw [board_progress hc]
        refine h.board.reportAll (hm.shows ht hc) (hpossible.idle (hm.shown i t ht hc)) ?_
        exact fun s hs hg => hP s hs (hg.trans hc.2)
      · rw [board_progress_of_not_heeds hm.lockstep hc]
        exact h.board

/-- A step tells anybody something new only if it opens a generation or runs a stream task. -/
theorem of_step_cases (h : m.Told P) (step : m.Step m')
    (attach : ∀ g handle, m' = m.attach g handle → P (.begin g handle.isSome))
    (run : ∀ i, m' = m.run (.stream i) → m'.Told P) : m'.Told P := by
  cases step with
  | offer | send | close | refuse | meetRefusal | readRequests | drop | startOver | startDetached |
    readLog | cancel => exact ⟨h.board, h.heard⟩
  | attach => exact ⟨h.board.publish (attach _ _ rfl), h.heard⟩
  | observe => exact h.observe
  | unobserve i =>
      have h' := h.modify_observers (i := i) (f := fun o => { o with aborted := true }) h.heard
      exact ⟨h'.board, h'.heard⟩
  | readHeard ho =>
      refine ⟨h.board, ?_⟩
      intro o' ho' s hs
      rcases List.mem_or_eq_of_mem_set ho' with ho' | rfl
      · exact h.heard o' ho' s hs
      · exact h.heard _ (List.mem_of_getElem? ho) s hs
  | run j =>
      cases j with
      | observer i =>
          have h' : ({ m with queue := m.queue.erase (.observer i) } : Monitor).Told P :=
            ⟨h.board, h.heard⟩
          exact ⟨(h'.runObserver i).board, (h'.runObserver i).heard⟩
      | stream i => exact run i rfl

/-- What a step tells anybody is exact, and of the generation that is then current. -/
theorem step (h : m.Told P) (hm : m.Exact) (step : m.Step m')
    (hP : ∀ s : BrokerStatus, s.Exact m'.handle.isSome → s.generation = m'.generation → P s) :
    m'.Told P := by
  refine h.of_step_cases step ?_ ?_
  · rintro g handle rfl
    exact hP _ (.begin _ _) rfl
  · rintro i rfl
    have hepoch := m.epoch_run (.stream i)
    have hh : (m.run (.stream i)).handle = m.handle := congrArg Prod.snd hepoch
    have hg : (m.run (.stream i)).generation = m.generation := congrArg Prod.fst hepoch
    rw [hh, hg] at hP
    have h' : ({ m with queue := m.queue.erase (.stream i) } : Monitor).Told P :=
      ⟨h.board, h.heard⟩
    have hrun := h'.runStream (hm.requeue _) i hP
    exact ⟨hrun.board, hrun.heard⟩

theorem leads (h : m.Told P) (hm : m.Exact) (hleads : m.Leads m')
    (hP : ∀ n, m.Leads n → n.Leads m' → ∀ s : BrokerStatus, s.Exact n.handle.isSome →
      s.generation = n.generation → P s) : m'.Told P := by
  induction hleads with
  | refl => exact h
  | tail hn step ih =>
      have hbefore := ih fun n hmn hn' => hP n hmn (hn'.tail step)
      exact hbefore.step (hm.leads hn) step (hP _ (hn.tail step) .refl)

end Told

end Monitor

namespace Session

/-- A status was exact in some state of the run that has led from `start` to `s`. -/
def WasExact (rate : Option UInt32) (s : Session) (st : BrokerStatus) : Prop :=
  ∃ earlier, (start rate).Leads earlier ∧ earlier.Leads s ∧
    st.generation = earlier.monitor.generation ∧ st.Exact earlier.monitor.handle.isSome

/-- A monitor that an action goes through has the epoch of before or after the action. -/
theorem epoch_within_act {s : Session} {a : Action} {n : Monitor} (hsn : s.monitor.Leads n)
    (hna : n.Leads (s.act a).1.monitor) :
    n.epoch = s.monitor.epoch ∨ n.epoch = (s.act a).1.monitor.epoch := by
  have hlow : s.monitor.generation.toNat ≤ n.generation.toNat :=
    Monitor.generation_le_of_leads hsn
  have hhigh : n.generation.toNat ≤ (s.act a).1.monitor.generation.toNat :=
    Monitor.generation_le_of_leads hna
  have hstep := s.generation_act_le a
  rcases Nat.lt_or_ge s.monitor.generation.toNat n.generation.toNat with hlt | hge
  · exact .inr (Monitor.epoch_eq_of_leads hna (by omega)).symm
  · exact .inl (Monitor.epoch_eq_of_leads hsn hge)

theorem told_of_leads {rate : Option UInt32} {s : Session} (h : (start rate).Leads s) :
    s.monitor.Told (s.WasExact rate) := by
  induction h with
  | refl =>
      have hinitial : (start rate).WasExact rate (.detached .initial) :=
        ⟨start rate, .refl, .refl, rfl, .begin .initial false⟩
      exact ⟨⟨hinitial, fun _ hl => nomatch hl⟩, fun _ ho => nomatch ho⟩
  | @tail s s' hs step ih =>
      have hexact := (Monitor.Exact.initial rate).leads (monitor_leads hs)
      have hafter : s.monitor.Told (s'.WasExact rate) := by
        refine ih.mono ?_
        rintro st ⟨earlier, hstart, hleads, hst⟩
        exact ⟨earlier, hstart, hleads.tail step, hst⟩
      cases step with
      | act a =>
          refine hafter.leads hexact (monitor_leads_act s a) ?_
          intro n hsn hna st hst hg
          rcases epoch_within_act hsn hna with he | he
          · have hgeneration : n.generation = s.monitor.generation := congrArg Prod.fst he
            have hhandle : n.handle = s.monitor.handle := congrArg Prod.snd he
            exact ⟨s, hs, .single (.act s a), hg.trans hgeneration, hhandle ▸ hst⟩
          · have hgeneration : n.generation = (s.act a).1.monitor.generation := congrArg Prod.fst he
            have hhandle : n.handle = (s.act a).1.monitor.handle := congrArg Prod.snd he
            exact ⟨_, hs.tail (.act s a), .refl, hg.trans hgeneration, hhandle ▸ hst⟩
      | runTask j =>
          refine hafter.step hexact (.run _ j) fun st hst hg => ?_
          exact ⟨s.runTask j, hs.tail (.runTask s j), .refl, hg, hst⟩

/-- What a watch gets is the current status. -/
theorem eq_status_of_watched {s : Session} {name : String} {st : BrokerStatus}
    (h : (s.actSubscriber (.watched name)).2 = .change (.fresh st)) : st = s.monitor.status := by
  revert h
  simp only [actSubscriber]
  refine s.withNamed_elim s.watches name _ (by intro h; cases h) fun w _ => ?_
  unfold Cell.poll
  intro hwatched
  split at hwatched
  · cases hgone : s.monitor.boardGone <;> simp [hgone] at hwatched
  · cases hwatched
    rfl

/-- In every state of a session, also between two runs of `settle`, the status is exact for the
handle that is current. Every status that an observer has heard was exact in an earlier state of
the same run, and what a watch gets is the current one. -/
theorem status_is_exact {rate : Option UInt32} {s : Session} (hs : (start rate).Leads s) :
    s.monitor.status.Exact s.monitor.handle.isSome ∧
    (∀ o ∈ s.monitor.observers, ∀ st ∈ o.heard.entries, s.WasExact rate st) ∧
    ∀ name st, (s.actSubscriber (.watched name)).2 = .change (.fresh st) →
      st = s.monitor.status := by
  have hexact := (Monitor.Exact.initial rate).leads (monitor_leads hs)
  exact ⟨hexact.status, (told_of_leads hs).heard, fun _ _ h => eq_status_of_watched h⟩

/-- An observer hears five statuses until the first resource streams, and all of them were exact. -/
theorem status_is_exact_until_streaming :
    let s := (start none).actAll [
      .subscriber (.observe "log"),
      .broker (.offer "feed" "[::1]" .adapters),
      .connection (.connect "first" "http://[::1]"), .settle,
      .broker (.send "feed" .adapters []), .settle]
    s.monitor.observers.map (·.heard.entries.length) = [5] ∧
    s.monitor.status.Exact true ∧
    ∀ o ∈ s.monitor.observers, ∀ st ∈ o.heard.entries, s.WasExact none st := by
  intro s
  obtain ⟨hstatus, hheard, -⟩ := status_is_exact (s := s) ((start none).leads_actAll _)
  have hhandle : s.monitor.handle.isSome = true := by decide +kernel
  exact ⟨by decide +kernel, hhandle ▸ hstatus, hheard⟩

end Session

end BrokerMonitor
