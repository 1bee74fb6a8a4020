import BrokerMonitor.Proofs.Schedule.Confluence
/-!
# The order of runs does not matter

Without clients, whoever runs the tasks that are ready, one after the other, until none is ready,
comes to the same: the same status, listings, requests and feeds, and the same last status for each
observer. Only what is said of different resources may be heard in another order. The reports on one
resource all come from one task, so their order is always the same.
-/

namespace BrokerMonitor

/-- A list of lists may be joined in any order if at most one of them is not empty. -/
theorem flatMap_eq_of_perm {α β : Type} {l k : List α} (h : l.Perm k) {f : α → List β}
    (hf : ∀ a ∈ l, ∀ b ∈ l, a ≠ b → f a = [] ∨ f b = []) : l.flatMap f = k.flatMap f := by
  induction h with
  | nil => rfl
  | cons a _ ih =>
      rw [List.flatMap_cons, List.flatMap_cons]
      rw [ih fun b hb c hc => hf b (List.mem_cons_of_mem a hb) c (List.mem_cons_of_mem a hc)]
  | swap a b l =>
      simp only [List.flatMap_cons, ← List.append_assoc]
      by_cases hab : b = a
      · rw [hab]
      · rcases hf b (by simp) a (by simp) hab with hnil | hnil <;> simp [hnil]
  | trans hlm _ ih ih' =>
      exact (ih hf).trans
        (ih' fun a ha b hb => hf a (hlm.mem_iff.mpr ha) b (hlm.mem_iff.mpr hb))

/-- An exact status is determined by what it says of the resources. -/
theorem BrokerStatus.Exact.unique {s t : BrokerStatus} {attached : Bool} (hs : s.Exact attached)
    (ht : t.Exact attached) (hgeneration : s.generation = t.generation)
    (hstreams : ∀ r, s.streams.get? r = t.streams.get? r) : s = t := by
  have hstreaming : s.Streaming ↔ t.Streaming := by
    unfold Streaming
    simp only [hstreams]
  have hloading : s.loading = t.loading := by
    rw [Bool.eq_iff_iff, hs.loading, ht.loading, hstreaming]
  have hconnected : s.connected = t.connected := by
    rw [Bool.eq_iff_iff, hs.connected, ht.connected, hstreaming]
  have hmap : s.streams = t.streams := by
    have hchannels : s.streams.channels = t.streams.channels := hstreams .channels
    have hadapters : s.streams.adapters = t.streams.adapters := hstreams .adapters
    calc s.streams = ⟨s.streams.channels, s.streams.adapters⟩ := rfl
      _ = ⟨t.streams.channels, t.streams.adapters⟩ := by rw [hchannels, hadapters]
  cases s
  cases t
  simp_all

namespace StatusBoard

variable {b c : StatusBoard} {r : Resource}

theorem get?_report (b : StatusBoard) (told : Report) (r : Resource) :
    (b.report told).current.streams.get? r =
      if told.generation = b.current.generation ∧ r = told.resource then some told.status
      else b.current.streams.get? r := by
  unfold report BrokerStatus.accept?
  by_cases hg : told.generation = b.current.generation
  · simp [hg, ResourceMap.get?_insert]
  · simp [hg]

/-- What the status says of a resource depends on the reports on that resource. -/
theorem get?_reportAll_filter (hg : b.current.generation = c.current.generation)
    (hr : b.current.streams.get? r = c.current.streams.get? r) (reports : List Report) :
    (b.reportAll reports).current.streams.get? r =
      (c.reportAll (reports.filter (·.resource = r))).current.streams.get? r := by
  induction reports generalizing b c with
  | nil => exact hr
  | cons told rest ih =>
      have hb : (b.report told).current.generation = c.current.generation :=
        (b.generation_report told).trans hg
      by_cases htold : told.resource = r
      · rw [List.filter_cons_of_pos (by simpa using htold)]
        refine ih (hb.trans (c.generation_report told).symm) ?_
        rw [get?_report, get?_report, hg, hr]
      · rw [List.filter_cons_of_neg (by simpa using htold)]
        refine ih hb ?_
        rw [get?_report, if_neg fun h => htold h.2.symm, hr]

end StatusBoard

namespace Monitor

variable {m n : Monitor} {i k : Nat} {js ks : List Job}

/-! ### Reports -/

theorem Agree.codes (h : m.Agree n) (i : Nat) : m.codes i = n.codes i := by
  unfold Monitor.codes
  rw [h.tasks]
  split
  · rfl
  · rw [h.turn]

/-- What a task has to report does not depend on who runs before it. -/
theorem codes_run (hm : m.Reachable) (hsolo : m.Solo) {j : Job} (hj : j ≠ .stream i) :
    (m.run j).codes i = m.codes i := by
  cases j with
  | observer k => exact (Agree.run_observer m k).codes i
  | stream l =>
      have hli : l ≠ i := fun h => hj (h ▸ rfl)
      rw [(Agree.run_stream m l).codes i]
      cases ht : m.tasks[l]? with
      | none => simp [runStream, ht]
      | some t =>
          have htask : (m.runStream l).tasks[i]? = m.tasks[i]? := by
            rw [runStream_eq_turn ht]
            exact List.getElem?_set_ne hli
          unfold codes
          rw [htask]
          cases hu : m.tasks[i]? with
          | none => rfl
          | some u =>
              dsimp only
              rw [(turn_runStream hm hsolo hli ht hu).1]

/-- The reports that the board gets while jobs are run one after the other. -/
def codesAll (m : Monitor) : List Job → List Report
  | [] => []
  | .stream i :: js => m.codes i ++ (m.run (.stream i)).codesAll js
  | .observer k :: js => (m.run (.observer k)).codesAll js

/-- Each task that runs reports what it had to report at the start. -/
theorem Schedule.codesAll_eq (hm : m.Reachable) (hsolo : m.Solo) (h : m.Schedule js) :
    m.codesAll js = (Monitor.streams js).flatMap m.codes := by
  induction js generalizing m with
  | nil => rfl
  | cons j js ih =>
      have hlater := ih (hm.run j) (solo_of_audiences hsolo (m.map_audience_run j)) h.2
      have hnodup := (h.streams hm).1
      have hsame : (∀ i ∈ Monitor.streams js, j ≠ .stream i) →
          (Monitor.streams js).flatMap (m.run j).codes =
            (Monitor.streams js).flatMap m.codes := fun hj =>
        List.flatMap_congr fun i hi => codes_run hm hsolo (hj i hi)
      cases j with
      | stream i =>
          have honce : i ∉ Monitor.streams js := (List.nodup_cons.mp hnodup).1
          change m.codes i ++ _ = m.codes i ++ (Monitor.streams js).flatMap m.codes
          rw [hlater, hsame fun l hl h => honce (Job.stream.inj h ▸ hl)]
      | observer k =>
          change (m.run (.observer k)).codesAll js = (Monitor.streams js).flatMap m.codes
          rw [hlater, hsame fun l _ => by simp]

/-- What is reported on a resource is the same in each schedule that leaves nobody ready. -/
theorem Completes.filter_codesAll (hm : m.Reachable) (hsolo : m.Solo) (hjs : m.Completes js)
    (hks : m.Completes ks) (r : Resource) :
    (m.codesAll js).filter (·.resource = r) = (m.codesAll ks).filter (·.resource = r) := by
  rw [hjs.1.codesAll_eq hm hsolo, hks.1.codesAll_eq hm hsolo, List.filter_flatMap,
    List.filter_flatMap]
  refine flatMap_eq_of_perm (hjs.streams_perm hm hks) fun i _ j _ hij => ?_
  by_contra hnone
  obtain ⟨hi, hj⟩ := not_or.mp hnone
  -- Who reports on a resource follows it, and was not aborted.
  have hreporter : ∀ {l : Nat}, (m.codes l).filter (·.resource = r) ≠ [] →
      ∃ t, m.tasks[l]? = some t ∧ t.resource = r ∧ t.aborted = false := by
    intro l hl
    obtain ⟨told, htold⟩ := List.exists_mem_of_ne_nil _ hl
    obtain ⟨htold, hresource⟩ := List.mem_filter.mp htold
    obtain ⟨t, ht, haudience, hpassed⟩ := exists_of_mem_codes htold
    have haborted : t.aborted = false := by
      by_contra haborted
      rw [(nothing_of_aborted m (by simpa using haborted)).2] at hpassed
      cases hpassed
    have hgeneration := (hm.retired.own l t ht haudience haborted).2
    refine ⟨t, ht, ?_, haborted⟩
    rw [← (hm.exact.shown l t ht ⟨haudience, hgeneration⟩).resource,
      ← (Reporter.tags_of_mem_reportAll hpassed).1]
    simpa using hresource
  obtain ⟨t, ht, hrt, htaborted⟩ := hreporter hi
  obtain ⟨u, hu, hru, huaborted⟩ := hreporter hj
  rcases aborted_or_aborted hm hsolo hij ht hu (hrt.trans hru.symm) with h | h
  · rw [htaborted] at h
    cases h
  · rw [huaborted] at h
    cases h

/-! ### The status -/

theorem filter_boardEventsAll (m : Monitor) (js : List Job) :
    (m.boardEventsAll js).filter (·.computes) = (m.codesAll js).map .report := by
  induction js generalizing m with
  | nil => rfl
  | cons j js ih =>
      rw [boardEventsAll, List.filter_append, ih]
      cases j with
      | stream i =>
          have hall : (m.boardEvents (.stream i)).filter (·.computes) = (m.codes i).map .report :=
            List.filter_eq_self.mpr fun e he => by
              obtain ⟨told, -, rfl⟩ := List.mem_map.mp he
              rfl
          rw [hall, codesAll, List.map_append]
      | observer k =>
          have hnone : (m.boardEvents (.observer k)).filter (·.computes) = [] := by
            simp only [boardEvents]
            split
            · rfl
            split
            · rfl
            split <;> rfl
          rw [hnone, codesAll, List.nil_append]

theorem recomputed_boardEventsAll (m : Monitor) (js : List Job) (s : BrokerStatus) :
    s.recomputed (m.boardEventsAll js) = s.recomputed ((m.codesAll js).map .report) := by
  rw [← BrokerStatus.recomputed_filter, filter_boardEventsAll]

theorem status_runAll (hm : m.Lined) (js : List Job) :
    (m.runAll js).status = (m.board.reportAll (m.codesAll js)).current := by
  rw [status, (tracks_runAll hm js).board, StatusBoard.current_afterAll,
    recomputed_boardEventsAll, ← StatusBoard.afterAll_report, StatusBoard.current_afterAll]

/-- Each schedule that leaves nobody ready comes to the same status. -/
theorem Completes.status_eq (hm : m.Reachable) (hsolo : m.Solo) (hjs : m.Completes js)
    (hks : m.Completes ks) : (m.runAll js).status = (m.runAll ks).status := by
  have hepoch := (hjs.agree hm hsolo hks).epoch
  have hgeneration : (m.runAll js).generation = (m.runAll ks).generation := congrArg Prod.fst hepoch
  have hhandle : (m.runAll js).handle = (m.runAll ks).handle := congrArg Prod.snd hepoch
  have hexact := (hm.runAll js).exact
  have hexact' := (hm.runAll ks).exact
  refine hexact.status.unique (hhandle ▸ hexact'.status) ?_ fun r => ?_
  · rw [hexact.lockstep.status, hexact'.lockstep.status, hgeneration]
  · have hlined := hm.attentive.lined
    rw [status_runAll hlined, status_runAll hlined,
      StatusBoard.get?_reportAll_filter rfl rfl (m.codesAll js),
      hjs.filter_codesAll hm hsolo hks, ← StatusBoard.get?_reportAll_filter rfl rfl]

/-! ### Observers -/

theorem map_aborted_run (m : Monitor) (j : Job) :
    (m.run j).observers.map (·.aborted) = m.observers.map (·.aborted) := by
  refine List.ext_getElem? fun k => ?_
  cases j with
  | stream i =>
      exact congrArg (fun l => (l.map (·.aborted))[k]?) (m.observers_run_stream i)
  | observer l =>
      change ((Monitor.runObserver { m with queue := _ } l).observers.map _)[k]? = _
      unfold runObserver
      split
      · rfl
      split
      · rfl
      split <;> by_cases hlk : l = k <;>
        simp [hlk, Function.comp_def]

theorem map_aborted_runAll (m : Monitor) (js : List Job) :
    (m.runAll js).observers.map (·.aborted) = m.observers.map (·.aborted) := by
  induction js generalizing m with
  | nil => rfl
  | cons j js ih => exact (ih _).trans (m.map_aborted_run j)

/-- The statuses that an observer hears in a schedule that leaves nobody ready: what waited in its
line and what is computed from the reports, unless it was aborted. -/
def delivered (m : Monitor) (o : Observer) (js : List Job) : List BrokerStatus :=
  if o.aborted then []
  else m.board.inbox o.line ++ m.status.recomputed ((m.codesAll js).map .report)

/-- Nobody is ready, so an observer has heard everything. It has ended if it was aborted, or if the
board is gone. -/
theorem Completes.observer (hm : m.Reachable) (h : m.Completes js) {o : Observer}
    (ho : m.observers[k]? = some o) : ∃ o', (m.runAll js).observers[k]? = some o' ∧
      o'.aborted = o.aborted ∧ o'.heard.entries = o.heard.entries ++ m.delivered o js ∧
      (o.aborted = false → o'.heard.entries.getLast? = some (m.runAll js).status) ∧
      o'.finished = (o.aborted || (m.runAll js).boardGone) := by
  have hattentive := (hm.runAll js).attentive
  have htracks : m.Tracks (m.boardEventsAll js) (m.runAll js) :=
    tracks_runAll hm.attentive.lined js
  have hready := isSettled_iff.mp h.2 (.observer k)
  obtain ⟨o', ho', -, hkept, -⟩ := htracks.observer k o ho
  have haborted : o'.aborted = o.aborted := by
    have hmap := congrArg (·[k]?) (m.map_aborted_runAll js)
    simpa [ho, ho'] using hmap
  have hover : o'.finished = true ∨
      (o'.aborted = false ∧ (m.runAll js).boardGone = false) := by
    simp only [isReady, ho', Option.any_some, observerReady] at hready
    cases hfinished : o'.finished with
    | true => exact .inl rfl
    | false =>
        simp only [hfinished, Bool.not_false, Bool.true_and, Bool.or_eq_false_iff] at hready
        exact .inr ⟨hready.1.1, hready.2⟩
  refine ⟨o', ho', haborted, ?_⟩
  cases hab : o.aborted with
  | true =>
      refine ⟨?_, ?_, ?_⟩
      · rw [delivered, hab, if_pos rfl, List.append_nil]
        exact (hkept hab).2
      · intro hnot
        cases hnot
      · refine hover.resolve_right fun hnot => ?_
        rw [haborted, hab] at hnot
        cases hnot.1
  | false =>
      have hab' : o'.aborted = false := haborted.trans hab
      obtain ⟨inbox, hline, -⟩ := hm.attentive.current k o ho hab
      obtain ⟨inbox', hline', hheard⟩ := htracks.complete ho ho' hab' hline
      have hempty := hattentive.holds_nil_of_not_ready ho' hab' hready
      obtain rfl : inbox' = [] := hline'.unique hempty
      refine ⟨?_, fun _ => ?_, ?_⟩
      · rw [List.append_nil, recomputed_boardEventsAll, List.append_assoc] at hheard
        rw [delivered, hab, hm.attentive.lined.line k o ho, hline.inbox_eq]
        exact hheard
      · obtain ⟨inbox, hinbox, hlast⟩ := hattentive.current k o' ho' hab'
        obtain rfl : inbox = [] := hinbox.unique hempty
        simpa using hlast
      · rw [Bool.false_or]
        rcases hover with hfinished | ⟨-, hgone⟩
        · rw [hfinished, (hattentive.drained k o' ho' hab' hfinished).1]
        · rw [hgone]
          cases hfinished : o'.finished with
          | false => rfl
          | true =>
              rw [(hattentive.drained k o' ho' hab' hfinished).1] at hgone
              cases hgone

end Monitor

namespace Session

/-- In a session without clients the order in which tasks run does not matter. Take any state, and
run tasks that are ready, stream tasks of any generation and observers' tasks, aborted or not, in
any order. Every such schedule ends. When nobody is ready any more, each one has come to the same
status, the same listings with their generations and sequence numbers, the same feeds, opened and
released, and the same requests in some order, and each observer has heard the same status last.

Each observer has heard what the reports computed. The reports on one resource come in the same
order in each schedule, so that only the order of reports on different resources may differ.

`settle` follows one of these schedules: it takes the jobs from the queue, first in first out. -/
theorem schedule_independence {rate : Option UInt32} {s : Session} (hs : (start rate).Leads s)
    (hsolo : s.monitor.Solo) :
    let m := s.monitor
    let fifo := m.jobsWithin m.settleBound
    (∀ js, m.Schedule js → js.length < m.settleBound) ∧
    (m.Completes fifo ∧ m.settle = m.runAll fifo) ∧
    ∀ js ks, m.Completes js → m.Completes ks →
      (m.runAll js).status = (m.runAll ks).status ∧
      (∀ r, (m.runAll js).snapshot r = (m.runAll ks).snapshot r) ∧
      (m.runAll js).requests.entries.Perm (m.runAll ks).requests.entries ∧
      (m.runAll js).feeds = (m.runAll ks).feeds ∧
      (∀ (k : Nat) (o : Observer), m.observers[k]? = some o → ∃ x y : Observer,
        (m.runAll js).observers[k]? = some x ∧ (m.runAll ks).observers[k]? = some y ∧
        x.heard.entries = o.heard.entries ++ m.delivered o js ∧
        y.heard.entries = o.heard.entries ++ m.delivered o ks ∧
        x.heard.entries.getLast? = y.heard.entries.getLast? ∧
        x.finished = y.finished) ∧
      ∀ r, (m.codesAll js).filter (·.resource = r) = (m.codesAll ks).filter (·.resource = r) := by
  intro m fifo
  have hm : m.Reachable := ⟨rate, monitor_leads hs⟩
  have hlined := hm.attentive.lined
  have hsettle : m.settle = m.runAll fifo := m.settleWithin_eq_runAll m.settleBound
  refine ⟨?_, ⟨⟨Monitor.schedule_jobsWithin hm.queued hm.wired hlined _, ?_⟩, hsettle⟩, ?_⟩
  · intro js hjs
    exact Nat.lt_of_le_of_lt (hjs.length_le hm.wired hlined) m.potential_lt_settleBound
  · exact hsettle ▸ hm.isSettled_settle
  · intro js ks hjs hks
    have hagree := hjs.agree hm hsolo hks
    have hstatus := hjs.status_eq hm hsolo hks
    refine ⟨hstatus, ?_, hagree.requests, hagree.feeds, ?_, hjs.filter_codesAll hm hsolo hks⟩
    · intro r
      rw [Monitor.snapshot, Monitor.snapshot, hagree.store]
    · intro k o ho
      obtain ⟨x, hx, -, hheard, hlast, hfinished⟩ := hjs.observer hm ho
      obtain ⟨y, hy, -, hheard', hlast', hfinished'⟩ := hks.observer hm ho
      refine ⟨x, y, hx, hy, hheard, hheard', ?_, ?_⟩
      · cases hab : o.aborted with
        | true => simp [hheard, hheard', Monitor.delivered, hab]
        | false => rw [hlast hab, hlast' hab, hstatus]
      · have hgone : (m.runAll js).boardGone = (m.runAll ks).boardGone := by
          unfold Monitor.boardGone
          rw [hagree.alive, hagree.tasks]
        rw [hfinished, hfinished', hgone]

/-- Two connects, one after the other, leave two aborted tasks and two that start, one of which
finds a feed with a listing. They may run in the order in which they were started, or the other way
round with the observer in between: what is reported comes in another order, and all else is the
same. -/
theorem schedule_independence_of_two_connects :
    let s := (start none).actAll [
      .subscriber (.observe "log"),
      .broker (.offer "feed" "[::1]" .adapters),
      .connection (.connect "first" "http://[::1]"),
      .connection (.connect "second" "http://[::1]"),
      .broker (.send "feed" .adapters [])]
    let js : List Job := [.stream 0, .stream 1, .stream 2, .stream 3, .observer 0]
    let ks : List Job :=
      [.stream 3, .observer 0, .stream 2, .stream 1, .stream 0, .observer 0]
    s.monitor.Completes js ∧ s.monitor.Completes ks ∧
    s.monitor.codesAll js ≠ s.monitor.codesAll ks ∧
    (s.monitor.runAll js).status = (s.monitor.runAll ks).status ∧
    (∀ r, (s.monitor.runAll js).snapshot r = (s.monitor.runAll ks).snapshot r) ∧
    (s.monitor.runAll js).requests.entries.Perm (s.monitor.runAll ks).requests.entries ∧
    (s.monitor.runAll js).feeds = (s.monitor.runAll ks).feeds := by
  intro s js ks
  have hsolo : s.monitor.Solo := solo_actAll (solo_start none) (by simp)
  obtain ⟨-, -, hall⟩ := schedule_independence (s := s) ((start none).leads_actAll _) hsolo
  have hjs : s.monitor.Completes js := by decide +kernel
  have hks : s.monitor.Completes ks := by decide +kernel
  obtain ⟨hstatus, hsnapshot, hrequests, hfeeds, -, -⟩ := hall js ks hjs hks
  exact ⟨hjs, hks, by decide +kernel, hstatus, hsnapshot, hrequests, hfeeds⟩

end Session

end BrokerMonitor
