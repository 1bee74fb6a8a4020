import BrokerMonitor.Proofs.Listing.Agreement
/-!
# What a consumer finds that was told of a listing

A status that shows a resource as streaming has a cause: an earlier run of a task in which a message
arrived, and which reported for it that the resource streams. From then on the slot holds the
listing of that message, or one that supersedes it. `Finds` says this of a status, and whatever
anybody is told satisfies it, however late he looks.
-/

namespace BrokerMonitor

namespace Monitor

variable {m m' : Monitor} {rate : Option UInt32} {r : Resource} {g : Generation}

/-- In a run of task `t` at place `i` of `e`, `message` arrives as the first one of the run, and the
task reports for generation `g` that `r` streams. -/
structure Causes (e : Monitor) (i : Nat) (t : StreamTask) (message : t.resource.Message)
    (r : Resource) (g : Generation) : Prop where
  task : e.tasks[i]? = some t
  resource : t.resource = r
  generation : t.generation = g
  first : (e.turn t).messages.head? = some message
  reported : ⟨r, g, .streaming⟩ ∈ e.codes i

/-- The listing of a message that arrives. -/
def arrival (e : Monitor) (t : StreamTask) (message : t.resource.Message) :
    Snapshot t.resource.Record :=
  ⟨t.generation, t.resource.listing message, (e.snapshot t.resource).sequence + 1⟩

/-- In the past of `m` it was reported for generation `g` that `r` streams, and the slot holds the
listing that was the reason for this, or one that supersedes it. -/
def Found (rate : Option UInt32) (m : Monitor) (r : Resource) (g : Generation) : Prop :=
  ∃ (e : Monitor) (i : Nat) (t : StreamTask) (message : t.resource.Message),
    (initial rate).Leads e ∧ (e.run (.stream i)).Leads m ∧ Causes e i t message r g ∧
    (m.snapshot t.resource).Supersedes (e.arrival t message)

/-- Whoever is told this status finds each listing that it speaks of. -/
def Finds (rate : Option UInt32) (m : Monitor) (st : BrokerStatus) : Prop :=
  ∀ r, st.streams.get? r = some .streaming → m.Found rate r st.generation

/-- Slots only move on. -/
theorem Step.supersedes (hm : m.Lockstep) (step : m.Step m') (r : Resource) :
    (m'.snapshot r).Supersedes (m.snapshot r) := by
  cases step with
  | @attach g h hg =>
      have hnext := Generation.toNat_of_next? hg
      have hempty : (m.attach g h).snapshot r = .empty g := by cases r <;> rfl
      refine .inr (.inl ?_)
      rw [hempty, hm.snapshot r]
      change m.generation.toNat < g.toNat
      omega
  | run j =>
      cases j with
      | stream i =>
          obtain ⟨queue, hrun⟩ := m.exists_run_stream_eq i
          rw [hrun]
          exact m.runStream_elim i (motive := fun n => (n.snapshot r).Supersedes (m.snapshot r))
            (fun _ => .refl _) fun t _ => supersedes_progress _ r
      | observer k =>
          obtain ⟨board, observers, queue, hrun, -⟩ := m.exists_run_observer_eq k
          rw [hrun]
          exact .refl _
  | _ => exact .refl _

theorem Found.step (h : m.Found rate r g) (hm : m.Lockstep) (step : m.Step m') :
    m'.Found rate r g := by
  obtain ⟨e, i, t, message, hstart, hleads, hcause, hfound⟩ := h
  exact ⟨e, i, t, message, hstart, hleads.tail step, hcause, (step.supersedes hm _).trans hfound⟩

theorem Finds.step {st : BrokerStatus} (h : m.Finds rate st) (hm : m.Lockstep)
    (step : m.Step m') : m'.Finds rate st :=
  fun r hr => (h r hr).step hm step

/-- A generation starts with nothing to find. -/
theorem finds_begin (m : Monitor) (g : Generation) (attached : Bool) :
    m.Finds rate (.begin g attached) := by
  intro r hr
  cases r <;> cases hr

/-- A message has arrived where it is reported that a resource streams. -/
theorem exists_message_of_mem_said {t : StreamTask} (h : .streaming ∈ (m.turn t).said) :
    ∃ message rest, (m.turn t).messages = message :: rest := by
  obtain ⟨first, hsaid, hfirst⟩ := (m.possible_turn t).said
  cases hmessages : (m.turn t).messages with
  | cons message rest => exact ⟨message, rest, rfl⟩
  | nil =>
      have hopening : (m.turn t).said = first := by simpa [progressOf, hmessages] using hsaid
      rw [hopening] at h
      rcases hfirst with rfl | ⟨-, rfl⟩
      · cases h
      · unfold StreamTask.opening at h
        split at h <;> simp at h

/-- A task that reports that its resource streams has just put the listing for it into the slot. -/
theorem found_of_reported (hstart : (initial rate).Leads m) (hm : m.Exact) {i : Nat}
    {told : Report} (htold : told ∈ m.codes i) (hcurrent : told.generation = m.status.generation)
    (hstreaming : told.status = .streaming) :
    (m.run (.stream i)).Found rate told.resource told.generation := by
  obtain ⟨t, ht, haudience, hpassed⟩ := exists_of_mem_codes htold
  obtain ⟨said, hsaid, rfl⟩ := Reporter.exists_of_mem_reportAll hpassed
  obtain rfl : said = .streaming := hstreaming
  obtain ⟨message, rest, hmessages⟩ := exists_message_of_mem_said hsaid
  have hheeds : m.Heeds t := ⟨haudience, hcurrent.trans hm.lockstep.status⟩
  have hown : t.resource = t.reporter.resource := (hm.shown i t ht hheeds).resource.symm
  have hcause : Causes m i t message t.reporter.resource t.generation :=
    ⟨ht, hown, rfl, by rw [hmessages]; rfl, htold⟩
  refine ⟨m, i, t, message, hstart, .refl, hcause, ?_⟩
  have hslot : (m.store.get t.resource).value.generation = t.generation :=
    (m.possible_turn t).fresh (by simp [progressOf, hmessages])
  have hrun : (m.run (.stream i)).snapshot t.resource =
      (m.progress i t (m.progressOf (m.reach t) (m.turn t))).snapshot t.resource := by
    obtain ⟨queue, hrun⟩ := m.exists_run_stream_eq i
    rw [hrun, ← runStream_eq_turn ht]
    rfl
  rw [hrun, snapshot_progress_self]
  change (Slot.deliver _ _ (m.turn t).messages).value.Supersedes _
  rw [hmessages, Slot.deliver_cons_of_eq hslot]
  exact Slot.supersedes_deliver _ _ _

/-- What a step tells anybody: the start of a generation, or what the current status becomes by the
reports of a task. -/
theorem Told.of_step {P : BrokerStatus → Prop} (h : m.Told P) (step : m.Step m')
    (hbegin : ∀ g attached, P (.begin g attached))
    (hreport : ∀ i told st st', m' = m.run (.stream i) → told ∈ m.codes i →
      st.generation = m.status.generation → P st → st.accept? told = some st' → P st') :
    m'.Told P := by
  refine h.of_step_cases step (fun g handle _ => hbegin g handle.isSome) ?_
  rintro i rfl
  refine ⟨?_, ?_⟩
  · rw [board_run_stream]
    refine h.board.reports fun st told st' hst htold => ?_
    exact hreport i told st st' rfl htold hst
  · rw [observers_run_stream]
    exact h.heard

/-- Whatever anybody is told of the board can be found. -/
theorem told_finds (hleads : (initial rate).Leads m) : m.Told (m.Finds rate) := by
  induction hleads with
  | refl =>
      refine ⟨⟨finds_begin _ _ _, fun _ hl => nomatch hl⟩, fun _ ho => nomatch ho⟩
  | @tail m m' hm step ih =>
      have hexact : m.Exact := (Exact.initial rate).leads hm
      have hkept : m.Told (m'.Finds rate) := ih.mono fun st hst => hst.step hexact.lockstep step
      refine hkept.of_step step (finds_begin m') ?_
      rintro i told st st' rfl htold hst hPst haccept r hr
      have hgeneration := BrokerStatus.generation_of_accept? haccept
      rw [BrokerStatus.streams_of_accept? haccept, ResourceMap.get?_insert] at hr
      rw [hgeneration]
      split at hr
      · next hresource =>
          have htag : told.generation = st.generation :=
            (st.accept?_isSome_iff told).mp (by rw [haccept]; rfl)
          rw [hresource, ← htag]
          exact found_of_reported hm hexact htold (htag.trans hst) (Option.some.inj hr)
      · exact hPst r hr

end Monitor

namespace Session

/-- In every state of a session, also between two runs of `settle`: a resource that the status shows
as streaming has a listing of the same generation in the store. Without clients the status shows a
resource as streaming exactly when a listing of it has arrived, even an empty one. Every status that
an observer has heard, that waits for one, or that a watch gets, has its reason in the store: where
it shows a resource as streaming, there was a run of a task in which a message arrived and this was
reported, and the slot holds the listing of that message, or one that supersedes it. -/
theorem status_agrees_with_store {rate : Option UInt32} {s : Session}
    (hs : (start rate).Leads s) :
    (∀ r, s.monitor.status.streams.get? r = some .streaming →
      (s.monitor.snapshot r).generation = s.monitor.status.generation ∧
      1 ≤ (s.monitor.snapshot r).sequence) ∧
    (s.monitor.Solo → ∀ r, s.monitor.status.streams.get? r = some .streaming ↔
      0 < (s.monitor.snapshot r).sequence) ∧
    (∀ o ∈ s.monitor.observers, ∀ st ∈ o.heard.entries, s.monitor.Finds rate st) ∧
    (∀ l ∈ s.monitor.board.listeners, ∀ st ∈ l.inbox, s.monitor.Finds rate st) ∧
    ∀ name st, (s.actSubscriber (.watched name)).2 = .change (.fresh st) →
      s.monitor.Finds rate st := by
  have hleads : (Monitor.initial rate).Leads s.monitor := monitor_leads hs
  have hexact : s.monitor.Exact := (Monitor.Exact.initial rate).leads hleads
  have hagreed : s.monitor.Agreed := (Monitor.Agreed.initial rate).leads (.initial rate) hleads
  have htold := Monitor.told_finds hleads
  refine ⟨?_, ?_, htold.heard, htold.board.sent, ?_⟩
  · intro r hr
    exact ⟨(hexact.lockstep.snapshot r).trans hexact.lockstep.status.symm, hagreed.listed r hr⟩
  · exact fun hsolo r => ⟨hagreed.listed r, hagreed.shown hsolo r⟩
  · intro name st h
    exact eq_status_of_watched h ▸ htold.board.current

/-- An empty listing counts: it makes the adapters stream, and the observer who was told so finds
it. No listing of the channels has arrived. -/
theorem status_agrees_with_empty_listing :
    let s := (start none).actAll [
      .subscriber (.observe "log"),
      .broker (.offer "feed" "[::1]" .adapters),
      .connection (.connect "first" "http://[::1]"), .settle,
      .broker (.send "feed" .adapters []), .settle]
    s.monitor.status.streams.get? .adapters = some .streaming ∧
    1 ≤ (s.monitor.snapshot .adapters).sequence ∧
    (s.monitor.snapshot .adapters).records = [] ∧
    s.monitor.status.streams.get? .channels ≠ some .streaming ∧
    ∀ o ∈ s.monitor.observers, ∀ st ∈ o.heard.entries, s.monitor.Finds none st := by
  intro s
  obtain ⟨hlisted, hiff, hheard, -, -⟩ :=
    status_agrees_with_store (s := s) ((start none).leads_actAll _)
  have hsolo : s.monitor.Solo := solo_actAll (solo_start none) (by simp)
  have hstreams : s.monitor.status.streams.get? .adapters = some .streaming := by decide +kernel
  have hnothing : (s.monitor.snapshot .channels).sequence = 0 := by decide +kernel
  refine ⟨hstreams, (hlisted _ hstreams).2, by decide +kernel, ?_, hheard⟩
  intro hchannels
  have harrived := (hiff hsolo .channels).mp hchannels
  omega

end Session

end BrokerMonitor
