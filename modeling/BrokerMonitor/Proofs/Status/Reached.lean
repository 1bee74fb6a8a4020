import BrokerMonitor.Proofs.Client.Life
import BrokerMonitor.Proofs.Delivery.Conservation
import BrokerMonitor.Proofs.Ending.Dismissal
import BrokerMonitor.Proofs.Observation.Forward
/-!
# How far the streams of a connection have come

A task over a connection reports that it is connecting when it is first run, and that it streams
with its first message. So what the status says of its resource can be read off the task itself: off
whether it has started, and whether it has taken a message (`StreamTask.reached`). While a monitor
carries a connection, each resource has one such task, and together they decide the whole status
(`Carries.status_eq`).

A task never goes back, and one that has ended stays as it is (`StreamTask.Onward`). So neither does
the status go back as long as the connection is carried, and a failure or the end of a stream leaves
it as it was.
-/

namespace BrokerMonitor

/-! ### The status of a connection -/

namespace BrokerStatus

/-- The status of a connection whose streams have come so far. -/
def ofReached (g : Generation) (reached : Resource → StreamStatus) : BrokerStatus where
  loading := !Resource.all.any fun r => (reached r).isUp
  connected := Resource.all.any fun r => (reached r).isUp
  streams := ⟨some (reached .channels), some (reached .adapters)⟩
  generation := g

variable (g : Generation) (reached : Resource → StreamStatus)

@[simp] theorem get?_ofReached (r : Resource) :
    (ofReached g reached).streams.get? r = some (reached r) := by
  cases r <;> rfl

@[simp] theorem statusOf_ofReached (r : Resource) :
    (ofReached g reached).statusOf r = reached r := by
  simp [statusOf]

theorem any_isUp_iff :
    (Resource.all.any fun r => (reached r).isUp) = true ↔ ∃ r, reached r = .streaming := by
  simp only [List.any_eq_true, StreamStatus.isUp_iff]
  exact ⟨fun ⟨r, _, hr⟩ => ⟨r, hr⟩, fun ⟨r, hr⟩ => ⟨r, r.mem_all, hr⟩⟩

/-- It is connected once a stream is up. -/
theorem phase_ofReached_eq_connected_iff :
    (ofReached g reached).phase = .connected ↔ ∃ r, reached r = .streaming := by
  rw [← any_isUp_iff]
  unfold phase ofReached
  cases Resource.all.any fun r => (reached r).isUp <;> simp

/-- Until then it is connecting, never disconnected. -/
theorem phase_ofReached_eq_connecting_iff :
    (ofReached g reached).phase = .connecting ↔ (ofReached g reached).phase ≠ .connected := by
  unfold phase ofReached
  cases Resource.all.any fun r => (reached r).isUp <;> simp

/-- An exact status of a connection is the one of what it shows. -/
theorem Exact.eq_ofReached {s : BrokerStatus} (h : s.Exact true)
    (hshown : ∀ r, s.streams.get? r = some (reached r)) : s = ofReached s.generation reached := by
  have hstreaming : s.Streaming ↔ (Resource.all.any fun r => (reached r).isUp) = true := by
    simp only [any_isUp_iff, Streaming, hshown, Option.some.injEq]
  have hconnected : s.connected = Resource.all.any fun r => (reached r).isUp := by
    rw [Bool.eq_iff_iff, h.connected, hstreaming]
  have hloading : s.loading = !Resource.all.any fun r => (reached r).isUp := by
    rw [Bool.eq_iff_iff, h.loading, hstreaming]
    simp
  have hstreams : s.streams = ⟨some (reached .channels), some (reached .adapters)⟩ := by
    rw [← hshown .channels, ← hshown .adapters]
    rfl
  cases s
  simp only [ofReached, mk.injEq]
  exact ⟨hloading, hconnected, hstreams, trivial⟩

/-- Every stream of its generation is up if all have come that far. -/
theorem isFullyUp_ofReached : (ofReached g reached).isFullyUp g = true ↔
    ∀ r, reached r = .streaming := by
  have hvalues : (ofReached g reached).streams.values = [reached .channels, reached .adapters] :=
    rfl
  rw [isFullyUp, hvalues]
  constructor
  · intro hup r
    cases r <;> simp_all [ofReached, StreamStatus.isUp_iff]
  · intro hall
    simp [ofReached, hall, StreamStatus.isUp]

end BrokerStatus

/-! ### What a task has come to -/

namespace StreamTask

variable {t t' t'' : StreamTask}

/-- How far the stream of a task over a connection has come. -/
def reached (t : StreamTask) : StreamStatus :=
  if t.phase = .spawned then .idle else if t.accepted = 0 then .connecting else .streaming

/-- A task has reported what it has come to, and its outcome counts what it has taken. -/
structure Candid (t : StreamTask) : Prop where
  counts : t.Counts
  spawned : t.phase = .spawned → t.reporter.last = none
  started : t.target.isSome = true → t.phase ≠ .spawned → t.phase ≠ .ended none →
    t.reporter.Opened ∧ (t.reporter.last = some .streaming ↔ 0 < t.accepted)
  /-- Only a task that was aborted ends without an outcome. -/
  aborted : t.phase = .ended none → t.aborted = true

namespace Candid

theorem isNew (h : t.IsNew) (hlast : t.reporter.last = none) : t.Candid where
  counts := h.counts
  spawned _ := hlast
  started _ hstarted := absurd h.spawned hstarted
  aborted hended := by
    rw [h.spawned] at hended
    cases hended

/-- Marks, and the reading of the log, do not matter. -/
theorem marked (h : t.Candid) (hcore : t'.core = t.core)
    (haborted : t.aborted = true → t'.aborted = true) : t'.Candid := by
  obtain ⟨hreporter, haccepted, hphase⟩ := fields_of_core hcore
  have htarget : t'.target = t.target := by
    have hsame : t'.core.target = t.core.target := congrArg _ hcore
    exact hsame
  refine ⟨h.counts.congr haccepted.symm hphase.symm, ?_, ?_, ?_⟩
  · rw [hphase, hreporter]
    exact h.spawned
  · rw [htarget, hphase, hreporter, haccepted]
    exact h.started
  · rw [hphase]
    exact haborted ∘ h.aborted

/-- What a task over a connection was last heard to say is how far it has come, unless it was
aborted. -/
theorem last_eq_reached (h : t.Candid) (htarget : t.target.isSome = true)
    (haborted : t.aborted = false) : t.reporter.last.getD .idle = t.reached := by
  by_cases hspawned : t.phase = .spawned
  · simp [reached, hspawned, h.spawned hspawned]
  · have hended : t.phase ≠ .ended none := by
      intro hended
      rw [h.aborted hended] at haborted
      cases haborted
    obtain ⟨hlast | hlast, hstreaming⟩ := h.started htarget hspawned hended
    · have hnone : t.accepted = 0 := by
        rw [hlast] at hstreaming
        simpa using hstreaming
      simp [reached, hspawned, hlast, hnone]
    · have hsome : t.accepted ≠ 0 := Nat.ne_of_gt (hstreaming.mp hlast)
      simp [reached, hspawned, hlast, hsome]

end Candid

theorem isUp_reached_iff (h : t.Counts) : t.reached.isUp = true ↔ 0 < t.accepted := by
  unfold reached
  split
  · next hspawned => simp [StreamStatus.isUp, h.spawned hspawned]
  · split
    · next hnone => simp [StreamStatus.isUp, hnone]
    · next hsome => simp [StreamStatus.isUp, Nat.pos_of_ne_zero hsome]

/-- A task that is over has come as far as its outcome counts. -/
theorem reached_of_outcome? (h : t.Counts) {o : Outcome} (ho : t.outcome? = some o) :
    t.reached = if o.messages = 0 then .connecting else .streaming := by
  have hphase := outcome?_eq_some_iff.mp ho
  rw [reached, h.ended o hphase, hphase, if_neg nofun]

/-! ### Tasks do not go back -/

/-- A task, as it is later: it has taken no less, and if it was over, nothing has changed. -/
structure Onward (t t' : StreamTask) : Prop where
  becomes : t.Becomes t'
  started : t'.phase = .spawned → t.phase = .spawned
  accepted : t.accepted ≤ t'.accepted
  closed : t.hasEnded = true → t'.phase = t.phase ∧ t'.accepted = t.accepted

namespace Onward

theorem marked (hcore : t'.core = t.core) : t.Onward t' := by
  obtain ⟨-, haccepted, hphase⟩ := fields_of_core hcore
  exact ⟨becomes_of_core hcore.symm, fun h => hphase ▸ h, Nat.le_of_eq haccepted.symm,
    fun _ => ⟨hphase, haccepted⟩⟩

theorem trans (h : t.Onward t') (h' : t'.Onward t'') : t.Onward t'' where
  becomes := h.becomes.trans h'.becomes
  started := h.started ∘ h'.started
  accepted := Nat.le_trans h.accepted h'.accepted
  closed hended := by
    obtain ⟨hphase, haccepted⟩ := h.closed hended
    obtain ⟨hphase', haccepted'⟩ := h'.closed (h.becomes.ended hended)
    exact ⟨hphase'.trans hphase, haccepted'.trans haccepted⟩

theorem reached_le (h : t.Onward t') : t.reached ≤ t'.reached := by
  unfold reached
  by_cases hspawned : t.phase = .spawned
  · rw [if_pos hspawned]
    exact UInt8.zero_le
  · rw [if_neg hspawned, if_neg (mt h.started hspawned)]
    by_cases hnone : t.accepted = 0
    · rw [if_pos hnone]
      split <;> decide
    · have hlater : t'.accepted ≠ 0 := by
        have := h.accepted
        omega
      rw [if_neg hnone, if_neg hlater]
      exact UInt8.le_refl _

theorem reached_eq (h : t.Onward t') (hended : t.hasEnded = true) : t'.reached = t.reached := by
  obtain ⟨hphase, haccepted⟩ := h.closed hended
  rw [reached, reached, hphase, haccepted]

end Onward

end StreamTask

/-! ### What steps make of tasks -/

namespace Monitor

variable {m m' : Monitor} {h : Handle} {r : Resource} {i : Nat} {t t' : StreamTask}

/-- A task that goes on has come as far as it says. -/
theorem started_goOn {fresh : Bool} {feed : Option (Feed t.resource)} {reporter : Reporter}
    {accepted : Nat} (hopened : reporter.Opened)
    (hstreaming : reporter.last = some .streaming ↔ 0 < accepted) :
    (reporter.reportAll (t.goOn fresh feed).said).1.Opened ∧
      ((reporter.reportAll (t.goOn fresh feed).said).1.last = some .streaming ↔
        0 < accepted + (t.goOn fresh feed).messages.length) := by
  refine ⟨hopened.reportAll _, ?_⟩
  rw [Reporter.last_reportAll_eq_streaming_iff, hstreaming, t.said_goOn]
  cases (t.goOn fresh feed).messages with
  | nil => simp
  | cons m ms => exact iff_of_true (.inr (by simp)) (Nat.add_pos_right _ (Nat.succ_pos _))

/-- A task that goes on does not end without an outcome. -/
theorem phase_goOn_ne {fresh : Bool} {feed : Option (Feed t.resource)}
    (hgoes : t.hasEnded = false) : (t.goOn fresh feed).phase ≠ .ended none := by
  have hphase : t.phase ≠ .ended none := by
    intro hphase
    simp [StreamTask.hasEnded, hphase] at hgoes
  refine t.goOn_elim ?_ (fun _ _ => hphase) (fun _ _ _ _ _ => hphase) ?_
  · intro _ hended
    cases hended
  · intro _ _ _ _ _ hended
    cases hended

/-- A task stays candid when it takes its turn. -/
theorem candid_advance (m : Monitor) (ht : t.Candid) : (m.advance t).Candid := by
  refine ⟨counts_turn ht.counts m, fun h => absurd h (m.phase_turn_ne_spawned t), ?_, ?_⟩
  · change t.target.isSome = true → (m.turn t).phase ≠ .spawned → (m.turn t).phase ≠ .ended none →
      (t.reporter.reportAll (m.turn t).said).1.Opened ∧
        ((t.reporter.reportAll (m.turn t).said).1.last = some .streaming ↔
          0 < t.accepted + (m.turn t).messages.length)
    intro htarget
    unfold turn
    refine StreamTask.turn_elim ?_ ?_ ?_ ?_ ?_
    · exact fun _ hstarted hended => ht.started htarget hstarted hended
    · exact fun _ _ _ hended => absurd rfl hended
    · intro _ _ hnone
      rw [hnone] at htarget
      cases htarget
    · intro handle hspawned _ _ _ _
      have hfirst : (t.reporter.report .connecting).1.last = some .connecting := by
        simp [Reporter.report, Reporter.isNews, ht.spawned hspawned]
      have hnone : (t.reporter.report .connecting).1.last = some .streaming ↔ 0 < t.accepted := by
        simp [hfirst, ht.counts.spawned hspawned]
      exact started_goOn (t := { t with phase := .reading _ }) t.reporter.opened_report_connecting
        hnone
    · intro held hheld _ _ _
      obtain ⟨hopened, hstreaming⟩ := ht.started htarget (by simp [hheld]) (by simp [hheld])
      exact started_goOn hopened hstreaming
  · change (m.turn t).phase = .ended none → t.aborted = true
    unfold turn
    refine StreamTask.turn_elim ?_ ?_ ?_ ?_ ?_
    · exact fun _ hended => ht.aborted hended
    · exact fun _ haborted _ => haborted
    · intro _ _ _ hended
      cases hended
    · exact fun handle _ _ _ hended =>
        absurd hended (phase_goOn_ne (t := { t with phase := .reading _ }) rfl)
    · exact fun held hheld _ hended =>
        absurd hended (phase_goOn_ne (StreamTask.hasEnded_of_reading hheld))

theorem onward_advance (m : Monitor) (t : StreamTask) : t.Onward (m.advance t) := by
  have hover : t.hasEnded = true → (m.advance t).phase = t.phase ∧
      (m.advance t).accepted = t.accepted := by
    intro hended
    rw [advance, turn_of_hasEnded m hended]
    exact ⟨rfl, rfl⟩
  refine ⟨⟨rfl, rfl, t.generation_progress .., fun hended => ?_⟩, fun hspawned => ?_,
    Nat.le_add_right _ _, hover⟩
  · rw [StreamTask.hasEnded, (hover hended).1]
    exact hended
  · exact absurd hspawned (m.phase_turn_ne_spawned t)

/-- A step leaves a task that is there where it is: it puts marks on it, or gives it its turn. -/
theorem Step.exists_task (step : m.Step m') (ht : m.tasks[i]? = some t) :
    ∃ t', m'.tasks[i]? = some t' ∧
      (t'.core = t.core ∧ (t.aborted = true → t'.aborted = true) ∨ t' = m.advance t) := by
  have hsame : m'.tasks[i]? = some t → ∃ t', m'.tasks[i]? = some t' ∧
      (t'.core = t.core ∧ (t.aborted = true → t'.aborted = true) ∨ t' = m.advance t) :=
    fun ht' => ⟨t, ht', .inl ⟨rfl, id⟩⟩
  have habandoned : ∃ t', m.abandonTasks.tasks[i]? = some t' ∧
      (t'.core = t.core ∧ (t.aborted = true → t'.aborted = true) ∨ t' = m.advance t) := by
    rw [getElem?_tasks_abandonTasks, ht]
    refine ⟨_, rfl, .inl ?_⟩
    split
    · exact ⟨rfl, fun _ => rfl⟩
    · exact ⟨rfl, id⟩
  have hlt : i < m.tasks.length := (List.getElem?_eq_some_iff.mp ht).1
  cases step with
  | attach =>
      obtain ⟨t', ht', hcases⟩ := habandoned
      obtain ⟨hlt', -⟩ := List.getElem?_eq_some_iff.mp ht'
      exact ⟨t', (List.getElem?_append_left hlt').trans ht', hcases⟩
  | drop => exact habandoned
  | startOver | startDetached => exact hsame ((List.getElem?_append_left hlt).trans ht)
  | @readLog k u hu =>
      by_cases hki : k = i
      · subst hki
        obtain rfl := Option.some.inj (hu.symm.trans ht)
        exact ⟨_, List.getElem?_set_self hlt, .inl ⟨rfl, id⟩⟩
      · exact hsame ((List.getElem?_set_ne hki).trans ht)
  | cancel k =>
      by_cases hki : k = i
      · subst hki
        refine ⟨t.cancel, ?_, .inl ⟨rfl, id⟩⟩
        show (m.tasks.modify k (·.cancel))[k]? = _
        rw [List.getElem?_modify_eq, ht]
        rfl
      · exact hsame ((List.getElem?_modify_ne _ _ hki).trans ht)
  | run j =>
      by_cases hj : j = .stream i
      · subst hj
        exact ⟨_, getElem?_tasks_run_stream ht, .inr rfl⟩
      · exact hsame ((m.getElem?_tasks_run_of_ne hj).trans ht)
  | _ => exact hsame ht

/-- A task that was not there before is new. -/
theorem Step.isNew (step : m.Step m') (hnone : m.tasks[i]? = none) (ht' : m'.tasks[i]? = some t') :
    t'.IsNew ∧ t'.reporter.last = none := by
  have hadded : ∀ {old new : List StreamTask}, old.length = m.tasks.length →
      (∀ u ∈ new, u.IsNew ∧ u.reporter.last = none) → (old ++ new)[i]? = some t' →
        t'.IsNew ∧ t'.reporter.last = none := by
    intro old new hlength hnew hi
    have hge : old.length ≤ i := hlength ▸ List.getElem?_eq_none_iff.mp hnone
    rw [List.getElem?_append_right hge] at hi
    exact hnew t' (List.mem_of_getElem? hi)
  have hlength : m'.tasks.length = m.tasks.length → t'.IsNew ∧ t'.reporter.last = none := by
    intro hlength
    obtain ⟨hlt, -⟩ := List.getElem?_eq_some_iff.mp ht'
    have hge := List.getElem?_eq_none_iff.mp hnone
    omega
  have habandoned : m.abandonTasks.tasks.length = m.tasks.length := by
    simpa using congrArg List.length m.map_core_abandonTasks
  cases step with
  | @attach g handle =>
      refine hadded habandoned (fun u hu => ?_) ht'
      obtain ⟨r, -, rfl⟩ := List.mem_map.mp hu
      refine ⟨m.isNew_taskFor g handle r, ?_⟩
      cases handle <;> rfl
  | drop => exact hlength habandoned
  | startOver r k =>
      refine hadded rfl (fun u hu => ?_) ht'
      obtain rfl := List.mem_singleton.mp hu
      exact ⟨.attached r k _ .log, rfl⟩
  | startDetached r g =>
      refine hadded rfl (fun u hu => ?_) ht'
      obtain rfl := List.mem_singleton.mp hu
      exact ⟨.detached r g .log, rfl⟩
  | readLog => exact hlength (List.length_set ..)
  | cancel => exact hlength (List.length_modify ..)
  | run j =>
      have hkept := congrArg List.length (m.map_audience_run j)
      exact hlength (by simpa using hkept)
  | _ => exact hlength rfl

/-- Every task is candid. -/
theorem Reachable.candid (hm : m.Reachable) : ∀ t ∈ m.tasks, t.Candid := by
  obtain ⟨rate, hleads⟩ := hm
  induction hleads with
  | refl => exact fun t ht => absurd ht List.not_mem_nil
  | @tail n n' _ step ih =>
      intro u hu
      obtain ⟨j, hj⟩ := List.mem_iff_getElem?.mp hu
      cases ht : n.tasks[j]? with
      | none =>
          obtain ⟨hnew, hlast⟩ := step.isNew ht hj
          exact .isNew hnew hlast
      | some t =>
          have hcandid := ih t (List.mem_of_getElem? ht)
          obtain ⟨u', hu', hcases⟩ := step.exists_task ht
          obtain rfl := Option.some.inj (hj.symm.trans hu')
          rcases hcases with ⟨hcore, haborted⟩ | rfl
          · exact hcandid.marked hcore haborted
          · exact n.candid_advance hcandid

/-- A task stays where it is, and does not go back. -/
theorem exists_onward (hleads : m.Leads m') (ht : m.tasks[i]? = some t) :
    ∃ t', m'.tasks[i]? = some t' ∧ t.Onward t' := by
  induction hleads with
  | refl => exact ⟨t, ht, .marked rfl⟩
  | @tail n n' _ step ih =>
      obtain ⟨u, hu, hfirst⟩ := ih
      obtain ⟨t', ht', hcases⟩ := step.exists_task hu
      refine ⟨t', ht', hfirst.trans ?_⟩
      rcases hcases with ⟨hcore, -⟩ | rfl
      · exact .marked hcore
      · exact n.onward_advance u

/-! ### Carrying a connection -/

/-- A connect has brought the monitor here, and since then there was no other connect, no shutdown
and no drop. -/
structure Carries (m : Monitor) (h : Handle) : Prop where
  reachable : m.Reachable
  alive : m.alive = true
  epoch : m.epoch = (h.generation, some h)

/-- The task by which the monitor follows a resource. -/
def ownTask? (m : Monitor) (r : Resource) : Option StreamTask :=
  m.tasks.find? fun t => m.isHeeded t && t.resource == r

/-- How many messages of a resource were applied since the connect. -/
def applied (m : Monitor) (r : Resource) : Nat := ((m.ownTask? r).map (·.accepted)).getD 0

/-- How far the stream of a resource has come. -/
def reached (m : Monitor) (r : Resource) : StreamStatus :=
  ((m.ownTask? r).map (·.reached)).getD .idle

/-- A monitor with a handle follows every resource. -/
theorem Reachable.exists_heeded (hm : m.Reachable) (hhandle : m.handle.isSome = true)
    (r : Resource) : ∃ t ∈ m.tasks, m.Heeds t ∧ t.resource = r := by
  obtain ⟨rate, hleads⟩ := hm
  induction hleads with
  | refl => cases hhandle
  | @tail n n' _ step ih =>
      have hstays : n'.epoch = n.epoch → ∃ t ∈ n'.tasks, n'.Heeds t ∧ t.resource = r := by
        intro hepoch
        have hg : n'.generation = n.generation := congrArg Prod.fst hepoch
        have hh : n'.handle = n.handle := congrArg Prod.snd hepoch
        obtain ⟨t, ht, hheeds, hr⟩ := ih (hh ▸ hhandle)
        obtain ⟨i, hi⟩ := List.mem_iff_getElem?.mp ht
        obtain ⟨t', ht', honward⟩ := exists_onward (.single step) hi
        have hbecomes := honward.becomes
        refine ⟨t', List.mem_of_getElem? ht', ⟨hbecomes.audience.trans hheeds.1, ?_⟩,
          hbecomes.resource.trans hr⟩
        rw [hbecomes.generation, hheeds.2, hg]
      cases step with
      | @attach g handle _ hh =>
          refine ⟨n.taskFor g handle r, ?_, ⟨n.audience_taskFor g handle r, ?_⟩, ?_⟩
          · rw [tasks_attach]
            exact List.mem_append_right _ (List.mem_map_of_mem (Resource.mem_all r))
          · exact n.generation_taskFor hh r
          · cases handle <;> rfl
      | run j => exact hstays (n.epoch_run j)
      | _ => exact hstays rfl

/-- A status depicts the connection that a monitor carries. -/
structure Depicts (m : Monitor) (h : Handle) (s : BrokerStatus) : Prop where
  generation : s.generation = h.generation
  connected : s.phase = .connected ↔ ∃ r, 0 < m.applied r
  connecting : s.phase = .connecting ↔ ∀ r, m.applied r = 0
  attached : s.phase ≠ .disconnected
  /-- Each resource is shown as far as its stream has come, also where the stream is over. -/
  stream : ∀ r, ∃ t, m.ownTask? r = some t ∧ t.target = some h ∧ s.statusOf r = t.reached ∧
    ∀ o, t.outcome? = some o →
      s.statusOf r = if o.messages = 0 then .connecting else .streaming

namespace Carries

/-- A connect brings a monitor there. -/
theorem of_connect {url : String} (hm : m.Reachable) (alive : m.alive = true)
    (hconnect : m.connect url = (m', .ok h)) : m'.Carries h := by
  have hleads := leads_connect alive url
  rw [hconnect] at hleads
  rcases connect_cases m url with ⟨e, hc⟩ | ⟨e, hc⟩ | hc | ⟨g, endpoint, -, -, hc⟩ <;>
    cases hconnect.symm.trans hc
  exact ⟨hm.leads hleads, alive, rfl⟩

/-- It stays there until another generation is opened or the monitor is dropped. -/
theorem later (hm : m.Carries h) (hleads : m.Leads m') (alive : m'.alive = true)
    (hgeneration : m'.generation = h.generation) : m'.Carries h where
  reachable := hm.reachable.leads hleads
  alive := alive
  epoch := by
    have hfirst : m.generation = h.generation := congrArg Prod.fst hm.epoch
    rw [← hm.epoch]
    exact epoch_eq_of_leads hleads (by rw [hgeneration, hfirst])

theorem generation (hm : m.Carries h) : m.generation = h.generation := congrArg Prod.fst hm.epoch

theorem handle (hm : m.Carries h) : m.handle = some h := congrArg Prod.snd hm.epoch

/-- The task by which it follows a resource is the one that the board listens to. -/
theorem ownTask?_eq (hm : m.Carries h) (ht : m.tasks[i]? = some t) (hheeds : m.Heeds t) :
    m.ownTask? t.resource = some t := by
  have hfound : (m.ownTask? t.resource).isSome = true := by
    rw [ownTask?, List.find?_isSome]
    exact ⟨t, List.mem_of_getElem? ht, by simp [isHeeded_iff.mpr hheeds]⟩
  obtain ⟨u, hu⟩ := Option.isSome_iff_exists.mp hfound
  have hsought := List.find?_some hu
  simp only [Bool.and_eq_true, isHeeded_iff, beq_iff_eq] at hsought
  obtain ⟨j, hj⟩ := List.mem_iff_getElem?.mp (List.mem_of_find?_eq_some hu)
  obtain rfl := hm.reachable.exact.single i j t u ht hj hheeds hsought.1 hsought.2.symm
  rw [hu, ← hj, ht]

/-- There is one for each resource. It was not aborted, and the status shows what it has reached. -/
theorem exists_ownTask (hm : m.Carries h) (r : Resource) : ∃ (i : Nat) (t : StreamTask),
    m.tasks[i]? = some t ∧ m.Heeds t ∧ m.ownTask? r = some t ∧ t.resource = r ∧ t.target = some h ∧
    m.status.streams.get? r = some t.reached := by
  have hhandle : m.handle.isSome = true := by rw [hm.handle]; rfl
  obtain ⟨t, ht, hheeds, rfl⟩ := hm.reachable.exists_heeded hhandle r
  obtain ⟨i, hi⟩ := List.mem_iff_getElem?.mp ht
  have htarget : t.target = some h := (hm.reachable.staffed.posted t ht hheeds).1.trans hm.handle
  have haborted : t.aborted = false :=
    hm.reachable.retired.kept hm.alive i t hi hheeds.1 hheeds.2
  refine ⟨i, t, hi, hheeds, hm.ownTask?_eq hi hheeds, rfl, htarget, ?_⟩
  rw [(hm.reachable.exact.shown i t hi hheeds).shown]
  exact congrArg some ((hm.reachable.candid t ht).last_eq_reached (by rw [htarget]; rfl) haborted)

theorem reached_eq (hm : m.Carries h) (r : Resource) :
    m.status.streams.get? r = some (m.reached r) := by
  obtain ⟨i, t, -, -, hown, -, -, hshown⟩ := hm.exists_ownTask r
  rw [hshown, Monitor.reached, hown]
  rfl

/-- A stream is up once a message has been applied. -/
theorem reached_eq_streaming_iff (hm : m.Carries h) (r : Resource) :
    m.reached r = .streaming ↔ 0 < m.applied r := by
  obtain ⟨i, t, ht, -, hown, -⟩ := hm.exists_ownTask r
  have hcounts := (hm.reachable.candid t (List.mem_of_getElem? ht)).counts
  simp only [Monitor.reached, applied, hown, Option.map_some, Option.getD_some]
  rw [← StreamStatus.isUp_iff, StreamTask.isUp_reached_iff hcounts]

/-- Over a connection the status is made of what the streams have reached, and of nothing else. -/
theorem status_eq (hm : m.Carries h) : m.status = .ofReached h.generation m.reached := by
  have hexact : m.status.Exact true := by
    have hstatus := hm.reachable.exact.status
    rwa [hm.handle] at hstatus
  have hgeneration : m.status.generation = h.generation :=
    hm.reachable.exact.lockstep.status.trans hm.generation
  rw [← hgeneration]
  exact hexact.eq_ofReached m.reached hm.reached_eq

/-- While a monitor carries a connection, its status depicts it. -/
theorem depicts (hm : m.Carries h) : m.Depicts h m.status := by
  have hconnected : m.status.phase = .connected ↔ ∃ r, 0 < m.applied r := by
    rw [hm.status_eq, BrokerStatus.phase_ofReached_eq_connected_iff]
    simp only [hm.reached_eq_streaming_iff]
  have hconnecting : m.status.phase = .connecting ↔ m.status.phase ≠ .connected := by
    rw [hm.status_eq]
    exact BrokerStatus.phase_ofReached_eq_connecting_iff _ _
  refine ⟨by rw [hm.status_eq]; rfl, hconnected, ?_, ?_, fun r => ?_⟩
  · rw [hconnecting, ne_eq, hconnected]
    simp
  · intro hdisconnected
    rw [hdisconnected] at hconnecting
    exact absurd (hconnecting.mpr nofun) nofun
  · obtain ⟨i, t, ht, -, hown, -, htarget, hshown⟩ := hm.exists_ownTask r
    have hcounts := (hm.reachable.candid t (List.mem_of_getElem? ht)).counts
    have hstatus : m.status.statusOf r = t.reached := by
      rw [BrokerStatus.statusOf, hshown]
      rfl
    refine ⟨t, hown, htarget, hstatus, fun o ho => ?_⟩
    rw [hstatus]
    exact StreamTask.reached_of_outcome? hcounts ho

/-- What was applied is in the slot, for all who look there. Without clients there is nothing else
in the slot. -/
theorem isListingOf_of_applied (hm : m.Carries h) (r : Resource) :
    (0 < m.applied r → (m.snapshot r).isListingOf h.generation = true) ∧
      (m.Solo → (m.snapshot r).isListingOf h.generation = true → 0 < m.applied r) := by
  have hagreed : m.Agreed := by
    obtain ⟨rate, hleads⟩ := hm.reachable
    exact (Agreed.initial rate).leads (.initial rate) hleads
  have hgeneration : (m.snapshot r).generation = h.generation :=
    (hm.reachable.exact.lockstep.snapshot r).trans hm.generation
  have hlisting : (m.snapshot r).isListingOf h.generation = true ↔
      0 < (m.snapshot r).sequence := by
    simp [Snapshot.isListingOf, hgeneration]
  have hup : m.status.streams.get? r = some .streaming ↔ 0 < m.applied r := by
    rw [hm.reached_eq, Option.some.injEq, hm.reached_eq_streaming_iff]
  rw [hlisting, ← hup]
  exact ⟨hagreed.listed r, fun hsolo => hagreed.shown hsolo r⟩

/-- In a later state that still carries the connection each resource is followed by the same task,
which has not gone back. -/
theorem exists_onward_ownTask (hm : m.Carries h) (hleads : m.Leads m') (hm' : m'.Carries h)
    (r : Resource) : ∃ t t', m.ownTask? r = some t ∧ m'.ownTask? r = some t' ∧ t.Onward t' := by
  obtain ⟨i, t, ht, hheeds, hown, rfl, -⟩ := hm.exists_ownTask r
  obtain ⟨t', ht', honward⟩ := exists_onward hleads ht
  have hheeds' : m'.Heeds t' := by
    refine ⟨honward.becomes.audience.trans hheeds.1, ?_⟩
    rw [honward.becomes.generation, hheeds.2, hm.generation, hm'.generation]
  have hown' := hm'.ownTask?_eq ht' hheeds'
  rw [honward.becomes.resource] at hown'
  exact ⟨t, t', hown, hown', honward⟩

/-- So the status does not go back, and where a stream is over it stays as it was. -/
theorem reached_le (hm : m.Carries h) (hleads : m.Leads m') (hm' : m'.Carries h) (r : Resource) :
    m.reached r ≤ m'.reached r ∧
      ((m.ownTask? r).any (·.hasEnded) = true → m'.reached r = m.reached r) := by
  obtain ⟨t, t', hown, hown', honward⟩ := hm.exists_onward_ownTask hleads hm' r
  simp only [Monitor.reached, hown, hown', Option.map_some, Option.getD_some, Option.any_some]
  exact ⟨honward.reached_le, honward.reached_eq⟩

/-- A stream that is up stays up. -/
theorem streaming_stays (hm : m.Carries h) (hleads : m.Leads m') (hm' : m'.Carries h)
    {r : Resource} (hup : m.reached r = .streaming) : m'.reached r = .streaming := by
  have hle := (hm.reached_le hleads hm' r).1
  rw [hup] at hle
  revert hle
  cases m'.reached r <;> decide

end Carries

end Monitor

end BrokerMonitor
