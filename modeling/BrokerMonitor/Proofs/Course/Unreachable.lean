import BrokerMonitor.Proofs.Course.StatusReport
/-!
# Where nobody listens

A monitor connects to an address at which nobody listens as it does to any other. Both streams are
opened and fail at once with the error of the transport. The status goes on to show them as
connecting, and no listing comes.
-/

namespace BrokerMonitor

namespace Monitor

variable {m m' : Monitor} {i : Nat} {r : Resource} {o : Outcome}

/-- The task at a place has ended with an outcome, or does so when it is first run. -/
def EndsWith (m : Monitor) (i : Nat) (r : Resource) (o : Outcome) : Prop :=
  ∃ t, m.tasks[i]? = some t ∧ t.resource = r ∧ (t.phase = .spawned ∨ t.hasEnded = true) ∧
    (m.turn t).phase = .ended (some o)

/-- A task that starts ends with the failure that comes first in the feed within its reach. -/
theorem turn_of_failing {t : StreamTask} (hstarts : t.starts = true)
    (hcancelled : t.cancelled = false) {place : Nat} (hreach : m.reach t = some place)
    {f : Feed t.resource} (hf : (m.feeds.get t.resource)[place]? = some f) {error : StreamError}
    {rest : List t.resource.Item} (hpending : f.pending = .error error :: rest) :
    (m.turn t).phase = .ended (some (.failed t.accepted error.message)) := by
  obtain ⟨hspawned, haborted⟩ := StreamTask.starts_eq_true_iff.mp hstarts
  have hended := StreamTask.hasEnded_of_spawned hspawned
  have hfeed : m.feedAt t.resource (some place) = some f := hf
  rw [reach_of_starts m hstarts] at hreach
  obtain ⟨h, htarget, -⟩ := Option.bind_eq_some_iff.mp hreach
  rw [turn, reach_of_starts m hstarts, hreach, hfeed]
  simp [StreamTask.turn, hended, haborted, hspawned, htarget, StreamTask.goOn, hcancelled, hpending,
    Reading.ending, Turn.andThen]

namespace EndsWith

theorem of_agree (h : m.EndsWith i r o) (hagree : m'.Agree m) : m'.EndsWith i r o := by
  obtain ⟨t, ht, hresource, hplace, hphase⟩ := h
  exact ⟨t, hagree.tasks ▸ ht, hresource, hplace, hagree.turn t ▸ hphase⟩

/-- Whoever is run, it stays so: the turn of a task does not depend on the others. -/
theorem runStream (h : m.EndsWith i r o) (hm : m.Clientless) (j : Nat) :
    (m.runStream j).EndsWith i r o := by
  obtain ⟨t, ht, hresource, hplace, hphase⟩ := h
  by_cases hji : j = i
  · subst hji
    have hended : (t.progress (m.turn t).said (m.turn t).messages.length
        (m.turn t).phase).hasEnded = true := by
      simp [StreamTask.hasEnded, StreamTask.progress, hphase]
    rw [runStream_eq_turn ht]
    refine ⟨_, getElem?_tasks_progress ht _, hresource, .inr hended, ?_⟩
    exact (congrArg Turn.phase (turn_of_hasEnded _ hended)).trans hphase
  · cases hu : m.tasks[j]? with
    | none =>
        rw [runStream_of_missing hu]
        exact ⟨t, ht, hresource, hplace, hphase⟩
    | some u =>
        have htask : (m.runStream j).tasks[i]? = some t :=
          (m.getElem?_tasks_runStream_of_ne hji).trans ht
        have hsame := (turn_runStream hm.reachable hm.solo hji hu ht).1
        exact ⟨t, htask, hresource, hplace, hsame ▸ hphase⟩

theorem run (h : m.EndsWith i r o) (hm : m.Clientless) (j : Job) : (m.run j).EndsWith i r o := by
  cases j with
  | stream k => exact (h.runStream hm k).of_agree (Agree.run_stream m k)
  | observer k => exact h.of_agree (Agree.run_observer m k)

theorem runAll (h : m.EndsWith i r o) (hm : m.Clientless) (js : List Job) :
    (m.runAll js).EndsWith i r o := by
  induction js generalizing m with
  | nil => exact h
  | cons j js ih => exact ih (h.run hm j) (hm.run j)

/-- Once everything has settled the task has been run. -/
theorem settle (h : m.EndsWith i r o) (hm : m.Clientless) :
    ∃ t ∈ m.settle.tasks, t.resource = r ∧ t.outcome? = some o := by
  have hsettled : m.settle.EndsWith i r o := by
    rw [Monitor.settle, settleWithin_eq_runAll]
    exact h.runAll hm _
  obtain ⟨t, ht, hresource, hspawned | hended, hphase⟩ := hsettled
  · have hidle := hm.reachable.atRest_settle.idle (.stream i)
    simp [isReady, streamReady, ht, StreamTask.hasEnded_of_spawned hspawned, hspawned] at hidle
  · rw [turn_of_hasEnded _ hended] at hphase
    exact ⟨t, List.mem_of_getElem? ht, hresource, StreamTask.outcome?_eq_some_iff.mpr hphase⟩

end EndsWith

/-- The stream of a resource was opened and has failed before any message. The status still shows
it as connecting. -/
structure HasFailed (m : Monitor) (r : Resource) (error : StreamError) : Prop where
  task : ∃ t ∈ m.tasks, t.resource = r ∧ t.outcome? = some (.failed 0 error.message)
  status : m.status.streams.get? r = some .connecting
  snapshot : m.snapshot r = .empty m.generation

end Monitor

namespace Scenario

/-- The error of every stream where nobody listens. -/
def nobody : StreamError := .status .unavailable "tcp connect error"

variable (rate : Option UInt32) (e : Endpoint)

theorem get_events_unreachable (rate : UInt32) (r : Resource) :
    (unreachable.events rate).get r = [⟨0, .item (.error nobody)⟩] := by
  cases r <;> rfl

theorem times_unreachable (rate : UInt32) : times (unreachable.events rate) = [0] := by
  have hzeros : times (unreachable.events rate) = [0, 0, 0].mergeSort.eraseReps := rfl
  rw [hzeros]
  simp [List.mergeSort, List.MergeSort.Internal.splitInTwo]
  rfl

/-- The monitor has connected, and the error waits in both feeds. -/
def struck : Monitor :=
  (((unreachable.course rate e).start.send ⟨.channels, 0⟩ (.error nobody)).1.send ⟨.adapters, 0⟩
    (.error nobody)).1

theorem later_unreachable : (unreachable.course rate e).later = [⟨0, (struck rate e).settle⟩] := by
  rw [later_course, times_unreachable]
  rfl

theorem clientless_struck : (struck rate e).Clientless := by
  have hstart := (unreachable.serves_start rate e).clientless
  have hchannels : (deliver .channels 0 (unreachable.course rate e).start
      [.item (.error nobody)]).Clientless := clientless_deliver hstart _
  exact clientless_deliver (r := .adapters) hchannels [.item (.error nobody)]

/-- Each task finds the error in its feed. -/
theorem endsWith_struck (r : Resource) :
    ∃ i, (struck rate e).EndsWith i r (.failed 0 nobody.message) := by
  let task (r : Resource) : StreamTask := .attached r (firstHandle e) (rate.getD 0) .board
  have hfeeds : (struck rate e).feeds.get r = [{ host := e.host, pending := [.error nobody] }] := by
    cases r <;> rfl
  have hreach : (struck rate e).reach (task r) = some 0 := by
    rw [Monitor.reach_of_starts _ rfl]
    show Feeds.offered? ((struck rate e).feeds.get r) e.host = some 0
    rw [hfeeds]
    simp [Feeds.offered?, Feed.isOffered]
  have hfeed : ((struck rate e).feeds.get r)[0]? =
      some { host := e.host, pending := [.error nobody] } := by
    rw [hfeeds]
    rfl
  have hphase := Monitor.turn_of_failing rfl rfl hreach hfeed rfl
  cases r with
  | channels => exact ⟨0, task .channels, rfl, rfl, .inl rfl, hphase⟩
  | adapters => exact ⟨1, task .adapters, rfl, rfl, .inl rfl, hphase⟩

/-- Right after the connect both streams fail. -/
theorem hasFailed_settle_struck (r : Resource) : (struck rate e).settle.HasFailed r nobody := by
  have hstate : (⟨0, (struck rate e).settle⟩ : Timed Monitor) ∈
      (unreachable.course rate e).later := by
    rw [later_unreachable]
    exact List.mem_singleton_self _
  have hmem := List.mem_cons_of_mem ⟨0, (unreachable.course rate e).start⟩ hstate
  refine ⟨?task, ?status, ?snapshot⟩
  case task =>
    obtain ⟨i, hends⟩ := endsWith_struck rate e r
    exact hends.settle (clientless_struck rate e)
  case status =>
    rw [((unreachable.carries_course rate e).states _ hmem).reached_eq,
      unreachable.reached_course rate e r hstate, get_events_unreachable]
    rfl
  case snapshot =>
    rw [unreachable.snapshot_course rate e r hstate, get_events_unreachable,
      (unreachable.serves_course rate e hmem).generation]
    rfl

end Scenario

end BrokerMonitor
