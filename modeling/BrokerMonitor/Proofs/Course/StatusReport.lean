import Mathlib.Data.List.Find
import Mathlib.Data.List.Pairwise
import BrokerMonitor.Proofs.Course.Exit
import BrokerMonitor.Proofs.Status.Reached
/-!
# What the status command prints

The command waits until every stream is up, or until its time is over, and then reads the status
once more to print it. Between the end of the wait and this reading the streams go on. As the status
of a connection does not go back, what the wait has seen still holds then.
-/

namespace BrokerMonitor

/-! ### Waiting for the status -/

namespace Monitor

variable {m m' : Monitor} {h : Handle}

/-- What comes to a monitor is a series of events for its board. -/
theorem exists_tracks_of_leads (hm : m.Reachable) (hleads : m.Leads m') :
    ∃ events, m.Tracks events m' := by
  induction hleads with
  | refl => exact ⟨[], .silent rfl fun k o ho => ⟨o, ho, rfl, id⟩⟩
  | tail hn step ih =>
      obtain ⟨first, hfirst⟩ := ih
      obtain ⟨later, hlater, -⟩ := step.exists_tracks (hm.leads hn).attentive.lined
      exact ⟨first ++ later, hfirst.trans hlater⟩

/-- A version of the status stands for one status. -/
theorem status_of_version_eq (hm : m.Reachable) (hleads : m.Leads m')
    (hversion : m'.board.status.version = m.board.status.version) : m'.status = m.status := by
  obtain ⟨events, htracks⟩ := exists_tracks_of_leads hm hleads
  have hnothing : m.status.recomputed events = [] := by
    have hcount := m.board.version_afterAll events
    rw [← htracks.board, hversion] at hcount
    exact List.length_eq_zero_iff.mp (Nat.left_eq_add.mp hcount)
  rw [htracks.status, hnothing]
  rfl

/-- Every stream is up. -/
def allUp (m : Monitor) : Bool := Resource.all.all fun r => (m.reached r).isUp

theorem allUp_iff : m.allUp = true ↔ ∀ r, m.reached r = .streaming := by
  simp only [allUp, List.all_eq_true, StreamStatus.isUp_iff]
  exact ⟨fun h r => h r r.mem_all, fun h r _ => h r⟩

/-- What the wait looks for is that every stream is up. -/
theorem Carries.isFullyUp_eq (hm : m.Carries h) :
    m.status.isFullyUp h.generation = m.allUp := by
  rw [Bool.eq_iff_iff, hm.status_eq, BrokerStatus.isFullyUp_ofReached, allUp_iff]

end Monitor

namespace Course

variable {c : Course} {h : Handle} {deadline : Nat}

theorem states_ne_nil (c : Course) : c.states ≠ [] := List.cons_ne_nil _ _

theorem value_getLast_states (c : Course) : (c.states.getLast c.states_ne_nil).value = c.last := by
  obtain ⟨start, later⟩ := c
  cases later with
  | nil => rfl
  | cons first rest =>
      have hlast : (first :: rest).getLast? = some ((first :: rest).getLast (by simp)) :=
        List.getLast?_eq_some_getLast _
      simp only [last, hlast, states, List.getLast_cons (List.cons_ne_nil first rest)]
      rfl

/-- A course in which something happens ends with its latest state. -/
theorem exists_last_later {c : Course} (hordered : c.later.Pairwise (·.time ≤ ·.time))
    (hne : c.later ≠ []) : ∃ state ∈ c.later, c.last = state.value ∧
      ∀ other ∈ c.later, other.time ≤ state.time := by
  refine ⟨c.later.getLast hne, List.getLast_mem hne, ?_, fun other hother => ?_⟩
  · simp [last, List.getLast?_eq_some_getLast hne]
  · exact hordered.rel_getLast_of_rel_getLast_getLast hother (Nat.le_refl _)

/-- The states of a monitor that carries a connection all along, whatever else happens. -/
structure Carries (c : Course) (h : Handle) : Prop where
  states : ∀ state ∈ c.states, state.value.Carries h
  leads : c.states.Pairwise fun earlier later => earlier.value.Leads later.value

/-- The first state before a deadline in which every stream is up. -/
def upBefore? (c : Course) (deadline : Nat) : Option (Timed Monitor) :=
  (c.before deadline).states.find? (·.value.allUp)

theorem allUp_of_upBefore? {state : Timed Monitor} (h : c.upBefore? deadline = some state) :
    state.value.allUp = true :=
  List.find?_some (p := fun state : Timed Monitor => state.value.allUp) h

/-- Where a wait for the streams ends: in this state, or at the deadline. -/
def waited (c : Course) (deadline : Nat) : Timed Monitor :=
  (c.upBefore? deadline).getD ⟨deadline, (c.before deadline).last⟩

namespace Carries

theorem before (hc : c.Carries h) (deadline : Nat) : (c.before deadline).Carries h where
  states state hstate := hc.states state (c.states_before_subset deadline hstate)
  leads := hc.leads.sublist (.cons_cons _ (List.takeWhile_sublist _))

/-- Whoever waits for the status gets to see the first state in which every stream is up. -/
theorem firstFullyUp?_eq_find? (hc : c.Carries h) :
    c.firstFullyUp? h.generation = c.states.find? (·.value.allUp) := by
  have hcoherent : c.states.Pairwise
      (Cell.Coherent fun state : Timed Monitor => state.value.board.status) := by
    refine hc.leads.imp_of_mem fun hfirst _ hleads hversion => ?_
    exact (Monitor.status_of_version_eq (hc.states _ hfirst).reachable hleads hversion.symm).symm
  refine (Cell.await_eq_find? _ hcoherent).trans ?_
  refine List.find?_congr fun state hstate => ?_
  exact (hc.states state hstate).isFullyUp_eq

theorem last (hc : c.Carries h) : c.last.Carries h := by
  rw [← c.value_getLast_states]
  exact hc.states _ (List.getLast_mem _)

theorem waited (hc : c.Carries h) (deadline : Nat) : (c.waited deadline).value.Carries h := by
  unfold Course.waited
  cases hup : c.upBefore? deadline with
  | none => exact (hc.before deadline).last
  | some state => exact (hc.before deadline).states state (List.mem_of_find?_eq_some hup)

/-- Whatever is up when the wait ends because every stream is, has stayed so later. -/
theorem streaming_of_upBefore? (hc : c.Carries h)
    (hup : (c.upBefore? deadline).isSome = true) {m : Monitor}
    (hleads : (c.waited deadline).value.Leads m) (hm : m.Carries h) (r : Resource) :
    m.reached r = .streaming := by
  obtain ⟨state, hstate⟩ := Option.isSome_iff_exists.mp hup
  have hwaited : c.waited deadline = state := by
    rw [Course.waited, hstate]
    rfl
  refine (hc.waited deadline).streaming_stays hleads hm ?_
  rw [hwaited]
  exact Monitor.allUp_iff.mp (allUp_of_upBefore? hstate) r

end Carries

end Course

/-! ### The course of a scenario -/

/-- Of what is in the order of its times, the first that is found is the earliest. -/
theorem Timed.time_le_of_find? {α : Type} {p : Timed α → Bool} {l : List (Timed α)}
    (hordered : l.Pairwise (·.time ≤ ·.time)) {first x : Timed α} (hfirst : l.find? p = some first)
    (hx : x ∈ l) (hp : p x = true) : first.time ≤ x.time := by
  obtain ⟨-, earlier, later, rfl, hearlier⟩ := List.find?_eq_some_iff_append.mp hfirst
  rcases List.mem_append.mp hx with hx | hx
  · have hnot := hearlier x hx
    rw [hp] at hnot
    cases hnot
  · rcases List.mem_cons.mp hx with rfl | hx
    · exact Nat.le_refl _
    · exact (List.pairwise_cons.mp (List.pairwise_append.mp hordered).2.1).1 x hx

/-- When a message has come on every stream, if one comes before any failure and end. -/
def Scenario.upAt? (events : EachResource StreamEvents) : Option Nat :=
  (StreamEvent.firstMessage? events.channels).bind fun first =>
    (StreamEvent.firstMessage? events.adapters).map (max first)

/-- How far the stream of a resource comes before a deadline. -/
def Scenario.reachedBefore (events : EachResource StreamEvents) (deadline : Nat) (r : Resource) :
    StreamStatus :=
  if deadline = 0 then .idle
  else if (StreamEvent.firstMessage? (events.get r)).any (· < deadline) then .streaming
  else .connecting

namespace Scenario

variable (s : Scenario) (rate : Option UInt32) (e : Endpoint)

theorem exists_upAt?_iff (events : EachResource StreamEvents) (time : Nat) :
    (∃ up, upAt? events = some up ∧ up ≤ time) ↔
      ∀ r, ∃ first, StreamEvent.firstMessage? (events.get r) = some first ∧ first ≤ time := by
  have hget : events.channels = events.get .channels ∧ events.adapters = events.get .adapters :=
    ⟨rfl, rfl⟩
  rw [upAt?, hget.1, hget.2]
  constructor
  · rintro ⟨up, hup, hle⟩
    obtain ⟨first, hfirst, hrest⟩ := Option.bind_eq_some_iff.mp hup
    obtain ⟨second, hsecond, rfl⟩ := Option.map_eq_some_iff.mp hrest
    intro r
    cases r with
    | channels => exact ⟨first, hfirst, by omega⟩
    | adapters => exact ⟨second, hsecond, by omega⟩
  · intro hall
    obtain ⟨first, hfirst, hle⟩ := hall .channels
    obtain ⟨second, hsecond, hle'⟩ := hall .adapters
    exact ⟨max first second, by rw [hfirst, hsecond]; rfl, by omega⟩

/-- Something happens at the time of a first message. -/
theorem mem_times_of_firstMessage? {events : EachResource StreamEvents} {r : Resource} {first : Nat}
    (h : StreamEvent.firstMessage? (events.get r) = some first) : first ∈ times events := by
  rw [StreamEvent.firstMessage?_eq_head?] at h
  obtain ⟨event, hevent, rfl⟩ := Option.map_eq_some_iff.mp h
  exact time_mem_times ((List.takeWhile_sublist _).subset (List.mem_of_mem_head? hevent))

theorem mem_times_of_upAt? {events : EachResource StreamEvents} {up : Nat}
    (h : upAt? events = some up) : up ∈ times events := by
  obtain ⟨first, hfirst, hrest⟩ := Option.bind_eq_some_iff.mp h
  obtain ⟨second, hsecond, rfl⟩ := Option.map_eq_some_iff.mp hrest
  rcases Nat.le_total first second with hle | hle
  · rw [Nat.max_eq_right hle]
    exact mem_times_of_firstMessage? (r := .adapters) hsecond
  · rw [Nat.max_eq_left hle]
    exact mem_times_of_firstMessage? (r := .channels) hfirst

theorem carries_course : (s.course rate e).Carries (firstHandle e) where
  states state hstate := by
    have hserves := s.serves_course rate e hstate
    exact ⟨hserves.clientless.reachable, hserves.alive, hserves.epoch⟩
  leads := s.leads_course rate e

theorem reached_start (r : Resource) : (s.course rate e).start.reached r = .idle := by
  have hstart := (s.carries_course rate e).states _ List.mem_cons_self
  have hshown := hstart.reached_eq r
  have hidle : (s.course rate e).start.status.streams.get? r = some .idle := by cases r <;> rfl
  exact Option.some.inj (hshown.symm.trans hidle)

/-- In each state after the start a stream has been opened, and is up if its first message has
come. -/
theorem reached_course (r : Resource) {state : Timed Monitor}
    (hstate : state ∈ (s.course rate e).later) : state.value.reached r =
      if (StreamEvent.firstMessage? ((s.events (rate.getD 0)).get r)).any (· ≤ state.time)
      then .streaming else .connecting := by
  have hmem : state ∈ (s.course rate e).states := List.mem_cons_of_mem _ hstate
  have hserves := s.serves_course rate e hmem
  obtain ⟨i, hcaught⟩ := s.caughtUp_course rate e r
  obtain ⟨t, ht, haborted, hfollows⟩ := (hcaught state hstate).follows
  have hshown := hfollows.streams_eq hserves.clientless ht haborted
  rw [((s.carries_course rate e).states state hmem).reached_eq] at hshown
  refine (Option.some.inj hshown).trans ?_
  rw [s.snapshot_course rate e r hstate]
  have hcome : (StreamEvent.firstMessage? ((s.events (rate.getD 0)).get r)).any
      (· ≤ state.time) = true ↔
        StreamEvent.messages (Timed.upTo state.time ((s.events (rate.getD 0)).get r)) ≠ [] := by
    rw [StreamEvent.messages_upTo_ne_nil_iff (s.pairwise_events _ r), Option.any_eq_true]
    simp
  simp only [hcome, Snapshot.after, List.length_eq_zero_iff, ne_eq, ite_not]

theorem allUp_start : (s.course rate e).start.allUp = false := by
  have hnot : ¬ (s.course rate e).start.allUp = true := by
    rw [Monitor.allUp_iff]
    intro hall
    have hup := hall .channels
    rw [s.reached_start] at hup
    cases hup
  simpa using hnot

/-- After the start the streams are up once a message has come on each of them. -/
theorem allUp_course {state : Timed Monitor} (hstate : state ∈ (s.course rate e).later) :
    state.value.allUp = true ↔
      ∃ up, upAt? (s.events (rate.getD 0)) = some up ∧ up ≤ state.time := by
  rw [Monitor.allUp_iff, exists_upAt?_iff]
  refine forall_congr' fun r => ?_
  rw [s.reached_course rate e r hstate]
  simp [Option.any_eq_true]

theorem ascending_later :
    ((s.course rate e).later.map (·.time)).Pairwise (· < ·) := by
  rw [map_time_later]
  exact (ascending_times _).1

theorem ordered_before (deadline : Nat) :
    ((s.course rate e).before deadline).later.Pairwise (·.time ≤ ·.time) := by
  have hascending := List.pairwise_map.mp (s.ascending_later rate e)
  exact (hascending.imp Nat.le_of_lt).sublist (List.takeWhile_sublist _)

/-- There is a state for each time at which something happens before the deadline. -/
theorem exists_state_before {time deadline : Nat} (htime : time ∈ times (s.events (rate.getD 0)))
    (hlt : time < deadline) :
    ∃ state ∈ ((s.course rate e).before deadline).later, state.time = time := by
  rw [← s.map_time_later rate e] at htime
  obtain ⟨state, hstate, rfl⟩ := List.mem_map.mp htime
  exact ⟨state, (Course.mem_later_before (s.ascending_later rate e)).mpr ⟨hstate, hlt⟩, rfl⟩

/-- A wait that finds the streams up finds them so before the deadline, and not before they are. -/
theorem of_upBefore? {deadline : Nat} {state : Timed Monitor}
    (h : (s.course rate e).upBefore? deadline = some state) :
    state ∈ (s.course rate e).later ∧ state.time < deadline ∧
      ∃ up, upAt? (s.events (rate.getD 0)) = some up ∧ up ≤ state.time := by
  have hall := Course.allUp_of_upBefore? h
  rcases List.mem_cons.mp (List.mem_of_find?_eq_some h) with rfl | hmem
  · rw [Course.start_before, s.allUp_start] at hall
    cases hall
  · obtain ⟨hlater, hlt⟩ := (Course.mem_later_before (s.ascending_later rate e)).mp hmem
    exact ⟨hlater, hlt, (s.allUp_course rate e hlater).mp hall⟩

/-- The wait ends when the streams are up, if this is before the deadline. -/
theorem upBefore?_course (deadline : Nat) :
    match (upAt? (s.events (rate.getD 0))).filter (· < deadline) with
    | some up => ∃ state ∈ (s.course rate e).later, state.time = up ∧
        (s.course rate e).upBefore? deadline = some state
    | none => (s.course rate e).upBefore? deadline = none := by
  cases hup : (upAt? (s.events (rate.getD 0))).filter (· < deadline) with
  | none =>
      refine Option.eq_none_iff_forall_ne_some.mpr fun state hstate => ?_
      obtain ⟨-, hlt, up, hsome, hle⟩ := s.of_upBefore? rate e hstate
      rw [hsome, Option.filter_some, if_pos (by simpa using Nat.lt_of_le_of_lt hle hlt)] at hup
      cases hup
  | some up =>
      obtain ⟨hsome, hlt⟩ := Option.filter_eq_some_iff.mp hup
      obtain ⟨state, hstate, rfl⟩ := s.exists_state_before rate e (mem_times_of_upAt? hsome)
        (of_decide_eq_true hlt)
      have hlater := (Course.mem_later_before (s.ascending_later rate e)).mp hstate
      have hall : state.value.allUp = true :=
        (s.allUp_course rate e hlater.1).mpr ⟨_, hsome, Nat.le_refl _⟩
      have hfound : ((s.course rate e).upBefore? deadline).isSome :=
        List.find?_isSome.mpr ⟨state, List.mem_cons_of_mem _ hstate, hall⟩
      obtain ⟨first, hfirst⟩ := Option.isSome_iff_exists.mp hfound
      obtain ⟨hmem, -, up, hsome', hle⟩ := s.of_upBefore? rate e hfirst
      obtain rfl := Option.some.inj (hsome.symm.trans hsome')
      -- The state at the time `up` is found too, so the first one found is no later.
      refine ⟨first, hmem, Nat.le_antisymm ?_ hle, hfirst⟩
      refine Timed.time_le_of_find? ?_ hfirst (List.mem_cons_of_mem _ hstate) hall
      exact .cons (fun _ _ => Nat.zero_le _) (s.ordered_before rate e deadline)

/-- What the streams have reached when the deadline comes. -/
theorem reached_last_before (deadline : Nat) (r : Resource) :
    ((s.course rate e).before deadline).last.reached r =
      reachedBefore (s.events (rate.getD 0)) deadline r := by
  unfold reachedBefore
  by_cases hzero : deadline = 0
  · rw [if_pos hzero, hzero]
    have hlast : ((s.course rate e).before 0).last = (s.course rate e).start := by
      simp [Course.last]
    rw [hlast, s.reached_start]
  · have hfirst : 0 ∈ times (s.events (rate.getD 0)) :=
      ((ascending_times _).2 0).mpr List.mem_cons_self
    obtain ⟨early, hearly, -⟩ := s.exists_state_before rate e hfirst (Nat.pos_of_ne_zero hzero)
    obtain ⟨state, hstate, hlast, hlatest⟩ :=
      Course.exists_last_later (s.ordered_before rate e deadline) (List.ne_nil_of_mem hearly)
    obtain ⟨hlater, hlt⟩ := (Course.mem_later_before (s.ascending_later rate e)).mp hstate
    rw [if_neg hzero, hlast, s.reached_course rate e r hlater]
    refine if_congr ?_ rfl rfl
    simp only [Option.any_eq_true, decide_eq_true_eq]
    constructor
    · rintro ⟨first, hsome, hle⟩
      exact ⟨first, hsome, Nat.lt_of_le_of_lt hle hlt⟩
    · rintro ⟨first, hsome, hbefore⟩
      obtain ⟨other, hother, rfl⟩ :=
        s.exists_state_before rate e (mem_times_of_firstMessage? hsome) hbefore
      exact ⟨_, hsome, hlatest other hother⟩

/-- When the wait ends, and what the streams have reached then. -/
theorem waited_course (deadline : Nat) :
    ((s.course rate e).waited deadline).time =
      ((upAt? (s.events (rate.getD 0))).filter (· < deadline)).getD deadline ∧
    ((s.course rate e).waited deadline).value.reached =
      reachedBefore (s.events (rate.getD 0)) deadline := by
  have hfind := s.upBefore?_course rate e deadline
  unfold Course.waited
  cases hup : (upAt? (s.events (rate.getD 0))).filter (· < deadline) with
  | none =>
      rw [hup] at hfind
      rw [hfind]
      exact ⟨rfl, funext (s.reached_last_before rate e deadline)⟩
  | some up =>
      rw [hup] at hfind
      obtain ⟨state, hstate, rfl, hstates⟩ := hfind
      obtain ⟨hsome, hlt⟩ := Option.filter_eq_some_iff.mp hup
      have hall := (s.allUp_course rate e hstate).mpr ⟨_, hsome, Nat.le_refl _⟩
      rw [hstates]
      refine ⟨rfl, funext fun r => (Monitor.allUp_iff.mp hall r).trans ?_⟩
      obtain ⟨first, hfirst, hle⟩ := (exists_upAt?_iff _ _).mp ⟨_, hsome, Nat.le_refl _⟩ r
      have hbefore : first < deadline := Nat.lt_of_le_of_lt hle (of_decide_eq_true hlt)
      rw [reachedBefore, hfirst, if_neg (Nat.ne_zero_of_lt hbefore)]
      simp [hbefore]

end Scenario

/-! ### The command -/

/-- A status is never printed as nothing. -/
theorem Output.isEmpty_renderStatus (format : OutputFormat) (url : String) (coloured : Bool)
    (s : BrokerStatus) : (renderStatus format url coloured s).isEmpty = false := by
  have hne : renderStatus format url coloured s ≠ "" := by
    intro hnothing
    have hnil := congrArg String.toList hnothing
    cases format with
    | table => simp [renderStatus] at hnil
    | json =>
        rw [renderStatus, String.toList_ofList] at hnil
        cases hnil
    | jsonCompact =>
        rw [renderStatus, String.toList_ofList] at hnil
        cases hnil
  simpa using hne

namespace CommandContext

variable (p : CommandContext)

/-- What `status` prints when it reads the status in a state, and how it ends. -/
def readStatus (state : Timed Monitor) : Ending :=
  p.printOnce state (Output.renderStatus p.resolved.output p.handle.endpoint.text p.coloured
    state.value.status)

theorem readStatus_eq {state : Timed Monitor} (hcarries : state.value.Carries p.handle) :
    p.readStatus state = {
      printed := if p.options.quiet then [] else [⟨state.time,
        Output.renderStatus p.resolved.output p.handle.endpoint.text p.coloured
          (.ofReached p.handle.generation state.value.reached) ++ "\n"⟩]
      time := some state.time
      monitor := state.value
      failure := none } := by
  rw [readStatus, hcarries.status_eq, printOnce, print]
  cases p.options.quiet <;> simp [Output.printed, Output.isEmpty_renderStatus]

/-- The command reads the status in the first state in which every stream is up, or when its time is
over. -/
theorem status_eq_readStatus {c : Course} (hc : c.Carries p.handle) (wait : UInt64) :
    p.status wait c = p.readStatus (c.waited (1000 * wait.toNat)) := by
  rw [status, (hc.before _).firstFullyUp?_eq_find?]
  rfl

/-- So does a run of the program. -/
theorem runResolved_eq_readStatus {o : CommandLine.Options} (s : Surroundings) {r : Resolved}
    {e : Endpoint} (hcommand : o.command = .status) (hparse : Endpoint.parse r.url = .ok e)
    (hrefusal : s.broker.refusal? e = none) : o.runResolved r s =
      .ofEnding ((o.context s r e).readStatus
        ((s.broker.course r.adapterHz e).waited o.patience)) := by
  have hc : (s.broker.course r.adapterHz e).Carries (o.context s r e).handle :=
    s.broker.carries_course r.adapterHz e
  have hperform : (o.context s r e).perform s.interrupt (s.broker.course r.adapterHz e) =
      (o.context s r e).status (o.wait.getD CommandLine.defaultWait)
        (s.broker.course r.adapterHz e) := by
    simp only [perform, CommandLine.Options.context, hcommand]
  rw [o.runResolved_of_connected s hparse hrefusal, hperform, status_eq_readStatus _ hc]
  rfl

/-- What `status` prints. Take any connect of any monitor, and whatever happens from then on, in any
order, as long as the monitor carries the connection: streams open, yield messages, fail, end or
stay silent, and observers and clients come and go. A course is any of the states on the way.

The command waits for the first state of the course in which every stream is up, up to its deadline,
and reads the status in some later state. It succeeds, and prints once what it reads; only a quiet
one prints nothing. The status is that of the connection. It is connected if a message of either
resource had been applied when it was read, and connecting otherwise, never disconnected. Each
resource is shown as far as its stream has come: a stream that has failed or ended is still shown
with the status that it had reached, which is told by the number of messages in its outcome. If the
wait has ended because every stream was up, every resource is shown as streaming, however much later
the status is read, as no status goes back.

A message counts as applied when the monitor's own task has put it into its slot, so that everybody
finds a listing there.

A run of the program goes through such a course and reads the status as soon as the wait is over.
What it prints, and when, depends only on the first thing that happens on each stream. -/
theorem status_prints_how_the_connection_stands :
    (∀ (m connected later : Monitor) (url : String) (h : Handle), m.Reachable → m.alive = true →
      m.connect url = (connected, .ok h) → connected.Leads later → later.alive = true →
        later.generation = h.generation → later.Carries h) ∧
    (∀ (p : CommandContext) (wait : UInt64) (c : Course), c.Carries p.handle →
      let deadline := 1000 * wait.toNat
      p.status wait c = p.readStatus (c.waited deadline) ∧
      ∀ now : Timed Monitor, (c.waited deadline).value.Leads now.value →
        now.value.Carries p.handle →
        let status := BrokerStatus.ofReached p.handle.generation now.value.reached
        p.readStatus now = {
          printed := if p.options.quiet then [] else [⟨now.time,
            Output.renderStatus p.resolved.output p.handle.endpoint.text p.coloured status ++ "\n"⟩]
          time := some now.time
          monitor := now.value
          failure := none } ∧
        now.value.Depicts p.handle status ∧
        ((c.upBefore? deadline).isSome = true → ∀ r, status.statusOf r = .streaming) ∧
        ∀ r : Resource,
          (0 < now.value.applied r →
            (now.value.snapshot r).isListingOf p.handle.generation = true) ∧
          (now.value.Solo → (now.value.snapshot r).isListingOf p.handle.generation = true →
            0 < now.value.applied r) ∧
          ∀ before : Monitor, before.Carries p.handle → before.Leads now.value →
            before.reached r ≤ status.statusOf r ∧
            ((before.ownTask? r).any (·.hasEnded) = true →
              status.statusOf r = before.reached r)) ∧
    ∀ (o : CommandLine.Options) (s : Surroundings) (r : Resolved) (e : Endpoint),
      o.command = .status → Endpoint.parse r.url = .ok e → s.broker.refusal? e = none →
      let events := s.broker.events (r.adapterHz.getD 0)
      let time := ((Scenario.upAt? events).filter (· < o.patience)).getD o.patience
      let run := o.runResolved r s
      (s.broker.course r.adapterHz e).Carries (Scenario.firstHandle e) ∧
      run.exitCode = 0 ∧ run.time = some time ∧
      run.printed = if o.quiet then [] else [⟨time, Output.renderStatus r.output e.text
        (o.color.isOn s.showsColour)
        (.ofReached ⟨1⟩ (Scenario.reachedBefore events o.patience)) ++ "\n"⟩] := by
  refine ⟨?_, ?_, ?_⟩
  · intro m connected later url h hm alive hconnect hleads halive hgeneration
    exact (Monitor.Carries.of_connect hm alive hconnect).later hleads halive hgeneration
  · intro p wait c hc deadline
    refine ⟨p.status_eq_readStatus hc wait, fun now hleads hnow => ?_⟩
    intro status
    have hstatus : now.value.status = status := hnow.status_eq
    refine ⟨p.readStatus_eq hnow, hstatus ▸ hnow.depicts, fun hup r => ?_, ?_⟩
    · rw [BrokerStatus.statusOf_ofReached]
      exact hc.streaming_of_upBefore? hup hleads hnow r
    · intro r
      obtain ⟨hlisted, happlied⟩ := hnow.isListingOf_of_applied r
      refine ⟨hlisted, happlied, fun before hbefore hlater => ?_⟩
      rw [BrokerStatus.statusOf_ofReached]
      exact hbefore.reached_le hlater hnow r
  · intro o s r e hcommand hparse hrefusal events time run
    have hc := s.broker.carries_course r.adapterHz e
    obtain ⟨htime, hreached⟩ := s.broker.waited_course r.adapterHz e o.patience
    have hrun : run = .ofEnding _ := runResolved_eq_readStatus s hcommand hparse hrefusal
    rw [readStatus_eq _ (hc.waited o.patience), htime, hreached] at hrun
    rw [hrun]
    exact ⟨hc, rfl, rfl, rfl⟩

/-- One stream ends after its first message, the other one fails before. -/
theorem status_prints_how_the_connection_stands_past_a_failure :
    let s : Surroundings := {
      env := fun _ => none
      broker := { streams :=
        ⟨[⟨5, .item (.ok [])⟩, ⟨9, .finished⟩], [⟨7, .item (.error (.transport "reset"))⟩]⟩ } }
    let o : CommandLine.Options :=
      { (default : CommandLine.Options) with command := .status, wait := some 2 }
    let r : Resolved := { (default : Resolved) with url := "http://[::1]", output := .jsonCompact }
    (o.runResolved r s).exitCode = 0 ∧ (o.runResolved r s).printed = [⟨2000,
      "\x7b\"url\":\"http://[::1]/\",\"phase\":\"connected\",\"loading\":false," ++
      "\"connected\":true,\"per_resource\":" ++
      "\x7b\"channels\":\"streaming\",\"adapters\":\"connecting\"\x7d,\"generation\":1\x7d\n"⟩] := by
  intro s o r
  have hparses : (Endpoint.parse r.url).toOption.map (·.text) = some "http://[::1]/" := by
    decide +kernel
  cases hparse : Endpoint.parse r.url with
  | error error =>
      rw [hparse] at hparses
      cases hparses
  | ok e =>
      rw [hparse] at hparses
      have htext : e.text = "http://[::1]/" := Option.some.inj hparses
      obtain ⟨-, hexit, -, hprinted⟩ :=
        status_prints_how_the_connection_stands.2.2 o s r e rfl hparse rfl
      refine ⟨hexit, hprinted.trans ?_⟩
      rw [htext]
      decide +kernel

end CommandContext

end BrokerMonitor
