import BrokerMonitor.Proofs.Course.StatusReport
import BrokerMonitor.Proofs.Listing.Origin
import BrokerMonitor.Proofs.Listing.Search
/-!
# The listing that a command prints

The commands that print a listing search the slot of their resource for a listing of their own
connection, up to a deadline. Whatever is written to the slot in the meantime, the search ends with
the first listing that it sees, it misses none that stays, and a reset is no listing to it. In a run
of the program the deadline cuts the search off between two moments: a first message that comes
before it is printed, and one that comes at it or later is not.
-/

namespace BrokerMonitor

variable {r : Resource}

namespace CommandContext

/-- A command that sees a listing in time prints it. -/
theorem list_of_found {p : CommandContext} {wait : UInt64} {c : Course} {state : Timed Monitor}
    (h : (c.before (1000 * wait.toNat)).firstListing? r p.handle.generation = some state) :
    p.list r wait c = p.printOnce state
      (Output.renderListing p.resolved.output r (state.value.snapshot r).records) := by
  simp only [list, h]

/-- A command that sees none fails when its time is over. -/
theorem list_of_not_found {p : CommandContext} {wait : UInt64} {c : Course}
    (h : (c.before (1000 * wait.toNat)).firstListing? r p.handle.generation = none) :
    p.list r wait c = {
      printed := []
      time := some (1000 * wait.toNat)
      monitor := (c.before (1000 * wait.toNat)).last
      failure := some (.timeout p.handle.endpoint.text r.awaited wait) } := by
  simp only [list, h]

end CommandContext

/-! ### In a run of the program -/

/-- What a slot holds after a message. -/
theorem Snapshot.after_concat (g : Generation) (seen : List r.Message) (last : r.Message) :
    after g (seen ++ [last]) = ⟨g, r.listing last, seen.length + 1⟩ := by
  simp [after]

namespace Scenario

variable (s : Scenario) (rate : Option UInt32) (e : Endpoint)

/-- Whoever waits for a listing sees it at the time of the first message. -/
theorem exists_firstListing? {first deadline : Nat}
    (hfirst : StreamEvent.firstMessage? ((s.events (rate.getD 0)).get r) = some first)
    (hlt : first < deadline) :
    ∃ state ∈ (s.course rate e).later, state.time = first ∧
      ((s.course rate e).before deadline).firstListing? r ⟨1⟩ = some state := by
  have hfound := (s.isSome_firstListing?_iff rate e r deadline).mpr ⟨first, hfirst, hlt⟩
  obtain ⟨state, hstate⟩ := Option.isSome_iff_exists.mp hfound
  have hfind := hstate
  rw [firstListing?_before] at hfind
  have hlisting : (state.value.snapshot r).isListingOf ⟨1⟩ = true :=
    List.find?_some (p := fun state : Timed Monitor => (state.value.snapshot r).isListingOf ⟨1⟩)
      hfind
  have hlater : state ∈ (s.course rate e).later := by
    obtain rfl | hmem := List.mem_cons.mp (List.mem_of_find?_eq_some hfind)
    · simp [Course.start_before] at hlisting
    · exact ((Course.mem_later_before (s.ascending_later rate e)).mp hmem).1
  refine ⟨state, hlater, Nat.le_antisymm ?_ ?_, hstate⟩
  · -- The state at the time of the first message shows a listing too.
    obtain ⟨early, hearly, rfl⟩ :=
      s.exists_state_before rate e (mem_times_of_firstMessage? hfirst) hlt
    have hmem := ((Course.mem_later_before (s.ascending_later rate e)).mp hearly).1
    refine Timed.time_le_of_find? ?_ hfind (List.mem_cons_of_mem _ hearly) ?_
    · exact .cons (fun _ _ => Nat.zero_le _) (s.ordered_before rate e deadline)
    · exact (s.isListingOf_course rate e r hmem).mpr ⟨_, hfirst, Nat.le_refl _⟩
  · obtain ⟨time, htime, hle⟩ := (s.isListingOf_course rate e r hlater).mp hlisting
    obtain rfl := Option.some.inj (hfirst.symm.trans htime)
    exact hle

end Scenario

namespace CommandLine.Options

variable {o : Options} {s : Surroundings} {settings : Resolved} {e : Endpoint} {first : Nat}

/-- A run that prints a listing waits for it over its connection. -/
theorem runResolved_of_listed (hlisted : o.command.listed? = some r)
    (hparse : Endpoint.parse settings.url = .ok e) (hrefusal : s.broker.refusal? e = none) :
    o.runResolved settings s =
      .ofEnding ((o.context s settings e).list r (o.wait.getD CommandLine.defaultWait)
        (s.broker.course settings.adapterHz e)) := by
  rw [o.runResolved_of_connected s hparse hrefusal, CommandContext.perform]
  cases hcommand : o.command with
  | watch | status => simp [hcommand, Command.listed?] at hlisted
  | channels | adapters =>
      obtain rfl : _ = r := by simpa [hcommand, Command.listed?] using hlisted
      simp only [context, hcommand]

/-- It prints the last of the messages that come at the time of the first one. -/
theorem exists_ending_of_listed (hlisted : o.command.listed? = some r)
    (hparse : Endpoint.parse settings.url = .ok e) (hrefusal : s.broker.refusal? e = none)
    (hfirst : StreamEvent.firstMessage?
      ((s.broker.events (settings.adapterHz.getD 0)).get r) = some first)
    (hlt : first < o.patience) :
    ∃ seen last m, StreamEvent.messages (Timed.upTo first
        ((s.broker.events (settings.adapterHz.getD 0)).get r)) = seen ++ [last] ∧
      o.runResolved settings s = .ofEnding ((o.context s settings e).printOnce ⟨first, m⟩
        (Output.renderListing settings.output r (r.listing last))) := by
  have hsome := (StreamEvent.messages_upTo_ne_nil_iff
    (s.broker.pairwise_events (settings.adapterHz.getD 0) r) first).mpr
      ⟨first, hfirst, Nat.le_refl _⟩
  obtain ⟨seen, last, hmessages⟩ := (List.eq_nil_or_concat' _).resolve_left hsome
  obtain ⟨state, hstate, rfl, hsought⟩ :=
    s.broker.exists_firstListing? settings.adapterHz e hfirst hlt
  have hsnapshot := s.broker.snapshot_course settings.adapterHz e r hstate
  rw [hmessages, Snapshot.after_concat] at hsnapshot
  refine ⟨seen, last, state.value, hmessages, ?_⟩
  rw [runResolved_of_listed hlisted hparse hrefusal, CommandContext.list_of_found hsought,
    hsnapshot]
  rfl

/-- Without a message in time it fails at the deadline. -/
theorem exists_ending_of_late (hlisted : o.command.listed? = some r)
    (hparse : Endpoint.parse settings.url = .ok e) (hrefusal : s.broker.refusal? e = none)
    (hlate : ∀ first, StreamEvent.firstMessage?
      ((s.broker.events (settings.adapterHz.getD 0)).get r) = some first → o.patience ≤ first) :
    ∃ m, o.runResolved settings s = .ofEnding {
      printed := []
      time := some o.patience
      monitor := m
      failure := some (.timeout e.text r.awaited (o.wait.getD CommandLine.defaultWait)) } := by
  have hnone : ((s.broker.course settings.adapterHz e).before o.patience).firstListing? r ⟨1⟩ =
      none := by
    rw [← Option.not_isSome_iff_eq_none, Scenario.isSome_firstListing?_iff]
    rintro ⟨first, hfirst, hlt⟩
    exact absurd (hlate first hfirst) (Nat.not_le.mpr hlt)
  refine ⟨((s.broker.course settings.adapterHz e).before o.patience).last, ?_⟩
  rw [runResolved_of_listed hlisted hparse hrefusal, CommandContext.list_of_not_found hnone]
  rfl

end CommandLine.Options

/-! ### The command -/

namespace CommandContext

/-- What a command that waits for a listing comes to, in the states of a course in which the slot
changes by nothing but writes. -/
theorem list_of_written {c : Course} {wait : UInt64} (p : CommandContext)
    (hordered : c.later.Pairwise (·.time ≤ ·.time)) :
    let looks := c.inTime (1000 * wait.toNat)
    let lists := fun state : Timed Monitor =>
      (state.value.snapshot r).isListingOf p.handle.generation
    Slot.Written (fun state : Timed Monitor => state.value.store.get r) looks.states →
    (∀ state, looks.states.find? lists = some state → p.list r wait c = p.printOnce state
      (Output.renderListing p.resolved.output r (state.value.snapshot r).records)) ∧
    (looks.states.find? lists = none → p.list r wait c = {
      printed := []
      time := some (1000 * wait.toNat)
      monitor := looks.last
      failure := some (.timeout p.handle.endpoint.text r.awaited wait) }) := by
  intro looks lists hwritten
  have hlooks : c.before (1000 * wait.toNat) = looks := Course.before_eq_inTime hordered _
  have hfirst : looks.firstListing? r p.handle.generation = looks.states.find? lists :=
    Course.firstListing?_eq_find? hwritten
  constructor
  · intro state hstate
    exact list_of_found (by rw [hlooks, hfirst, hstate])
  · intro hnone
    rw [list_of_not_found (by rw [hlooks, hfirst, hnone]), hlooks]

/-- A command that waits for a listing gets the right one. Its search makes its turns while anything
happens to the slot: writes of any generation, the calls of others and the end of the store, in any
order, before the subscription and after it. It finds the first listing of its own generation that
it sees, and nothing if it sees none. What it finds was in the slot at that moment, and the last
write that the slot had accepted was a listing of this generation. A listing that stays in the slot
is found with two turns, and one that is there when the search first looks with a single one.

The command is this search, with at least three turns in each state that it gets to look at before
its time is over: the state at its start, and those whose time is before the deadline. Where the
slot changes by nothing but writes, the command prints the listing of the first such state that
shows one, and otherwise fails with a timeout that names the address of its connection and the
seconds. In the states that a monitor goes through, such a listing was delivered by a stream over a
connection of the same generation.

So a run of the program succeeds if the first thing on its stream is a message that comes before the
deadline, and then prints at its time the last of the messages that come at this time. In all other
cases, also if a message comes at the deadline or later, it prints nothing and fails at the
deadline. -/
theorem list_waits_for_its_own_listing (p : CommandContext) (r : Resource) (wait : UInt64) :
    let g := p.handle.generation
    (∀ (past : List (Publication.Event r.Record)) (moves : List (Pursuit.Move r.Record)),
      let start := Pursuit.start (Publication.new.actAll past)
      let now := start.actAll g moves
      now.search.found? = (start.sights g moves).find? (·.isListingOf g) ∧
      (∀ s ∈ start.sights g moves, ∃ earlier later, moves = earlier ++ .turn :: later ∧
        (start.actAll g earlier).site.slot.value = s ∧
        (s.isListingOf g = true →
          Slot.initial.Delivers (Publication.written (past ++ Pursuit.events earlier)) g)) ∧
      (now.site.slot.value.isListingOf g = true →
        (now.actAll g [.turn, .turn]).search.found? =
          now.search.found?.or (some now.site.slot.value)) ∧
      (.turn ∉ moves → now.site.slot.value.isListingOf g = true →
        (now.act g .turn).search = .found now.site.slot.value)) ∧
    (∀ c : Course, c.later.Pairwise (·.time ≤ ·.time) →
      let deadline := 1000 * wait.toNat
      let looks := c.inTime deadline
      let slot := fun state : Timed Monitor => state.value.store.get r
      let lists := fun state : Timed Monitor => (state.value.snapshot r).isListingOf g
      (∀ state, state ∈ looks.states ↔
        state = ⟨0, c.start⟩ ∨ state ∈ c.later ∧ state.time < deadline) ∧
      (∀ turns, 3 ≤ turns →
        (Search.attend slot g turns looks.states (.looking (.start (c.start.store.get r)))).found? =
          (looks.firstListing? r g).map (·.value.snapshot r)) ∧
      (Slot.Written slot looks.states →
        (∀ state, looks.states.find? lists = some state → p.list r wait c = p.printOnce state
          (Output.renderListing p.resolved.output r (state.value.snapshot r).records)) ∧
        (looks.states.find? lists = none → p.list r wait c = {
          printed := []
          time := some deadline
          monitor := looks.last
          failure := some (.timeout p.handle.endpoint.text r.awaited wait) })) ∧
      ∀ rate, (Monitor.initial rate).Leads c.start →
        (looks.states.Pairwise fun a b => a.value.Leads b.value) →
          Slot.Written slot looks.states ∧
          ∀ state ∈ looks.states, lists state = true → state.value.Delivered rate r g) ∧
    ∀ (o : CommandLine.Options) (s : Surroundings) (settings : Resolved) (e : Endpoint),
      o.command.listed? = some r → Endpoint.parse settings.url = .ok e →
      s.broker.refusal? e = none →
      let events := (s.broker.events (settings.adapterHz.getD 0)).get r
      let run := o.runResolved settings s
      match (StreamEvent.firstMessage? events).filter (· < o.patience) with
      | some first => run.failure = none ∧ run.time = some first ∧
          ∃ seen last, StreamEvent.messages (Timed.upTo first events) = seen ++ [last] ∧
            run.printed = (o.context s settings e).print
              ⟨first, Output.renderListing settings.output r (r.listing last)⟩
      | none => run.printed = [] ∧ run.time = some o.patience ∧ run.failure =
          some (.timeout e.text r.awaited (o.wait.getD CommandLine.defaultWait)) := by
  intro g
  refine ⟨fun past moves => ?_, fun c hordered => ⟨?_, ?_, p.list_of_written hordered, ?_⟩, ?_⟩
  · intro start now
    have halert : now.Alert g := (Pursuit.Alert.start g _).actAll moves
    refine ⟨start.found?_actAll g moves, ?_, Pursuit.found_of_alert halert, ?_⟩
    · intro s hs
      obtain ⟨earlier, later, hmoves, hslot⟩ := Pursuit.exists_of_mem_sights hs
      refine ⟨earlier, later, hmoves, hslot, fun hlisting => Slot.delivers_initial ?_⟩
      have hsite : (start.actAll g earlier).site =
          Publication.new.actAll (past ++ Pursuit.events earlier) := by
        rw [Pursuit.site_actAll, Publication.actAll_append]
        rfl
      rw [← hslot, hsite, Publication.slot_actAll rfl] at hlisting
      exact hlisting
    · intro hnone hlisting
      exact Pursuit.found_of_first_look (start.search_actAll_of_no_turn g hnone) hlisting
  · intro state
    simp [Course.inTime, Course.states]
  · exact fun turns hturns => Search.found?_attend _ hturns _ _
  · intro rate hstart hleads
    refine ⟨Slot.written_of_leads hleads r, fun state hstate hlisting => ?_⟩
    refine Monitor.delivered_of_leads ?_ hlisting
    rcases List.mem_cons.mp hstate with rfl | hlater
    · exact hstart
    · exact hstart.trans ((List.pairwise_cons.mp hleads).1 state hlater)
  · intro o s settings e hlisted hparse hrefusal events run
    cases hfirst : (StreamEvent.firstMessage? events).filter (· < o.patience) with
    | some first =>
        obtain ⟨hsome, hlt⟩ := Option.filter_eq_some_iff.mp hfirst
        obtain ⟨seen, last, m, hmessages, hrun⟩ := CommandLine.Options.exists_ending_of_listed
          hlisted hparse hrefusal hsome (of_decide_eq_true hlt)
        have hrun : run = _ := hrun
        rw [hrun]
        exact ⟨rfl, rfl, seen, last, hmessages, rfl⟩
    | none =>
        have hlate : ∀ first, StreamEvent.firstMessage? events = some first →
            o.patience ≤ first := by
          intro first hsome
          simpa [hsome, Option.filter_some] using hfirst
        obtain ⟨m, hrun⟩ :=
          CommandLine.Options.exists_ending_of_late hlisted hparse hrefusal hlate
        have hrun : run = _ := hrun
        rw [hrun]
        exact ⟨rfl, rfl, rfl⟩

/-- The listing of the channels comes before the deadline of two seconds, and that of the adapters
after it. -/
theorem list_waits_for_its_own_listing_up_to_the_deadline :
    let s : Surroundings := {
      env := fun _ => none
      broker := { streams := ⟨[⟨1999, .item (.ok [{ topic := "x" }])⟩, ⟨2001, .item (.ok [])⟩],
        [⟨2000, .item (.ok [{ name := "y" }])⟩]⟩ } }
    let o (command : Command) : CommandLine.Options :=
      { (default : CommandLine.Options) with command, wait := some 2 }
    let settings : Resolved :=
      { (default : Resolved) with url := "http://[::1]", output := .jsonCompact }
    (((o .channels).runResolved settings s).printed = [⟨1999, "[\x7b\"topic\":\"x\"," ++
      "\"publishers\":[],\"subscribers\":[],\"message_count\":0\x7d]\n"⟩] ∧
    ((o .channels).runResolved settings s).exitCode = 0) ∧
    ((o .adapters).runResolved settings s).printed = [] ∧
    ((o .adapters).runResolved settings s).time = some 2000 ∧
    ((o .adapters).runResolved settings s).failure =
      some (.timeout "http://[::1]/" "adapter listing" 2) := by
  intro s o settings
  have hparses : (Endpoint.parse settings.url).toOption.map (·.text) = some "http://[::1]/" := by
    decide +kernel
  cases hparse : Endpoint.parse settings.url with
  | error error =>
      rw [hparse] at hparses
      cases hparses
  | ok e =>
      rw [hparse] at hparses
      have htext : e.text = "http://[::1]/" := Option.some.inj hparses
      have hruns := fun r =>
        (list_waits_for_its_own_listing ((o .channels).context s settings e) r 2).2.2
      constructor
      · obtain ⟨hfailure, -, seen, last, hmessages, hprinted⟩ :=
          hruns .channels (o .channels) s settings e rfl hparse rfl
        have hbatch : [[{ topic := "x" }]] = seen ++ [last] := hmessages
        obtain rfl : last = [{ topic := "x" }] := by
          simpa using (congrArg List.getLast? hbatch).symm
        have hoptions : ((o .channels).context s settings e).options = o .channels := rfl
        refine ⟨?_, ?_⟩
        · rw [hprinted, print, hoptions]
          decide +kernel
        · rw [Run.exitCode, hfailure]
      · obtain ⟨hprinted, htime, hfailure⟩ :=
          hruns .adapters (o .adapters) s settings e rfl hparse rfl
        exact ⟨hprinted, htime, htext ▸ hfailure⟩

end CommandContext

end BrokerMonitor
