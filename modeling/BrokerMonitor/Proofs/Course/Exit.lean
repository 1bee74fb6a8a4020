import BrokerMonitor.Command.Run
import BrokerMonitor.Proofs.Course.Waiting
import BrokerMonitor.Proofs.Observation.Forward
/-!
# How a run of the program ends

A run fails with the first thing that is wrong: the settings, the output format, the address, the
transport, and then, for a command that prints a listing, that none has come in time. Nothing else
that happens on the streams makes it fail. Once the monitor has connected it is shut down before the
run is over, whether the command has failed or not.
-/

namespace BrokerMonitor

/-! ### Shutting down -/

namespace Monitor

variable {m : Monitor} {h : Handle}

/-- A monitor without a connection comes to rest with all its tasks ended. -/
theorem hasEnded_settle_of_detached (hm : m.Clientless) (hdetached : m.handle = none) :
    ∀ t ∈ m.settle.tasks, t.hasEnded = true := by
  intro t ht
  obtain ⟨i, hi⟩ := List.mem_iff_getElem?.mp ht
  have hsettled : m.settle.Clientless := hm.settle
  by_contra hrunning
  rw [Bool.not_eq_true] at hrunning
  obtain ⟨-, haborted, place, hreading⟩ :=
    hm.reachable.atRest_settle.tasks i t hi hrunning
  have hvoiced : t.Voiced := by
    obtain ⟨rate, hleads⟩ := hsettled.reachable
    exact (Voiced.initial rate).leads hleads t ht
  have htarget := (hsettled.reachable.exact.shown i t hi (hsettled.heeds hi haborted)).target
  have hhandle : m.settle.handle = m.handle :=
    congrArg Prod.snd (epoch_settleWithin m m.settleBound)
  rw [(hvoiced.reading place hreading).1, hhandle, hdetached] at htarget
  cases htarget

/-- So nobody reads a feed any more. -/
theorem not_held_settle_of_detached (hm : m.Clientless) (hdetached : m.handle = none)
    (r : Resource) (place : Nat) : m.settle.reader? r place ≠ some .held := by
  intro hopen
  obtain ⟨i, t, ht, -, hfeed⟩ := hm.settle.reachable.manned ⟨r, place⟩ hopen
  have hended := hasEnded_settle_of_detached hm hdetached t (List.mem_of_getElem? ht)
  rw [StreamTask.hasEnded_of_reading (feed?_eq_some_iff.mp hfeed)] at hended
  cases hended

/-- A shutdown opens the next generation, without a connection. -/
theorem Serves.shutdown (hm : m.Serves h) {g : Generation} (hg : h.generation.next? = some g) :
    m.shutdown? = some (m.attach g none) ∧ (m.attach g none).Clientless := by
  have hnext : m.generation.next? = some g := hm.generation ▸ hg
  have hshutdown : m.shutdown? = some (m.attach g none) := by rw [shutdown?, hnext]; rfl
  refine ⟨hshutdown, ?_⟩
  let s : Session := { Session.start none with monitor := m }
  have hact : (s.act (.connection .shutdown)).1.monitor = m.attach g none := by
    simp [s, Session.act, Session.actConnection, hm.alive, hshutdown]
  rw [← hact]
  exact Session.clientless_act (s := s) hm.clientless (by simp)

end Monitor

/-! ### Connecting -/

namespace Scenario

variable (s : Scenario) (rate : Option UInt32)

/-- The first connect of a monitor. -/
theorem connect_initial (url : String) : s.connect (.initial rate) url =
    match Endpoint.parse url with
    | .error e => (.initial rate, .error (.ofStream e))
    | .ok endpoint => match s.refusal? endpoint with
      | some e => (.initial rate, .error (.ofStream e))
      | none => (joined rate endpoint, .ok (firstHandle endpoint)) := by
  unfold Scenario.connect Monitor.connect
  cases Endpoint.parse url with
  | error e => rfl
  | ok endpoint =>
      cases hrefusal : s.refusal? endpoint with
      | none => simp [Except.toOption, hrefusal]; rfl
      | some e => simp [Except.toOption, hrefusal]; rfl

end Scenario

/-! ### Commands -/

namespace Course

variable (c : Course)

theorem states_before_subset (deadline : Nat) : (c.before deadline).states ⊆ c.states :=
  List.cons_subset_cons _ (List.takeWhile_sublist _).subset

/-- A course ends with one of its states. -/
theorem exists_last : ∃ state ∈ c.states, c.last = state.value := by
  cases hlast : c.later.getLast? with
  | none => exact ⟨_, List.mem_cons_self, by simp [last, hlast]⟩
  | some state =>
      exact ⟨state, List.mem_cons_of_mem _ (List.mem_of_getLast? hlast), by simp [last, hlast]⟩

end Course

/-- The resource whose listing a command waits for. -/
def Command.listed? : Command → Option Resource
  | .channels => some .channels
  | .adapters => some .adapters
  | .watch | .status => none

/-- For how long the command waits, in milliseconds. -/
def CommandLine.Options.patience (o : CommandLine.Options) : Nat :=
  1000 * (o.wait.getD CommandLine.defaultWait).toNat

namespace CommandContext

variable (p : CommandContext) (interrupt : Option Nat) (c : Course)

/-- What holds if a listing has come in time, and if none has. -/
theorem list_elim {motive : Ending → Prop} (r : Resource) (wait : UInt64)
    (found : ∀ state text, (c.before (1000 * wait.toNat)).firstListing? r p.handle.generation =
      some state → motive (p.printOnce state text))
    (late : (c.before (1000 * wait.toNat)).firstListing? r p.handle.generation = none → motive {
      printed := []
      time := some (1000 * wait.toNat)
      monitor := (c.before (1000 * wait.toNat)).last
      failure := some (.timeout p.handle.endpoint.text r.awaited wait) }) :
    motive (p.list r wait c) := by
  unfold list
  dsimp only
  split
  · next state hfirst => exact found state _ hfirst
  · next hnone => exact late hnone

/-- A command ends in a state of the course. -/
theorem exists_monitor_perform :
    ∃ state ∈ c.states, (p.perform interrupt c).monitor = state.value := by
  have hlast : ∀ deadline, ∃ state ∈ c.states, (c.before deadline).last = state.value := by
    intro deadline
    obtain ⟨state, hstate, hlast⟩ := (c.before deadline).exists_last
    exact ⟨state, c.states_before_subset deadline hstate, hlast⟩
  have hlist : ∀ r wait, ∃ state ∈ c.states, (p.list r wait c).monitor = state.value := by
    intro r wait
    refine p.list_elim c (motive := fun ending => ∃ state ∈ c.states, ending.monitor = state.value)
      r wait (fun state _ hfirst => ?_) fun _ => hlast _
    exact ⟨state, c.states_before_subset _ (Cell.of_await_eq_some hfirst).1, rfl⟩
  unfold perform
  split
  · cases interrupt with
    | none => exact c.exists_last
    | some time => exact hlast time
  · exact hlist _ _
  · exact hlist _ _
  · show ∃ state ∈ c.states, ((_ : Option (Timed Monitor)).getD _).value = state.value
    generalize 1000 * (p.options.wait.getD CommandLine.defaultWait).toNat = deadline
    cases hup : (c.before deadline).firstFullyUp? p.handle.generation with
    | none => exact hlast _
    | some state =>
        exact ⟨state, c.states_before_subset _ (Cell.of_await_eq_some hup).1, rfl⟩

/-- It fails only if it has waited for a listing and has found none in time. -/
theorem failure_perform : (p.perform interrupt c).failure =
    p.options.command.listed?.bind fun r =>
      if ((c.before p.options.patience).firstListing? r p.handle.generation).isSome then none
      else some (.timeout p.handle.endpoint.text r.awaited
        (p.options.wait.getD CommandLine.defaultWait)) := by
  have hlist : ∀ r, (p.list r (p.options.wait.getD CommandLine.defaultWait) c).failure =
      if ((c.before p.options.patience).firstListing? r p.handle.generation).isSome then none
      else some (.timeout p.handle.endpoint.text r.awaited
        (p.options.wait.getD CommandLine.defaultWait)) := by
    intro r
    unfold CommandLine.Options.patience
    generalize p.options.wait.getD CommandLine.defaultWait = wait
    refine p.list_elim c (motive := fun ending => ending.failure = ite _ _ _) r wait
      (fun state _ hfirst => ?_) fun hnone => ?_
    · rw [hfirst]
      rfl
    · rw [hnone]
      rfl
  unfold perform
  split
  · next hcommand => rw [hcommand]; rfl
  · next hcommand => rw [hcommand]; exact hlist .channels
  · next hcommand => rw [hcommand]; exact hlist .adapters
  · next hcommand => rw [hcommand]; rfl

/-- It ends by itself, except that only an interrupt ends `watch`. -/
theorem time_perform_eq_none_iff : (p.perform interrupt c).time = none ↔
    p.options.command = .watch ∧ interrupt = none := by
  have hlist : ∀ r wait, (p.list r wait c).time ≠ none := by
    intro r wait
    exact p.list_elim c (motive := fun ending => ending.time ≠ none) r wait
      (fun _ _ _ => nofun) fun _ => nofun
  unfold perform
  split
  · next hcommand => simp [hcommand, watch]
  · next hcommand => simp [hcommand, hlist]
  · next hcommand => simp [hcommand, hlist]
  · next hcommand => simp [hcommand, status, printOnce]

end CommandContext

/-! ### Runs -/

/-- Only the messages before the first failure or the end decide. -/
theorem StreamEvent.firstMessage?_eq_head? {r : Resource} (es : StreamEvents r) :
    firstMessage? es = (es.takeWhile (·.value.isMessage)).head?.map (·.time) := by
  rcases es with _ | ⟨⟨time, ⟨_ | m⟩ | _⟩, rest⟩ <;> simp [firstMessage?, isMessage]

/-- The program's own connector refuses the endpoints that no transport can be made for. -/
theorem Scenario.refusal?_unreachable (secure? : Endpoint → Option String) (e : Endpoint) :
    (unreachable secure?).refusal? e = (e.transportFault? secure?).map .transport := by
  cases hfault : e.transportFault? secure? <;> simp [unreachable, Endpoint.transport, hfault]

/-- Nothing but the settings themselves is found to be wrong. -/
def FaultsSettings {α : Type} (x : Except CommandError α) : Prop :=
  ∀ error, x = .error error → ∃ reason, error = .config reason

namespace FaultsSettings

variable {α β : Type} {x : Except CommandError α} {f : α → Except CommandError β}

theorem ok (a : α) : FaultsSettings (.ok a) := fun _ => nofun

theorem config (reason : Option String) :
    FaultsSettings (.error (.config reason) : Except CommandError α) := by
  rintro _ ⟨⟩
  exact ⟨reason, rfl⟩

theorem bind (hx : FaultsSettings x) (hf : ∀ a, FaultsSettings (f a)) :
    FaultsSettings (x >>= f) := by
  cases x with
  | error e =>
      rintro _ ⟨⟩
      exact hx e rfl
  | ok a => exact hf a

theorem get? {read : Settings.Raw → Except Settings.Raw.Misfit α} {file : Toml.Entries}
    {env : Environment} {key : String} : FaultsSettings (Settings.get? read file env key) := by
  unfold Settings.get?
  split
  · exact ok _
  · split
    · exact ok _
    · exact config _

theorem ofEntries (file : Toml.Entries) (env : Environment) :
    FaultsSettings (Settings.ofEntries file env) :=
  get?.bind fun _ => get?.bind fun _ => get?.bind fun _ => get?.bind fun _ => get?.bind fun _ =>
    ok _

theorem load (file : Option String) (env : Environment) :
    FaultsSettings (Settings.load file env) := by
  unfold Settings.load
  split
  · exact ofEntries _ _
  · split
    · exact ofEntries _ _
    · exact config _

end FaultsSettings

/-- An output format that is none is the only thing that settings can be at fault for. -/
theorem Settings.resolve_eq_error {settings : Settings} {o : CommandLine.Options}
    (hflag : o.output = none) (hname : OutputFormat.ofName? settings.output.toLower = none) :
    ∃ reason, settings.resolve o = .error (.validation "output" reason) := by
  unfold resolve OutputFormat.ofSetting
  rw [hflag, hname]
  exact ⟨_, rfl⟩

theorem Settings.exists_resolve_eq_ok {settings : Settings} {o : CommandLine.Options}
    (h : ¬ (o.output = none ∧ OutputFormat.ofName? settings.output.toLower = none)) :
    ∃ r, settings.resolve o = .ok r ∧ r.url = o.url.getD settings.url ∧
      r.adapterHz = (o.hz <|> settings.adapterHz) := by
  unfold resolve OutputFormat.ofSetting
  cases hflag : o.output with
  | some f => exact ⟨_, rfl, rfl, rfl⟩
  | none =>
      cases hname : OutputFormat.ofName? settings.output.toLower with
      | none => exact absurd ⟨hflag, hname⟩ h
      | some f => exact ⟨_, rfl, rfl, rfl⟩

namespace Run

/-- The run has failed before a monitor has connected. -/
def FailsWith (run : Run) (code : UInt8) : Prop :=
  run.exitCode = code ∧ run.monitor = none ∧ run.time = some 0

theorem failsWith_ofFailure (error : CommandError) :
    (ofFailure error).FailsWith error.exitCode := ⟨rfl, rfl, rfl⟩

/-- The monitor had connected once, with handle `h`, when the command ended, which was in a state of
the course. It was then shut down, once, and comes to rest with its tasks ended and no feed read. -/
def ShutsDown (run : Run) (c : Course) (h : Handle) : Prop :=
  ∃ last ∈ c.states, ∃ m, run.monitor = some m ∧
    last.value.epoch = (⟨1⟩, some h) ∧ last.value.shutdown? = some m ∧
    m.epoch = (⟨2⟩, none) ∧ m.status = .detached ⟨2⟩ ∧
    (∀ t ∈ m.settle.tasks, t.hasEnded = true) ∧
    ∀ r place, m.settle.reader? r place ≠ some .held

end Run

namespace CommandLine.Options

variable (o : Options) (s : Surroundings)

/-- A listing comes in time, if the command waits for one. -/
def isServed (b : Scenario) (rate : UInt32) : Bool :=
  o.command.listed?.all fun r =>
    (StreamEvent.firstMessage? ((b.events rate).get r)).any (· < o.patience)

/-- The command, once the monitor has connected. -/
def context (r : Resolved) (e : Endpoint) : CommandContext :=
  ⟨o, r, Scenario.firstHandle e, o.color.isOn s.showsColour⟩

/-- The monitor connects, and the run goes on to the command. -/
theorem runResolved_of_connected {r : Resolved} {e : Endpoint} (he : Endpoint.parse r.url = .ok e)
    (hrefusal : s.broker.refusal? e = none) : o.runResolved r s =
      .ofEnding ((o.context s r e).perform s.interrupt (s.broker.course r.adapterHz e)) := by
  have hconnect := s.broker.connect_initial r.adapterHz r.url
  simp only [he, hrefusal] at hconnect
  unfold runResolved
  rw [hconnect]
  rfl

/-- The transport is refused. -/
theorem runResolved_of_refused {r : Resolved} {e : Endpoint} (he : Endpoint.parse r.url = .ok e)
    {error : StreamError} (hrefusal : s.broker.refusal? e = some error) :
    o.runResolved r s = .ofFailure (.ofConnect r.url (.ofStream error)) := by
  have hconnect := s.broker.connect_initial r.adapterHz r.url
  simp only [he, hrefusal] at hconnect
  unfold runResolved
  rw [hconnect]

/-- The address is no endpoint. -/
theorem runResolved_of_invalid {r : Resolved} {error : StreamError}
    (he : Endpoint.parse r.url = .error error) :
    o.runResolved r s = .ofFailure (.ofConnect r.url (.ofStream error)) := by
  have hconnect := s.broker.connect_initial r.adapterHz r.url
  simp only [he] at hconnect
  unfold runResolved
  rw [hconnect]

/-- The command fails if it is not served. -/
theorem exitCode_perform (r : Resolved) (e : Endpoint) :
    (Run.ofEnding ((o.context s r e).perform s.interrupt
      (s.broker.course r.adapterHz e))).exitCode =
        if o.isServed s.broker (r.adapterHz.getD 0) then 0 else 8 := by
  have hfailure := (o.context s r e).failure_perform s.interrupt (s.broker.course r.adapterHz e)
  unfold Run.exitCode Run.ofEnding
  dsimp only
  rw [hfailure, isServed, context]
  dsimp only
  cases hlisted : o.command.listed? with
  | none => rfl
  | some l =>
      have hfound : (((s.broker.course r.adapterHz e).before o.patience).firstListing? l
          ⟨1⟩).isSome = (StreamEvent.firstMessage?
            ((s.broker.events (r.adapterHz.getD 0)).get l)).any (· < o.patience) := by
        rw [Bool.eq_iff_iff, Scenario.isSome_firstListing?_iff, Option.any_eq_true]
        simp
      simp only [Option.bind_some, Option.all_some, hfound]
      by_cases hserved : (StreamEvent.firstMessage?
        ((s.broker.events (r.adapterHz.getD 0)).get l)).any (· < o.patience) = true
      · rw [if_pos hserved, if_pos hserved]
      · rw [if_neg hserved, if_neg hserved]
        rfl

/-- Once it has connected, the monitor that the command ends with is shut down. -/
theorem shutsDown_perform (r : Resolved) (e : Endpoint) :
    (Run.ofEnding ((o.context s r e).perform s.interrupt
      (s.broker.course r.adapterHz e))).ShutsDown (s.broker.course r.adapterHz e)
        (Scenario.firstHandle e) := by
  obtain ⟨last, hlast, hmonitor⟩ := (o.context s r e).exists_monitor_perform s.interrupt
    (s.broker.course r.adapterHz e)
  have hserves := s.broker.serves_course r.adapterHz e hlast
  obtain ⟨hshutdown, hclientless⟩ := hserves.shutdown (g := ⟨2⟩) rfl
  refine ⟨last, hlast, _, ?_, hserves.epoch, hshutdown, rfl, rfl, ?_, ?_⟩
  · exact (congrArg Monitor.shutdown? hmonitor).trans hshutdown
  · exact Monitor.hasEnded_settle_of_detached hclientless rfl
  · exact Monitor.not_held_settle_of_detached hclientless rfl

/-- A command that is not served sees no listing of the connection's generation in time. -/
theorem isServed_eq_false_iff (b : Scenario) (rate : Option UInt32) (e : Endpoint) :
    o.isServed b (rate.getD 0) = false ↔ ∃ r, o.command.listed? = some r ∧
      ∀ state ∈ ((b.course rate e).before o.patience).states,
        (state.value.snapshot r).isListingOf ⟨1⟩ = false := by
  unfold isServed
  cases o.command.listed? with
  | none => simp
  | some r =>
      have hfound := b.isSome_firstListing?_iff rate e r o.patience
      rw [Scenario.firstListing?_before, List.find?_isSome] at hfound
      have hserved : (StreamEvent.firstMessage? ((b.events (rate.getD 0)).get r)).any
          (· < o.patience) = true ↔ ∃ state ∈ ((b.course rate e).before o.patience).states,
            (state.value.snapshot r).isListingOf ⟨1⟩ = true := by
        rw [hfound, Option.any_eq_true]
        simp
      rw [Option.all_some, ← Bool.not_eq_true, hserved]
      simp

/-- How the run ends once the monitor has connected. -/
theorem ends_of_connected {r : Resolved} {e : Endpoint} (he : Endpoint.parse r.url = .ok e)
    (hrefusal : s.broker.refusal? e = none) :
    let run := o.runResolved r s
    let course := s.broker.course r.adapterHz e
    run.exitCode = (if o.isServed s.broker (r.adapterHz.getD 0) then 0 else 8) ∧
    (run.exitCode = 8 ↔ ∃ r, o.command.listed? = some r ∧
      ∀ state ∈ (course.before o.patience).states,
        (state.value.snapshot r).isListingOf ⟨1⟩ = false) ∧
    (run.time = none ↔ o.command = .watch ∧ s.interrupt = none) ∧
    run.ShutsDown course (Scenario.firstHandle e) := by
  intro run course
  have hrun : run = _ := o.runResolved_of_connected s he hrefusal
  have hcode := o.exitCode_perform s r e
  rw [hrun]
  refine ⟨hcode, ?_, ?_, o.shutsDown_perform s r e⟩
  · rw [hcode, ← o.isServed_eq_false_iff s.broker r.adapterHz e]
    cases o.isServed s.broker (r.adapterHz.getD 0) <;> decide
  · exact (o.context s r e).time_perform_eq_none_iff s.interrupt course

/-- How it ends with settings that are resolved. -/
theorem ends_of_resolved (r : Resolved) :
    let run := o.runResolved r s
    match Endpoint.parse r.url with
    | .error _ => run.FailsWith 2
    | .ok e => match s.broker.refusal? e with
      | some (.invalidEndpoint ..) => run.FailsWith 2
      | some _ => run.FailsWith 7
      | none =>
        let course := s.broker.course r.adapterHz e
        run.exitCode = (if o.isServed s.broker (r.adapterHz.getD 0) then 0 else 8) ∧
        (run.exitCode = 8 ↔ ∃ r, o.command.listed? = some r ∧
          ∀ state ∈ (course.before o.patience).states,
            (state.value.snapshot r).isListingOf ⟨1⟩ = false) ∧
        (run.time = none ↔ o.command = .watch ∧ s.interrupt = none) ∧
        run.ShutsDown course (Scenario.firstHandle e) := by
  intro run
  cases he : Endpoint.parse r.url with
  | error error =>
      obtain ⟨reason, rfl⟩ := Endpoint.exists_of_parse_eq_error he
      have hrun : run = _ := o.runResolved_of_invalid s he
      rw [hrun]
      exact Run.failsWith_ofFailure _
  | ok e =>
      dsimp only
      cases hrefusal : s.broker.refusal? e with
      | some error =>
          have hrun : run = _ := o.runResolved_of_refused s he hrefusal
          rw [hrun]
          cases error <;> exact Run.failsWith_ofFailure _
      | none => exact o.ends_of_connected s he hrefusal

theorem run_of_load {settings : Settings} (h : Settings.load s.file s.env = .ok settings) :
    o.run s = match settings.resolve o with
      | .error error => .ofFailure error
      | .ok r => o.runResolved r s := by
  unfold run
  rw [h]
  rfl

/-- The exit code is that of the first failure. -/
theorem exitCode_run : (o.run s).exitCode =
    match Settings.load s.file s.env with
    | .error _ => 1
    | .ok settings => match settings.resolve o with
      | .error _ => 2
      | .ok r => match Endpoint.parse r.url with
        | .error _ => 2
        | .ok e => match s.broker.refusal? e with
          | some error => (CommandError.ofConnect r.url (.ofStream error)).exitCode
          | none => if o.isServed s.broker (r.adapterHz.getD 0) then 0 else 8 := by
  cases hload : Settings.load s.file s.env with
  | error error =>
      obtain ⟨reason, rfl⟩ := FaultsSettings.load s.file s.env error hload
      unfold run
      rw [hload]
      rfl
  | ok settings =>
      rw [o.run_of_load s hload]
      dsimp only
      cases hresolve : settings.resolve o with
      | error error =>
          by_cases hinvalid :
              o.output = none ∧ OutputFormat.ofName? settings.output.toLower = none
          · obtain ⟨reason, hreason⟩ := Settings.resolve_eq_error hinvalid.1 hinvalid.2
            obtain rfl := Except.error.inj (hresolve.symm.trans hreason)
            rfl
          · obtain ⟨r, hr, -⟩ := Settings.exists_resolve_eq_ok hinvalid
            cases hresolve.symm.trans hr
      | ok r =>
          dsimp only
          cases he : Endpoint.parse r.url with
          | error error =>
              obtain ⟨reason, rfl⟩ := Endpoint.exists_of_parse_eq_error he
              rw [o.runResolved_of_invalid s he]
              rfl
          | ok e =>
              dsimp only
              cases hrefusal : s.broker.refusal? e with
              | some error =>
                  rw [o.runResolved_of_refused s he hrefusal]
                  rfl
              | none =>
                  rw [o.runResolved_of_connected s he hrefusal]
                  exact o.exitCode_perform s r e

/-- What is said on the stream of the listing that the command prints, up to the first failure or
the end, decides whether the command is served. -/
theorem isServed_congr {b b' : Scenario}
    (h : ∀ r, o.command.listed? = some r → ∀ rate,
      ((b'.events rate).get r).takeWhile (·.value.isMessage) =
        ((b.events rate).get r).takeWhile (·.value.isMessage)) (rate : UInt32) :
    o.isServed b' rate = o.isServed b rate := by
  unfold isServed
  cases hlisted : o.command.listed? with
  | none => rfl
  | some r =>
      rw [Option.all_some, Option.all_some, StreamEvent.firstMessage?_eq_head?,
        StreamEvent.firstMessage?_eq_head?, h r hlisted rate]

/-- How a run ends, by the first thing that is wrong. Take any options of the command line, any
variables and settings file, and any behaviour of the broker.

The exit code is 1 if the settings cannot be loaded; else 2 if the output format is none or the
address is no endpoint; else 7 if the connector refuses it; else, for a command that prints a
listing, 8 if no listing of the connection's generation has been seen in time, which is to say that
the first thing on its stream is not a message that comes in time; else 0. (A connector that says of
an endpoint that it is none makes the code 2. The program's own connector does not.)

In the first three cases there is no monitor. In the others the monitor that the command ended with,
which had connected once, is shut down once: it has no connection and a new generation, and comes to
rest with all tasks ended and no feed read. The command comes to an end, except that only an
interrupt ends `watch`.

The code depends on nothing else in the surroundings, and of the broker only on what is said on the
stream of the listing that the command prints, up to the first failure or the end: on whether the
stream then fails, ends or stays silent it does not depend. -/
theorem exit_code_is_for_the_first_fault :
    (let run := o.run s
    match Settings.load s.file s.env with
    | .error _ => run.FailsWith 1
    | .ok settings =>
      if o.output = none ∧ OutputFormat.ofName? settings.output.toLower = none then run.FailsWith 2
      else match Endpoint.parse (o.url.getD settings.url) with
      | .error _ => run.FailsWith 2
      | .ok e => match s.broker.refusal? e with
        | some (.invalidEndpoint ..) => run.FailsWith 2
        | some _ => run.FailsWith 7
        | none =>
          let rate := o.hz <|> settings.adapterHz
          let course := s.broker.course rate e
          run.exitCode = (if o.isServed s.broker (rate.getD 0) then 0 else 8) ∧
          (run.exitCode = 8 ↔ ∃ r, o.command.listed? = some r ∧
            ∀ state ∈ (course.before o.patience).states,
              (state.value.snapshot r).isListingOf ⟨1⟩ = false) ∧
          (run.time = none ↔ o.command = .watch ∧ s.interrupt = none) ∧
          run.ShutsDown course (Scenario.firstHandle e)) ∧
    (∀ s' : Surroundings, s'.file = s.file → s'.env = s.env →
      s'.broker.refusal? = s.broker.refusal? →
      (∀ r, o.command.listed? = some r → ∀ rate,
        ((s'.broker.events rate).get r).takeWhile (·.value.isMessage) =
          ((s.broker.events rate).get r).takeWhile (·.value.isMessage)) →
      (o.run s').exitCode = (o.run s).exitCode) ∧
    ∀ secure? e error, (Scenario.unreachable secure?).refusal? e = some error →
      ∃ reason, error = .transport reason := by
  refine ⟨?_, ?_, fun secure? e error herror => ?_⟩
  · intro run
    cases hload : Settings.load s.file s.env with
    | error error =>
        obtain ⟨reason, rfl⟩ := FaultsSettings.load s.file s.env error hload
        have hrun : run = .ofFailure (.config reason) := by
          unfold run CommandLine.Options.run
          rw [hload]
          rfl
        rw [hrun]
        exact Run.failsWith_ofFailure _
    | ok settings =>
        have hrun : run = _ := o.run_of_load s hload
        dsimp only
        split
        · next hinvalid =>
            obtain ⟨reason, hresolve⟩ := Settings.resolve_eq_error hinvalid.1 hinvalid.2
            rw [hresolve] at hrun
            rw [hrun]
            exact Run.failsWith_ofFailure _
        · next hvalid =>
            obtain ⟨r, hresolve, hurl, hrate⟩ := Settings.exists_resolve_eq_ok hvalid
            rw [hresolve] at hrun
            rw [hrun, ← hurl, ← hrate]
            exact o.ends_of_resolved s r
  · intro s' hfile henv hrefusal hsaid
    rw [exitCode_run, exitCode_run, hfile, henv, hrefusal]
    simp only [o.isServed_congr hsaid]
  · rw [Scenario.refusal?_unreachable] at herror
    obtain ⟨reason, -, htransport⟩ := Option.map_eq_some_iff.mp herror
    exact ⟨reason, htransport.symm⟩

/-- The stream of the channels fails at once, and that of the adapters brings an empty listing after
a second. -/
theorem exit_code_is_for_the_first_fault_on_its_stream :
    let s : Surroundings := {
      env := fun _ => none
      broker := { streams :=
        ⟨[⟨0, .item (.error (.transport "reset"))⟩], [⟨1000, .item (.ok [])⟩]⟩ } }
    let o (command : Command) (wait : UInt64) : Options :=
      { (default : Options) with command, wait := some wait, url := some "http://[::1]" }
    ((o .channels 5).run s).exitCode = 8 ∧ ((o .adapters 5).run s).exitCode = 0 ∧
    ((o .adapters 1).run s).exitCode = 8 ∧ ((o .status 1).run s).exitCode = 0 := by
  intro s o
  have hload : Settings.load s.file s.env = .ok {} := by decide +kernel
  have hname : OutputFormat.ofName? ({} : Settings).output.toLower ≠ none := by decide +kernel
  have hparses : (Endpoint.parse "http://[::1]").toOption.isSome = true := by decide +kernel
  have hends : ∀ command wait, ((o command wait).run s).exitCode =
      if (o command wait).isServed s.broker 0 then 0 else 8 := by
    intro command wait
    have h := ((o command wait).exit_code_is_for_the_first_fault s).1
    rw [hload] at h
    dsimp only at h
    rw [if_neg fun hinvalid => hname hinvalid.2] at h
    cases he : Endpoint.parse "http://[::1]" with
    | error error =>
        rw [he] at hparses
        cases hparses
    | ok e =>
        have hurl : (o command wait).url.getD ({} : Settings).url = "http://[::1]" := rfl
        rw [hurl, he] at h
        exact h.1
  simp only [hends]
  decide

end CommandLine.Options

end BrokerMonitor
