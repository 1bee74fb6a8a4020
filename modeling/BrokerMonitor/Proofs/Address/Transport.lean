import BrokerMonitor.Proofs.Address.Alone
import BrokerMonitor.Proofs.Course.Exit
import BrokerMonitor.Proofs.Course.Unreachable
/-!
# Endpoints and transports

An address is read as an endpoint first, and then a transport is made for its normal form. A
transport takes less than what is an endpoint: the normal form may be too long for it, and the host
may be a name with a character that it does not take. Over the secure scheme the library that
secures the connection has a say too, which is left open here (`secure?`). Nothing but the address
decides; whether anybody listens there shows on the streams only.
-/

namespace BrokerMonitor

open Url

namespace Endpoint

variable {e : Endpoint}

/-- A transport takes the address: it is short enough, and its host has no quote, backquote or
brace. -/
structure IsTransportable (e : Endpoint) : Prop where
  length : e.text.utf8ByteSize ≤ 65534
  host : ∀ c ∈ e.host.toList, c ≠ '"' ∧ c ≠ '\x60' ∧ c ≠ '\x7b' ∧ c ≠ '\x7d'

theorem isUntransportable_eq_false_iff {c : Char} :
    isUntransportable c = false ↔ c ≠ '"' ∧ c ≠ '\x60' ∧ c ≠ '\x7b' ∧ c ≠ '\x7d' := by
  simp only [isUntransportable, List.contains_eq_mem, List.mem_cons, List.not_mem_nil, or_false,
    decide_eq_false_iff_not, not_or]
  constructor
  · rintro ⟨hopening, hclosing, hquote, hbackquote⟩
    exact ⟨hquote, hbackquote, hopening, hclosing⟩
  · rintro ⟨hquote, hbackquote, hopening, hclosing⟩
    exact ⟨hopening, hclosing, hquote, hbackquote⟩

theorem isTransportable_iff : e.IsTransportable ↔
    ¬(maxTransportLength < e.text.utf8ByteSize ∨ e.host.toList.any isUntransportable) := by
  rw [not_or, Nat.not_lt, Bool.not_eq_true, List.any_eq_false]
  simp only [Bool.not_eq_true, isUntransportable_eq_false_iff]
  exact ⟨fun h => ⟨h.length, h.host⟩, fun h => ⟨h.1, h.2⟩⟩

instance (e : Endpoint) : Decidable e.IsTransportable :=
  decidable_of_iff _ isTransportable_iff.symm

/-- Of an endpoint that is transportable only the secure scheme asks for more. -/
theorem transportFault?_eq (secure? : Endpoint → Option String) (e : Endpoint) :
    e.transportFault? secure? =
      if e.IsTransportable then (if e.url.scheme = .https then secure? e else none)
      else some "invalid URI" := by
  rw [transportFault?]
  simp only [isTransportable_iff, ite_not]
  split
  · rfl
  · cases e.url.scheme <;> rfl

/-- A name of plain labels is an endpoint with itself as host. -/
theorem parse_of_isPlain {name : List Char} (hbare : ∀ c ∈ name, Text.isBare c = true)
    (hplain : ∀ c ∈ name, Host.isNameChar c = true) (hne : name ≠ [])
    (hmarker : ∀ label ∈ Idna.labels name, ¬Idna.marker <+: label)
    (hnumber : Ipv4.endsInNumber name = false) :
    parse ("http://" ++ String.ofList name) = .ok (ofHost (.domain (String.ofList name))) := by
  have hascii : Idna.toAscii? name = some name := by
    refine Idna.toAscii?_of_isPlain (fun c hc => ?_) hmarker
    simpa [Host.isNameChar] using hplain c hc
  refine parse_of_isBare hbare hne ?_
  rw [Host.parse_of_isNameChar hplain, hascii]
  simp [Host.ofAscii, hne, hnumber]

end Endpoint

namespace Scenario

variable {secure? : Endpoint → Option String}

/-- The program's own connector connects a monitor to an endpoint unless no transport can be made
for it. -/
theorem connect_unreachable {m : Monitor} (hrefusal : m.refusal = none) {g : Generation}
    (hg : m.generation.next? = some g) (text : String) : (unreachable secure?).connect m text =
    match Endpoint.parse text with
    | .error error => (m, .error (.ofStream error))
    | .ok e =>
      match e.transportFault? secure? with
      | none => (m.attach g (some ⟨g, e⟩), .ok ⟨g, e⟩)
      | some reason => (m, .error (.transportFailure reason)) := by
  unfold Scenario.connect Monitor.connect
  cases Endpoint.parse text with
  | error error => rfl
  | ok e =>
      cases hfault : e.transportFault? secure? with
      | none => simp [Except.toOption, refusal?_unreachable, hfault, hrefusal, hg]
      | some reason =>
          have hunused : { m with refusal := none } = m := by rw [← hrefusal]
          simp [Except.toOption, refusal?_unreachable, hfault, Monitor.refuse, hunused,
            MonitorError.ofStream]

/-- Where nobody listens no listing comes. -/
theorem isServed_unreachable (o : CommandLine.Options) (rate : UInt32) :
    o.isServed (unreachable secure?) rate = o.command.listed?.isNone := by
  unfold CommandLine.Options.isServed
  cases o.command.listed? with
  | none => rfl
  | some r =>
      have hevents : ((unreachable secure?).events rate).get r = [⟨0, .item (.error nobody)⟩] :=
        get_events_unreachable rate r
      simp [hevents, StreamEvent.firstMessage?]

/-- How a run over the program's own connector ends. -/
theorem ends_of_resolved_own (o : CommandLine.Options) (s : Surroundings)
    (hown : s.broker.refusal? = (unreachable secure?).refusal?) (r : Resolved) :
    let run := o.runResolved r s
    match Endpoint.parse r.url with
    | .error _ => run.FailsWith 2
    | .ok e =>
      match e.transportFault? secure? with
      | none =>
        run.exitCode = (if o.isServed s.broker (r.adapterHz.getD 0) then 0 else 8) ∧
        run.ShutsDown (s.broker.course r.adapterHz e) (firstHandle e)
      | some reason =>
        run.FailsWith 7 ∧ run.failure = some (.connectionFailed r.url reason) := by
  intro run
  have hends := o.ends_of_resolved s r
  cases hparse : Endpoint.parse r.url with
  | error error => simpa [hparse] using hends
  | ok e =>
      have hrefusal := refusal?_unreachable secure? e
      rw [← hown] at hrefusal
      cases hfault : e.transportFault? secure? with
      | none =>
          rw [hfault] at hrefusal
          simp only [hparse, hrefusal, Option.map_none] at hends
          simp only [hfault]
          exact ⟨hends.1, hends.2.2.2⟩
      | some reason =>
          rw [hfault] at hrefusal
          have hrun : run = _ := o.runResolved_of_refused s hparse hrefusal
          simp only [hfault]
          rw [hrun]
          exact ⟨Run.failsWith_ofFailure _, rfl⟩

/-- Whether a connect over the program's own connector fails, and how, is up to the text of the
address alone. A text that is no endpoint is said to be none (exit code 2). An endpoint that no
transport takes is a transport failure (exit code 7): its normal form is longer than 65534 octets,
or its host contains a brace, a double quote or a backquote. So is one with the secure scheme that
the library that secures the connection does not take; with the other scheme nothing more is asked
for. In all these cases the monitor stays as it was. Any other endpoint is connected to, in whatever
state the monitor is and whatever the options and the settings say, and the run goes on until its
command ends. So it does where nobody listens: the streams fail right after the connect, both of
them, and a command that prints a listing finds none in time (exit code 8). -/
theorem connect_depends_on_the_address_alone (secure? : Endpoint → Option String) (text : String) :
    (∀ e : Endpoint,
      (¬e.IsTransportable → e.transportFault? secure? = some "invalid URI") ∧
      (e.IsTransportable → e.url.scheme = .http → e.transportFault? secure? = none) ∧
      (e.IsTransportable → e.url.scheme = .https → e.transportFault? secure? = secure? e)) ∧
    (∀ (m : Monitor) (g : Generation), m.refusal = none → m.generation.next? = some g →
      let result := (unreachable secure?).connect m text
      match Endpoint.parse text with
      | .error error =>
        (∃ reason, error = .invalidEndpoint text reason) ∧ result = (m, .error (.ofStream error))
      | .ok e =>
        match e.transportFault? secure? with
        | none => result = (m.attach g (some ⟨g, e⟩), .ok ⟨g, e⟩)
        | some reason => result = (m, .error (.transportFailure reason))) ∧
    ∀ (o : CommandLine.Options) (s : Surroundings) (settings : Settings) (r : Resolved),
      s.broker.refusal? = (unreachable secure?).refusal? →
      Settings.load s.file s.env = .ok settings → settings.resolve o = .ok r → r.url = text →
      let run := o.run s
      match Endpoint.parse text with
      | .error _ => run.FailsWith 2
      | .ok e =>
        let course := s.broker.course r.adapterHz e
        match e.transportFault? secure? with
        | none =>
          run.exitCode = (if o.isServed s.broker (r.adapterHz.getD 0) then 0 else 8) ∧
          run.ShutsDown course (firstHandle e) ∧
          (s.broker = unreachable secure? →
            run.exitCode = (if o.command.listed?.isSome then 8 else 0) ∧
            ∃ m, course.later = [⟨0, m⟩] ∧ ∀ q, m.HasFailed q nobody)
        | some reason =>
          run.FailsWith 7 ∧ run.failure = some (.connectionFailed text reason) := by
  refine ⟨fun e => ⟨?_, ?_, ?_⟩, fun m g hrefusal hg => ?_, fun o s settings r hown hload hresolve
    hurl => ?_⟩
  · intro hrefused
    rw [Endpoint.transportFault?_eq, if_neg hrefused]
  · intro htaken hhttp
    rw [Endpoint.transportFault?_eq, if_pos htaken, hhttp]
    rfl
  · intro htaken hhttps
    rw [Endpoint.transportFault?_eq, if_pos htaken, if_pos hhttps]
  · intro result
    have hconnect : result = _ := connect_unreachable hrefusal hg text
    cases hparse : Endpoint.parse text with
    | error error =>
        rw [hparse] at hconnect
        exact ⟨Endpoint.exists_of_parse_eq_error hparse, hconnect⟩
    | ok e =>
        rw [hparse] at hconnect
        cases hfault : e.transportFault? secure? <;> simpa only [hfault] using hconnect
  · intro run
    have hrun : run = o.runResolved r s := by
      have hrun := o.run_of_load s hload
      rw [hresolve] at hrun
      exact hrun
    have hends := ends_of_resolved_own o s hown r
    rw [← hrun, hurl] at hends
    cases hparse : Endpoint.parse text with
    | error error =>
        rw [hparse] at hends
        exact hends
    | ok e =>
        rw [hparse] at hends
        dsimp only at hends ⊢
        cases hfault : e.transportFault? secure? with
        | none =>
            rw [hfault] at hends
            refine ⟨hends.1, hends.2, fun hnobody => ⟨?_, ?_⟩⟩
            · rw [hends.1, hnobody, isServed_unreachable]
              cases o.command.listed? <;> rfl
            · rw [hnobody]
              exact ⟨_, later_unreachable r.adapterHz e, hasFailed_settle_struck r.adapterHz e⟩
        | some reason =>
            rw [hfault] at hends
            exact hends

/-- Nobody listens at the loopback address: the connect succeeds, but no listing comes. No address
could be secured. -/
theorem connect_depends_on_the_address_alone_of_a_loopback :
    let secure? : Endpoint → Option String := fun _ => some "transport error"
    let o : CommandLine.Options :=
      { (default : CommandLine.Options) with command := .channels, url := some "http://[::1]" }
    let s : Surroundings := { env := fun _ => none, broker := unreachable secure? }
    (∃ h, ((unreachable secure?).connect (.initial none) "http://[::1]").2 = .ok h) ∧
      (o.run s).exitCode = 8 := by
  intro secure? o s
  obtain ⟨hfault, hconnect, hrun⟩ := connect_depends_on_the_address_alone secure? "http://[::1]"
  have hconnect := hconnect (.initial none) ⟨1⟩ rfl rfl
  have hload : Settings.load s.file s.env = .ok {} := by decide +kernel
  obtain ⟨r, hresolve, hurl, -⟩ :=
    @Settings.exists_resolve_eq_ok {} o fun hinvalid => absurd hinvalid.2 (by decide +kernel)
  have hrun := hrun o s {} r rfl hload hresolve hurl
  have hparse : Endpoint.parse "http://[::1]" =
      .ok (.ofHost (.ipv6 ⟨#v[0, 0, 0, 0, 0, 0, 0, 1]⟩)) := by decide +kernel
  have htransportable : (Endpoint.ofHost (.ipv6 ⟨#v[0, 0, 0, 0, 0, 0, 0, 1]⟩)).IsTransportable := by
    decide +kernel
  have hnone := (hfault _).2.1 htransportable rfl
  rw [hparse] at hconnect hrun
  simp only [hnone] at hconnect hrun
  exact ⟨⟨_, congrArg Prod.snd hconnect⟩, (hrun.2.2 rfl).1⟩

/-- A name with a double quote is an endpoint of the web, but a connect to it is a transport
failure, and the program ends with code 7. -/
theorem endpoint_need_not_have_a_transport :
    ∃ e, Endpoint.parse "http://a\"b" = .ok e ∧ e.url.scheme = .http ∧
      e.transport = .error (.transport "invalid URI") ∧
      unreachable.connect (.initial none) "http://a\"b" =
        (.initial none, .error (.transportFailure "invalid URI")) ∧
      let o : CommandLine.Options :=
        { (default : CommandLine.Options) with url := some "http://a\"b" }
      (o.run { env := fun _ => none, broker := unreachable }).exitCode = 7 := by
  have hparse : Endpoint.parse "http://a\"b" = .ok (.ofHost (.domain "a\"b")) :=
    @Endpoint.parse_of_isPlain ['a', '"', 'b'] (List.all_eq_true.1 (by decide))
      (List.all_eq_true.1 (by decide)) (by decide) (by decide) (by decide)
  have hrefused : ¬(Endpoint.ofHost (.domain "a\"b")).IsTransportable := by decide +kernel
  have hfault : (Endpoint.ofHost (.domain "a\"b")).transportFault? (fun _ => none) =
      some "invalid URI" := by
    rw [Endpoint.transportFault?_eq, if_neg hrefused]
  refine ⟨_, hparse, rfl, ?transport, ?connect, ?run⟩
  case transport => rw [Endpoint.transport, hfault]
  case connect =>
    have hconnect := @connect_unreachable (fun _ => none) (.initial none) rfl ⟨1⟩ rfl "http://a\"b"
    rw [hparse] at hconnect
    simpa only [hfault] using hconnect
  case run =>
    intro o
    let s : Surroundings := { env := fun _ => none, broker := unreachable }
    have hload : Settings.load s.file s.env = .ok {} := by decide +kernel
    obtain ⟨r, hresolve, hurl, -⟩ :=
      @Settings.exists_resolve_eq_ok {} o fun hinvalid => absurd hinvalid.2 (by decide +kernel)
    have hurl : r.url = "http://a\"b" := hurl
    have hrun := o.run_of_load s hload
    have hends := ends_of_resolved_own o s rfl r
    rw [hresolve] at hrun
    rw [hurl, hparse] at hends
    simp only [hfault] at hends
    exact (congrArg Run.exitCode hrun).trans hends.1.1

end Scenario

end BrokerMonitor
