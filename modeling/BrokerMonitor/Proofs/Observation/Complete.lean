import BrokerMonitor.Proofs.Generation.Openings
import BrokerMonitor.Proofs.Observation.Attentive
/-!
# Complete observation

Each action of a session is a series of events at the board: a connect or a shutdown opens a
generation, the tasks that run report to it, and observers register with it, take from it and are
dropped. An observer hears the status that was current when it registered, and then each status that
was computed since, in order and each once.
-/

namespace BrokerMonitor

namespace Monitor

/-- What observers have to do with: the board and themselves. -/
def hearing (m : Monitor) : StatusBoard × List Observer := (m.board, m.observers)

theorem tracks_of_hearing {m m' : Monitor} (h : m'.hearing = m.hearing) : m.Tracks [] m' := by
  have hobservers : m'.observers = m.observers := congrArg Prod.snd h
  exact .silent (congrArg Prod.fst h) fun k o ho => ⟨o, hobservers ▸ ho, rfl, id⟩

end Monitor

namespace Session

/-- What happens to the board in an action. -/
def boardEvents (s : Session) : Action → List StatusBoard.Event
  | .subscriber (.observe _) => if s.monitor.alive then [.listen] else []
  | a =>
    ((a.opening? (s.act a).2).map fun o =>
      .begin (s.act a).1.monitor.generation o.handle?.isSome).toList ++
    s.monitor.boardEventsAll (s.jobs a)

/-- What happens to the board in a run of actions. -/
def boardEventsAlong (s : Session) : List Action → List StatusBoard.Event
  | [] => []
  | a :: rest => s.boardEvents a ++ (s.act a).1.boardEventsAlong rest

theorem hearing_actBroker (s : Session) (a : BrokerAction) :
    (s.actBroker a).1.monitor.hearing = s.monitor.hearing := by
  obtain ⟨_, _, _, _, _, h⟩ := s.exists_actBroker_eq a
  rw [h]
  rfl

theorem hearing_actClient (s : Session) (a : ClientAction) :
    (s.actClient a).1.monitor.hearing = s.monitor.hearing := by
  obtain ⟨_, _, _, h⟩ := s.exists_actClient_eq a
  rw [h]
  rfl

/-- An action about the connection that opens nothing is silent. -/
theorem tracks_of_opening?_eq_none {s : Session} {a : ConnectionAction}
    (ho : (Action.connection a).opening? (s.actConnection a).2 = none)
    (h : (s.actConnection a).1.monitor.hearing = s.monitor.hearing) :
    s.monitor.Tracks (s.boardEvents (.connection a)) (s.actConnection a).1.monitor := by
  have hnothing : s.boardEvents (.connection a) = [] := by
    simp [boardEvents, act, ho, jobs, Monitor.boardEventsAll]
  rw [hnothing]
  exact Monitor.tracks_of_hearing h

/-- One that opens a generation begins it on the board. -/
theorem tracks_of_opening?_eq_some {s : Session} {a : ConnectionAction} {o : Opening}
    {g : Generation} (ho : (Action.connection a).opening? (s.actConnection a).2 = some o)
    (h : (s.actConnection a).1.monitor = s.monitor.attach g o.handle?) :
    s.monitor.Tracks (s.boardEvents (.connection a)) (s.actConnection a).1.monitor := by
  have hbegin : s.boardEvents (.connection a) = [.begin g o.handle?.isSome] := by
    simp [boardEvents, act, ho, h, jobs, Monitor.boardEventsAll, Monitor.attach,
      Monitor.enqueueReady]
  rw [hbegin, h]
  exact s.monitor.tracks_attach g o.handle?

theorem tracks_actConnection (s : Session) (a : ConnectionAction) :
    s.monitor.Tracks (s.boardEvents (.connection a)) (s.actConnection a).1.monitor := by
  cases a with
  | connect name url =>
      cases alive : s.monitor.alive with
      | false =>
          exact tracks_of_opening?_eq_none (by simp [actConnection, alive, Action.opening?])
            (by simp [actConnection, alive])
      | true =>
          have hact : s.actConnection (.connect name url) = s.connect name url := if_pos alive
          rcases s.monitor.connect_cases url with ⟨e, h⟩ | ⟨e, h⟩ | h | ⟨g, endpoint, -, -, h⟩
          · exact tracks_of_opening?_eq_none (by rw [hact, connect, h]; rfl)
              (by rw [hact, connect, h])
          · exact tracks_of_opening?_eq_none (by rw [hact, connect, h]; rfl)
              (by rw [hact, connect, h]; rfl)
          · exact tracks_of_opening?_eq_none (by rw [hact, connect, h]; rfl)
              (by rw [hact, connect, h])
          · exact tracks_of_opening?_eq_some (o := .connection url ⟨g, endpoint⟩)
              (by rw [hact, connect, h]; rfl) (by rw [hact, connect, h]; rfl)
  | shutdown =>
      cases alive : s.monitor.alive with
      | false =>
          exact tracks_of_opening?_eq_none (by simp [actConnection, alive, Action.opening?])
            (by simp [actConnection, alive])
      | true =>
          cases hg : s.monitor.generation.next? with
          | none =>
              exact tracks_of_opening?_eq_none
                (by simp [actConnection, alive, Monitor.shutdown?, hg, Action.opening?])
                (by simp [actConnection, alive, Monitor.shutdown?, hg])
          | some g =>
              exact tracks_of_opening?_eq_some (o := .detachment) (g := g)
                (by simp [actConnection, alive, Monitor.shutdown?, hg, Action.opening?])
                (by simp [actConnection, alive, Monitor.shutdown?, hg, Opening.handle?])
  | isSame a b | drop =>
      refine tracks_of_opening?_eq_none rfl ?_
      simp only [actConnection]
      split <;> rfl

theorem tracks_actSubscriber (s : Session) (a : SubscriberAction) :
    s.monitor.Tracks (s.boardEvents (.subscriber a)) (s.actSubscriber a).1.monitor := by
  cases a with
  | observe name =>
      simp only [boardEvents, actSubscriber]
      split
      · exact s.monitor.tracks_observe
      · exact Monitor.tracks_of_hearing rfl
  | seen name =>
      change s.monitor.Tracks [] _
      simp only [actSubscriber]
      refine s.withNamed_elim s.observers name _ (Monitor.tracks_of_hearing rfl) fun i _ => ?_
      unfold seen
      split
      · exact Monitor.tracks_of_hearing rfl
      · next o ho => exact Monitor.tracks_readHeard ho
  | unobserve name =>
      change s.monitor.Tracks [] _
      simp only [actSubscriber]
      exact s.withNamed_elim s.observers name _ (Monitor.tracks_of_hearing rfl)
        fun i _ => s.monitor.tracks_unobserve i
  | watch name | subscribe name r =>
      change s.monitor.Tracks [] _
      simp only [actSubscriber]
      split <;> exact Monitor.tracks_of_hearing rfl
  | watched name =>
      change s.monitor.Tracks [] _
      simp only [actSubscriber]
      exact s.withNamed_elim s.watches name _ (Monitor.tracks_of_hearing rfl)
        fun _ _ => Monitor.tracks_of_hearing rfl
  | current name | latest name | changed name | intoStream name | next name =>
      change s.monitor.Tracks [] _
      simp only [actSubscriber]
      exact s.withNamed_elim s.followers name _ (Monitor.tracks_of_hearing rfl)
        fun f _ => by cases f <;> exact Monitor.tracks_of_hearing rfl

/-- An action is its events, for the board and the observers. -/
theorem tracks_act {s : Session} (hs : s.monitor.Lined) (a : Action) :
    s.monitor.Tracks (s.boardEvents a) (s.act a).1.monitor := by
  cases a with
  | broker a => exact Monitor.tracks_of_hearing (s.hearing_actBroker a)
  | connection a => exact s.tracks_actConnection a
  | subscriber a => exact s.tracks_actSubscriber a
  | client a => exact Monitor.tracks_of_hearing (s.hearing_actClient a)
  | run j | settle =>
      rw [act_of_runsTasks s rfl]
      exact Monitor.tracks_runAll hs _

theorem tracks_actAll {s : Session} (hs : s.monitor.Lined) (run : List Action) :
    s.monitor.Tracks (s.boardEventsAlong run) (s.actAll run).monitor := by
  induction run generalizing s with
  | nil => exact Monitor.tracks_of_hearing rfl
  | cons a rest ih =>
      exact (tracks_act hs a).trans (ih (hs.leads (s.monitor_leads_act a)))

/-- An observer is added behind the others, and the name is its. -/
theorem act_observe (s : Session) (alive : s.monitor.alive = true) (name : String) :
    (s.act (.subscriber (.observe name))).1 = { s with
      monitor := s.monitor.observe.1
      observers := s.observers.put name s.monitor.observers.length } := by
  simp only [act, actSubscriber, alive]
  rfl

/-- A listener gets the status that was current when it registered, and then each status that the
board has computed since, in order and each once. What has been computed depends on the generations
and the reports alone, whoever else listens. A listener that is not dropped keeps its line, and all
that it has not taken yet waits there; one that is dropped has got the first part.

So it is with the observers of a session, as the board of its monitor moves by the events of the
session's actions. Once nothing is left to do for an observer that nobody has aborted, it has heard
everything. -/
theorem observation_is_complete :
    (∀ (b : StatusBoard) (events : List StatusBoard.Event),
      let i := b.listen.2
      let complete := b.current :: b.current.recomputed (events.filter (·.computes))
      b.listen.1.received i events <+: complete ∧
      (.unlisten i ∉ events → ∃ inbox, (b.listen.1.afterAll events).Holds i inbox ∧
        b.listen.1.received i events ++ inbox = complete)) ∧
    ∀ {rate : Option UInt32} {s : Session}, (start rate).Leads s → s.monitor.alive = true →
      ∀ (name : String) (later : List Action),
      let observed := (s.act (.subscriber (.observe name))).1
      let after := observed.actAll later
      let events := observed.boardEventsAlong later
      let k := s.monitor.observers.length
      let complete := s.monitor.status :: s.monitor.status.recomputed (events.filter (·.computes))
      observed.observers.get? name = some k ∧
      after.monitor.board = observed.monitor.board.afterAll events ∧
      ∃ o, after.monitor.observers[k]? = some o ∧
        o.heard.entries <+: complete ∧
        (o.aborted = false → ∃ inbox, after.monitor.board.Holds k inbox ∧
          o.heard.entries ++ inbox = complete ∧
          (after.monitor.isReady (.observer k) = false → o.heard.entries = complete)) := by
  refine ⟨?_, ?_⟩
  · intro b events i complete
    have hline : b.listen.1.Holds i [b.current] := StatusBoard.Holds.listen b
    have hcomplete : complete = [b.current] ++ b.listen.1.current.recomputed events := by
      simp [complete, BrokerStatus.recomputed_filter]
    rw [hcomplete]
    exact ⟨hline.received_prefix events, hline.afterAll⟩
  · intro rate s hs alive name later observed after events k complete
    have hlined : s.monitor.Lined := (Monitor.Lined.initial rate).leads (monitor_leads hs)
    have hobserved : observed =
        { s with monitor := s.monitor.observe.1, observers := s.observers.put name k } :=
      s.act_observe alive name
    have hobserver : observed.monitor.observers[k]? =
        some { line := s.monitor.board.listeners.length } := by
      rw [hobserved]
      exact List.getElem?_concat_length
    have hline : observed.monitor.board.Holds k [s.monitor.status] := by
      have h := StatusBoard.Holds.listen s.monitor.board
      rw [hlined.length] at h
      rw [hobserved]
      exact h
    have hstatus : observed.monitor.status = s.monitor.status := by rw [hobserved]; rfl
    have hcomplete : complete =
        [s.monitor.status] ++ observed.monitor.status.recomputed events := by
      simp [complete, BrokerStatus.recomputed_filter, hstatus]
    have hleads : (start rate).Leads observed := hs.tail (.act s _)
    have hattentive : after.monitor.Attentive :=
      (Monitor.Attentive.initial rate).leads
        (monitor_leads (hleads.trans (observed.leads_actAll later)))
    have htracks : observed.monitor.Tracks events after.monitor :=
      tracks_actAll ((Monitor.Lined.initial rate).leads (monitor_leads hleads)) later
    obtain ⟨o, ho, hheard, -⟩ := htracks.observer k _ hobserver
    have hname : observed.observers.get? name = some k := by
      rw [hobserved]
      exact s.observers.get?_put_self name k
    refine ⟨hname, htracks.board, o, ho, ?_, ?_⟩
    · rw [hheard, hcomplete]
      exact hline.received_prefix events
    · intro haborted
      obtain ⟨inbox, hafter, hall⟩ := htracks.complete hobserver ho haborted hline
      have hall : o.heard.entries ++ inbox = complete := hall.trans hcomplete.symm
      refine ⟨inbox, hafter, hall, fun hready => ?_⟩
      have hempty : inbox = [] :=
        hafter.unique (hattentive.holds_nil_of_not_ready ho haborted hready)
      rw [← hall, hempty, List.append_nil]

/-- Of two observers the first hears a connect from both resources' streams, and the second, which
registers in between and is aborted, makes no difference to it. -/
theorem observation_is_complete_beside_another :
    let s := (start none).act (.subscriber (.observe "log"))
    let later : List Action := [.subscriber (.observe "other"),
      .connection (.connect "first" "http://[::1]"), .subscriber (.unobserve "other"), .settle]
    ∃ o, (s.1.actAll later).monitor.observers[0]? = some o ∧ o.heard.entries.length = 4 ∧
      o.heard.entries = .detached .initial ::
        BrokerStatus.recomputed (.detached .initial)
          ((s.1.boardEventsAlong later).filter (·.computes)) := by
  intro s later
  obtain ⟨-, hobservers⟩ := observation_is_complete
  obtain ⟨-, -, o, ho, -, hall⟩ := hobservers (s := start none) .refl rfl "log" later
  have hthere : ((s.1.actAll later).monitor.observers[0]?).any
      (fun o => !o.aborted && o.heard.entries.length == 4) = true := by decide +kernel
  have hready : (s.1.actAll later).monitor.isReady (.observer 0) = false := by decide +kernel
  obtain ⟨o', ho', hlength⟩ := (Option.any_eq_true _ _).mp hthere
  obtain rfl := Option.some.inj (ho.symm.trans ho')
  simp only [Bool.and_eq_true, Bool.not_eq_true', beq_iff_eq] at hlength
  obtain ⟨inbox, -, -, hheard⟩ := hall hlength.1
  exact ⟨o, ho, hlength.2, hheard hready⟩

end Session

end BrokerMonitor
