import BrokerMonitor.Proofs.Connect.Failed
import BrokerMonitor.Proofs.Observation.Complete
/-!
# The coalescing view

A watch sees the latest status only, and a listener is sent every one. Both go by the same count:
each status that is computed is announced once, so that the version of the cell has gone up by as
many as a line was sent. A watch that is polled therefore has news exactly if something was sent to
the line since the last poll, and its news are the last of that.
-/

namespace BrokerMonitor

/-- What a poll tells of everything that was announced since the last one: the latest, if there is
anything. -/
def Change.latest {α : Type} (news : List α) : Change α :=
  match news.getLast? with
  | some a => .fresh a
  | Option.none => .none

namespace Change

variable {α : Type} {news : List α}

theorem latest_of_getLast? {a : α} (h : news.getLast? = some a) : latest news = .fresh a := by
  simp [latest, h]

/-- There is nothing to tell only if nothing was announced. -/
theorem latest_eq_none_iff : latest news = .none ↔ news = [] := by
  rw [← List.getLast?_eq_none_iff]
  cases h : news.getLast? <;> simp [latest, h]

end Change

namespace Cell

variable {α : Type}

/-- A receiver that has been polled has seen what is current. -/
theorem poll_snd (c : Cell α) (gone : Bool) (r : Receiver) : (c.poll gone r).2 = c.subscribe := by
  unfold poll
  split
  · next hseen =>
      obtain ⟨seen⟩ := r
      simpa [seenBy, subscribe] using hseen
  · rfl

/-- Of several announcements a receiver that had seen what was current gets the last. -/
theorem poll_of_announced {c d : Cell α} {news : List α}
    (hversion : d.version = c.version + news.length)
    (hvalue : d.value = news.getLast?.getD c.value) :
    (d.poll false c.subscribe).1 = .latest news := by
  cases hlast : news.getLast? with
  | none =>
      obtain rfl := List.getLast?_eq_none_iff.mp hlast
      have hseen : d.seenBy c.subscribe = true := by simp [seenBy, subscribe, hversion]
      simp [poll, hseen, Change.latest]
  | some a =>
      have hsome : 0 < news.length := List.length_pos_of_mem (List.mem_of_getLast? hlast)
      have hunseen : d.seenBy c.subscribe = false := by
        simp only [seenBy, subscribe, hversion, beq_eq_false_iff_ne]
        omega
      simp [poll, hunseen, Change.latest, hvalue, hlast]

/-- Whoever has seen the latest announcement of a cell knows what the cell tells. -/
structure Abreast {κ : Type} (tells : Cell α → κ) (c : Cell α) (r : Receiver) (known : κ) :
    Prop where
  seen_le : r.seen ≤ c.version
  known_eq : c.seenBy r = true → known = tells c

namespace Abreast

variable {κ : Type} {tells : Cell α → κ} {c d : Cell α} {r : Receiver} {known : κ}

theorem subscribe (tells : Cell α → κ) (c : Cell α) : Abreast tells c c.subscribe (tells c) :=
  ⟨Nat.le_refl _, fun _ => rfl⟩

/-- What happens to the cell takes nothing from that, if it is announced. -/
theorem move (h : Abreast tells c r known) (hle : c.version ≤ d.version)
    (hsame : d.version = c.version → tells d = tells c) : Abreast tells d r known := by
  refine ⟨Nat.le_trans h.seen_le hle, fun hseen => ?_⟩
  have hd : r.seen = d.version := eq_of_beq hseen
  have hc : r.seen = c.version := Nat.le_antisymm h.seen_le (hd ▸ hle)
  rw [hsame (hd.symm.trans hc)]
  exact h.known_eq (beq_iff_eq.mpr hc)

end Abreast

end Cell

namespace StatusBoard

variable {b : StatusBoard} {i : Nat} {inbox : List BrokerStatus}

/-- Each status that an event computes is announced, once. -/
theorem version_after (b : StatusBoard) (e : Event) :
    (b.after e).status.version = b.status.version + (b.current.recompute? e).toList.length := by
  cases e with
  | report told =>
      simp only [after, report, BrokerStatus.recompute?]
      cases b.current.accept? told <;> rfl
  | take i =>
      simp only [after, take]
      split <;> rfl
  | _ => rfl

theorem version_afterAll (b : StatusBoard) (events : List Event) :
    (b.afterAll events).status.version =
      b.status.version + (b.current.recomputed events).length := by
  induction events generalizing b with
  | nil => rfl
  | cons e rest ih =>
      refine (ih (b.after e)).trans ?_
      rw [version_after, current_after, BrokerStatus.recomputed, List.length_append, Nat.add_assoc]

/-- What a line and a watch learn in the course of some events: the line is sent `news`, and the
watch is told nothing if there are none, and otherwise the last of them. -/
structure SameNews (b : StatusBoard) (i : Nat) (w : Receiver) (events : List Event)
    (news : List BrokerStatus) : Prop where
  /-- What was taken from the line and what waits there is what waited before, and the news. -/
  sent : b.received i events ++ (b.afterAll events).inbox i = b.inbox i ++ news
  unchanged : ((b.afterAll events).status.poll false w).1 = .none ↔ news = []
  changed : ∀ st, news.getLast? = some st →
    ((b.afterAll events).status.poll false w).1 = .fresh st ∧ st = (b.afterAll events).current

theorem Holds.sameNews (h : b.Holds i inbox) {events : List Event}
    (hkept : .unlisten i ∉ events) :
    b.SameNews i b.status.subscribe events (b.current.recomputed events) := by
  obtain ⟨inbox', hafter, hall⟩ := h.afterAll hkept
  have hcurrent := b.current_afterAll events
  have hpoll := Cell.poll_of_announced (b.version_afterAll events) hcurrent
  refine ⟨?_, hpoll ▸ Change.latest_eq_none_iff, fun st hst => ⟨?_, ?_⟩⟩
  · rw [hafter.inbox_eq, h.inbox_eq, hall]
  · rw [hpoll, Change.latest_of_getLast? hst]
  · rw [hcurrent, hst, Option.getD_some]

end StatusBoard

namespace Monitor

variable {m m' : Monitor} {k : Nat}

/-- What observer `k` was sent in all: what it has heard, and what waits for it. -/
def sentTo (m : Monitor) (k : Nat) : List BrokerStatus :=
  ((m.observers[k]?).map (·.heard.entries)).getD [] ++ m.board.inbox k

/-- Observer `k` is there, and nobody has aborted it. -/
def attends (m : Monitor) (k : Nat) : Bool := (m.observers[k]?).any fun o => !o.aborted

theorem attends_iff : m.attends k = true ↔ ∃ o, m.observers[k]? = some o ∧ o.aborted = false := by
  rw [attends, Option.any_eq_true]
  simp only [Bool.not_eq_true']

/-- An observer that nobody has aborted was sent what was computed. -/
theorem Tracks.sentTo {events : List StatusBoard.Event} (h : m.Tracks events m')
    (hm : m.Attentive) (hthere : k < m.observers.length) (hattends : m'.attends k = true) :
    m'.sentTo k = m.sentTo k ++ m.status.recomputed events := by
  obtain ⟨o', ho', haborted⟩ := attends_iff.mp hattends
  have ho : m.observers[k]? = some m.observers[k] := List.getElem?_eq_getElem hthere
  obtain ⟨inbox, hline, -⟩ := hm.current k _ ho (h.aborted ho ho' haborted)
  obtain ⟨inbox', hline', hall⟩ := h.complete ho ho' haborted hline
  simp only [Monitor.sentTo, ho, ho', Option.map_some, Option.getD_some, hline.inbox_eq,
    hline'.inbox_eq]
  exact hall

/-- Once nothing is left to do for it, it has heard everything that it was sent. -/
theorem Attentive.sentTo_eq_heard (h : m.Attentive) {o : Observer} (ho : m.observers[k]? = some o)
    (haborted : o.aborted = false) (hready : m.isReady (.observer k) = false) :
    m.sentTo k = o.heard.entries := by
  have hline := h.holds_nil_of_not_ready ho haborted hready
  simp [Monitor.sentTo, ho, hline.inbox_eq]

theorem boardGone_of_alive (alive : m.alive = true) : m.boardGone = false := by
  simp [boardGone, alive]

end Monitor

namespace Session

variable {s : Session} {w : String} {k : Nat}

/-! ### Watches -/

/-- A watch of the name is there, and it has seen what is current. -/
def UpToDate (s : Session) (w : String) : Prop :=
  s.watches.get? w = some s.monitor.board.status.subscribe

/-- Only what is asked of a watch changes it. -/
theorem watches_act (s : Session) (a : Action) :
    (s.act a).1.watches = s.watches ∨ ∃ name receiver,
      (a = .subscriber (.watch name) ∨ a = .subscriber (.watched name)) ∧
      (s.act a).1.watches = s.watches.put name receiver := by
  cases a with
  | broker a =>
      obtain ⟨_, _, _, _, _, h⟩ := s.exists_actBroker_eq a
      exact .inl (by rw [act, h])
  | connection a => exact .inl (s.actConnection_elim a (fun _ _ => rfl)
      (fun _ _ _ _ _ _ => rfl) fun _ => rfl)
  | subscriber a =>
      cases a with
      | watch name =>
          simp only [act, actSubscriber]
          split
          · exact .inr ⟨name, _, .inl rfl, rfl⟩
          · exact .inl rfl
      | watched name =>
          simp only [act, actSubscriber]
          exact s.withNamed_elim s.watches name _ (.inl rfl)
            fun _ _ => .inr ⟨name, _, .inr rfl, rfl⟩
      | observe name | subscribe name r =>
          simp only [act, actSubscriber]
          split <;> exact .inl rfl
      | seen name =>
          simp only [act, actSubscriber]
          refine s.withNamed_elim s.observers name _ (.inl rfl) fun i _ => ?_
          unfold seen
          split <;> exact .inl rfl
      | unobserve name =>
          simp only [act, actSubscriber]
          exact s.withNamed_elim s.observers name _ (.inl rfl) fun _ _ => .inl rfl
      | current name | latest name | changed name | intoStream name | next name =>
          simp only [act, actSubscriber]
          exact s.withNamed_elim s.followers name _ (.inl rfl)
            fun f _ => by cases f <;> exact .inl rfl
  | client a =>
      obtain ⟨_, _, _, h⟩ := s.exists_actClient_eq a
      exact .inl (by rw [act, h])
  | run j | settle =>
      rw [act_of_runsTasks s rfl]
      exact .inl rfl

theorem get?_watches_act {a : Action} (hmade : a ≠ .subscriber (.watch w))
    (hpolled : a ≠ .subscriber (.watched w)) : (s.act a).1.watches.get? w = s.watches.get? w := by
  rcases s.watches_act a with h | ⟨name, receiver, ha, h⟩
  · rw [h]
  · have hne : w ≠ name := by
      rintro rfl
      exact ha.elim hmade hpolled
    rw [h, Roster.get?_put, if_neg hne]

theorem get?_watches_actAll {run : List Action} (hmade : .subscriber (.watch w) ∉ run)
    (hpolled : .subscriber (.watched w) ∉ run) :
    (s.actAll run).watches.get? w = s.watches.get? w := by
  induction run generalizing s with
  | nil => rfl
  | cons a rest ih =>
      rw [List.mem_cons, not_or] at hmade hpolled
      exact (ih hmade.2 hpolled.2).trans
        (get?_watches_act (Ne.symm hmade.1) (Ne.symm hpolled.1))

/-- A watch stays. -/
theorem isSome_watches_actAll (h : (s.watches.get? w).isSome = true) (run : List Action) :
    ((s.actAll run).watches.get? w).isSome = true := by
  induction run generalizing s with
  | nil => exact h
  | cons a rest ih =>
      refine ih ?_
      rcases s.watches_act a with hsame | ⟨name, receiver, -, hput⟩
      · rw [hsame, h]
      · rw [hput, Roster.get?_put]
        split
        · rfl
        · exact h

theorem act_watch (alive : s.monitor.alive = true) :
    (s.act (.subscriber (.watch w))).1 =
      { s with watches := s.watches.put w s.monitor.board.status.subscribe } := by
  simp only [act, actSubscriber, alive, if_true]

theorem upToDate_watch (alive : s.monitor.alive = true) (w : String) :
    (s.act (.subscriber (.watch w))).1.UpToDate w := by
  rw [act_watch alive]
  exact s.watches.get?_put_self w _

/-- Registering a listener announces nothing. -/
theorem upToDate_observe (h : s.UpToDate w) (o : String) :
    (s.act (.subscriber (.observe o))).1.UpToDate w := by
  simp only [UpToDate, act, actSubscriber]
  split <;> exact h

/-- A watch that has been polled has seen what is current. -/
theorem upToDate_watched (h : (s.watches.get? w).isSome = true) :
    (s.act (.subscriber (.watched w))).1.UpToDate w := by
  obtain ⟨receiver, hreceiver⟩ := Option.isSome_iff_exists.mp h
  simp only [UpToDate, act, actSubscriber, withNamed, hreceiver, Roster.get?_put_self,
    Cell.poll_snd]

/-- What a watch is told when it is polled. -/
theorem answer_watched {receiver : Receiver} (h : s.watches.get? w = some receiver)
    (alive : s.monitor.alive = true) :
    (s.act (.subscriber (.watched w))).2 =
      .change (s.monitor.board.status.poll false receiver).1 := by
  simp only [act, actSubscriber, withNamed, h, Monitor.boardGone_of_alive alive]

/-- What an observer and a watch learn in the course of a run: the observer is sent `news`, and the
watch is told nothing if there are none, and otherwise the last of them. -/
structure SameNews (s : Session) (k : Nat) (w : String) (run : List Action)
    (news : List BrokerStatus) : Prop where
  sent : (s.actAll run).monitor.sentTo k = s.monitor.sentTo k ++ news
  polled : ∃ c, ((s.actAll run).act (.subscriber (.watched w))).2 = .change c ∧
    (c = .none ↔ news = []) ∧
    ∀ st, news.getLast? = some st → c = .fresh st ∧ st = (s.actAll run).monitor.status

theorem sameNews_of_tracks {events : List StatusBoard.Event} {run : List Action}
    (hs : s.monitor.Attentive) (htracks : s.monitor.Tracks events (s.actAll run).monitor)
    (hseen : (s.actAll run).watches.get? w = some s.monitor.board.status.subscribe)
    (alive : (s.actAll run).monitor.alive = true) (hthere : k < s.monitor.observers.length)
    (hattends : (s.actAll run).monitor.attends k = true) :
    s.SameNews k w run (s.monitor.status.recomputed events) := by
  have hversion := s.monitor.board.version_afterAll events
  have hcurrent : (s.monitor.board.afterAll events).current =
      (s.monitor.status.recomputed events).getLast?.getD s.monitor.status :=
    s.monitor.board.current_afterAll events
  rw [← htracks.board] at hversion hcurrent
  refine ⟨htracks.sentTo hs hthere hattends, _, answer_watched hseen alive, ?_⟩
  rw [Cell.poll_of_announced hversion hcurrent]
  refine ⟨Change.latest_eq_none_iff, fun st hst => ⟨Change.latest_of_getLast? hst, ?_⟩⟩
  exact (hcurrent.trans (by rw [hst, Option.getD_some])).symm

/-! ### A watch and an observer made at the same moment -/

/-- A watch and an observer are made, one right after the other. -/
def Together (w o : String) (made : List Action) : Prop :=
  made = [.subscriber (.watch w), .subscriber (.observe o)] ∨
    made = [.subscriber (.observe o), .subscriber (.watch w)]

/-- The watch has then seen what the observer starts with. -/
theorem Together.actAll {o : String} {made : List Action} (h : Together w o made)
    (alive : s.monitor.alive = true) :
    (s.actAll made).UpToDate w ∧
    (s.actAll made).monitor.observers.length = s.monitor.observers.length + 1 ∧
    (s.actAll made).observers.get? o = some s.monitor.observers.length := by
  rcases h with rfl | rfl
  · have hmade : s.actAll [.subscriber (.watch w), .subscriber (.observe o)] =
        ((s.act (.subscriber (.watch w))).1.act (.subscriber (.observe o))).1 := rfl
    rw [hmade]
    refine ⟨upToDate_observe (upToDate_watch alive w) o, ?_⟩
    rw [act_watch alive,
      act_observe { s with watches := s.watches.put w s.monitor.board.status.subscribe } alive]
    exact ⟨List.length_append, Roster.get?_put_self _ _ _⟩
  · have hmade : s.actAll [.subscriber (.observe o), .subscriber (.watch w)] =
        ((s.act (.subscriber (.observe o))).1.act (.subscriber (.watch w))).1 := rfl
    have alive' : (s.act (.subscriber (.observe o))).1.monitor.alive = true := by
      rw [s.act_observe alive]
      exact alive
    rw [hmade]
    refine ⟨upToDate_watch alive' w, ?_⟩
    rw [act_watch alive', s.act_observe alive]
    exact ⟨List.length_append, Roster.get?_put_self _ _ _⟩

/-- So it has later, when it has just been polled. -/
theorem upToDate_of_polled (h : s.UpToDate w) {first : List Action}
    (hfirst : first = [] ∨ first.getLast? = some (.subscriber (.watched w))) :
    (s.actAll first).UpToDate w := by
  rcases hfirst with rfl | hlast
  · exact h
  · obtain ⟨init, rfl⟩ := List.getLast?_eq_some_iff.mp hlast
    rw [actAll_append]
    have hthere : (s.watches.get? w).isSome = true := by
      rw [UpToDate] at h
      rw [h]
      rfl
    exact upToDate_watched (isSome_watches_actAll hthere init)

/-- Observers stay. -/
theorem length_observers_actAll_le (hs : s.monitor.Lined) (run : List Action) :
    s.monitor.observers.length ≤ (s.actAll run).monitor.observers.length := by
  by_contra hlt
  have hsome := List.getElem?_eq_getElem (Nat.lt_of_not_le hlt)
  obtain ⟨o, ho, -⟩ := (tracks_actAll hs run).observer _ _ hsome
  obtain ⟨hthere, -⟩ := List.getElem?_eq_some_iff.mp ho
  exact absurd hthere (Nat.lt_irrefl _)

/-! ### What is no news -/

/-- What has nothing to do with the generation or the streams computes no status: a connect that
fails, whatever subscribers do, and the run of an observer. -/
def IsNoNews (s : Session) (a : Action) : Prop :=
  (∃ name url, a = .connection (.connect name url) ∧ ∀ h, (s.act a).2 ≠ .connected h) ∨
    (∃ b, a = .subscriber b) ∨ ∃ j, a = .run (.observer j)

theorem IsNoNews.recomputed_boardEvents {a : Action} (h : s.IsNoNews a) (st : BrokerStatus) :
    st.recomputed (s.boardEvents a) = [] := by
  rcases h with ⟨name, url, rfl, hfailed⟩ | ⟨b, rfl⟩ | ⟨j, rfl⟩
  · have hopens : (Action.connection (.connect name url)).opening?
        (s.act (.connection (.connect name url))).2 = none := by
      generalize (s.act (.connection (.connect name url))).2 = answer at hfailed
      cases answer with
      | connected h => exact absurd rfl (hfailed h)
      | _ => rfl
    simp [boardEvents, hopens, jobs, Monitor.boardEventsAll, BrokerStatus.recomputed]
  · cases b with
    | observe name =>
        simp only [boardEvents]
        split <;> rfl
    | _ => rfl
  · simp only [boardEvents, jobs]
    split
    · simpa [Monitor.boardEventsAll, Action.opening?] using
        s.monitor.recomputed_boardEvents_observer j st
    · rfl

/-- A watch and a listener that are there from the same moment on never disagree. Whenever the watch
is polled, it has nothing to tell if nothing was sent to the listener since the last poll, and
otherwise it tells the last of what was sent, which is the current status. What was sent is what was
computed since, one status for each opening of a generation and for each report that was taken, also
if that changed no field. Nobody is told anything by a stale report, a failed connect, or what
others do who look at the status. -/
theorem coalescing_view_agrees :
    (∀ (b : StatusBoard) (first between : List StatusBoard.Event) (w : Receiver),
      let i := b.listen.2
      let polled := b.listen.1.afterAll first
      .unlisten i ∉ first ++ between →
      (first = [] ∧ w = b.status.subscribe ∨
        ∃ earlier, w = (polled.status.poll false earlier).2) →
      polled.SameNews i w between (polled.current.recomputed between)) ∧
    (∀ (b : StatusBoard) (i : Nat) (inbox : List BrokerStatus), b.Holds i inbox →
      let w := b.status.subscribe
      (∀ told, b.current.accept? told = some b.current →
        b.SameNews i w [.report told] [b.current]) ∧
      (∀ told, told.generation ≠ b.current.generation → b.SameNews i w [.report told] []) ∧
      ∀ e, e.computes = false → e ≠ .unlisten i → b.SameNews i w [e] []) ∧
    (∀ {rate : Option UInt32} {s : Session}, (start rate).Leads s →
      ∀ (w o : String) (made first between : List Action),
      Together w o made → (first = [] ∨ first.getLast? = some (.subscriber (.watched w))) →
      .subscriber (.watch w) ∉ between → .subscriber (.watched w) ∉ between →
      let k := s.monitor.observers.length
      let polled := s.actAll (made ++ first)
      let now := polled.actAll between
      now.monitor.alive = true → now.monitor.attends k = true →
      (s.actAll made).observers.get? o = some k ∧
      polled.SameNews k w between
        (polled.monitor.status.recomputed (polled.boardEventsAlong between)) ∧
      (now.monitor.isReady (.observer k) = false →
        (now.monitor.observers[k]?).map (·.heard.entries) = some (now.monitor.sentTo k))) ∧
    ∀ {rate : Option UInt32} {s : Session}, (start rate).Leads s →
      ∀ (w : String) (k : Nat) (a : Action), s.UpToDate w → k < s.monitor.observers.length →
      s.IsNoNews a → a ≠ .subscriber (.watch w) → a ≠ .subscriber (.watched w) →
      (s.act a).1.monitor.alive = true → (s.act a).1.monitor.attends k = true →
      s.SameNews k w [a] [] := by
  have hattentive : ∀ {rate : Option UInt32} {s : Session}, (start rate).Leads s →
      s.monitor.Attentive := fun hs => (Monitor.Attentive.initial _).leads (monitor_leads hs)
  refine ⟨?_, ?_, ?_, ?_⟩
  · intro b first between w i polled hkept hw
    rw [List.mem_append, not_or] at hkept
    obtain ⟨inbox, hline, -⟩ := (StatusBoard.Holds.listen b).afterAll hkept.1
    have hseen : w = polled.status.subscribe := by
      rcases hw with ⟨rfl, rfl⟩ | ⟨earlier, rfl⟩
      · rfl
      · exact polled.status.poll_snd false earlier
    exact hseen ▸ hline.sameNews hkept.2
  · intro b i inbox hline w
    have hnews : ∀ (e : StatusBoard.Event) (news : List BrokerStatus), e ≠ .unlisten i →
        (b.current.recompute? e).toList = news → b.SameNews i w [e] news := by
      rintro e news hne rfl
      have h : b.SameNews i w [e] (b.current.recomputed [e]) :=
        hline.sameNews (by simpa using Ne.symm hne)
      simpa [BrokerStatus.recomputed] using h
    refine ⟨fun told htold => ?_, fun told hstale => ?_, fun e he hne => ?_⟩
    · exact hnews (.report told) _ (by simp) (congrArg Option.toList htold)
    · refine hnews (.report told) _ (by simp) ?_
      simp [BrokerStatus.recompute?, BrokerStatus.accept?, hstale]
    · refine hnews e _ hne ?_
      cases e with
      | begin | report => cases he
      | _ => rfl
  · intro rate s hs w o made first between hmade hfirst hwatch hwatched k polled now alive hattends
    have hpolled : s.Leads polled := s.leads_actAll _
    have hnow : polled.Leads now := polled.leads_actAll between
    have alive' : s.monitor.alive = true :=
      Monitor.alive_of_leads (monitor_leads (hpolled.trans hnow)) alive
    obtain ⟨hseen, hlength, hname⟩ := hmade.actAll (o := o) alive'
    have hsplit : polled = (s.actAll made).actAll first := s.actAll_append made first
    have hlined : (s.actAll made).monitor.Lined :=
      (hattentive (hs.trans (s.leads_actAll made))).lined
    have hthere : k < polled.monitor.observers.length := by
      have hle := length_observers_actAll_le hlined first
      rw [← hsplit] at hle
      omega
    have hupToDate : polled.UpToDate w := hsplit ▸ upToDate_of_polled hseen hfirst
    have hp := hattentive (hs.trans hpolled)
    refine ⟨hname, ?_, fun hready => ?_⟩
    · exact sameNews_of_tracks hp (tracks_actAll hp.lined between)
        ((get?_watches_actAll hwatch hwatched).trans hupToDate) alive hthere hattends
    · obtain ⟨ob, hob, haborted⟩ := Monitor.attends_iff.mp hattends
      have hend := hattentive (hs.trans (hpolled.trans hnow))
      rw [hob, hend.sentTo_eq_heard hob haborted hready]
      rfl
  · intro rate s hs w k a hseen hthere hquiet hwatch hwatched alive hattends
    have hs := hattentive hs
    have h : s.SameNews k w [a] (s.monitor.status.recomputed (s.boardEvents a)) :=
      sameNews_of_tracks hs (tracks_act hs.lined a)
        ((get?_watches_act hwatch hwatched).trans hseen) alive hthere hattends
    rwa [hquiet.recomputed_boardEvents] at h

/-- A watch is polled after a shutdown. Then the two tasks of the new generation report that they
are idle, as they were: no field changes, and still both are sent to the observer, and the watch
tells the last. -/
theorem coalescing_view_agrees_on_idle_reports :
    let polled := (start none).actAll ([.subscriber (.watch "w"), .subscriber (.observe "o")] ++
      [.connection .shutdown, .subscriber (.watched "w")])
    polled.SameNews 0 "w" [.settle] [.detached ⟨1⟩, .detached ⟨1⟩] := by
  intro polled
  obtain ⟨-, -, hsession, -⟩ := coalescing_view_agrees
  have h := hsession (s := start none) .refl "w" "o" _
    [.connection .shutdown, .subscriber (.watched "w")] [.settle] (.inl rfl) (.inr rfl)
    (by simp) (by simp) (by decide +kernel) (by decide +kernel)
  have hnews : polled.monitor.status.recomputed (polled.boardEventsAlong [.settle]) =
      [.detached ⟨1⟩, .detached ⟨1⟩] := by decide +kernel
  exact hnews ▸ h.2.1

end Session

end BrokerMonitor
