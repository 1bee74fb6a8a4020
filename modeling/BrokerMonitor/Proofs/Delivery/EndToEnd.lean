import Mathlib.Data.List.Forall2
import BrokerMonitor.Proofs.Delivery.Ledger
/-!
# Delivery from end to end

Whatever a session does, each of its actions puts at most one thing into a feed, by the name that
the feed has at that time. `Session.given` lists what was put into a feed in a run of actions, and
`Session.openers` who has opened it. Every action keeps the ledger of the feed, so once everything
has settled the slot of the feed's resource holds what the messages in the list come to.
-/

namespace BrokerMonitor

/-- The record says what the entry says, field by field; a negative count has become zero. -/
def Resource.Converts : (r : Resource) → r.Entry → r.Record → Prop
  | .channels, e, c => c.topic = e.topic ∧ c.publishers = e.publishers ∧
      c.subscribers = e.subscribers ∧ c.messageCount.toNat = e.messageCount.toInt.toNat
  | .adapters, e, a => a.name = e.name ∧ a.live = e.live ∧ a.description = e.description ∧
      a.stats = e.stats

theorem Resource.converts_record (r : Resource) (e : r.Entry) : r.Converts e (r.record e) := by
  cases r with
  | adapters => exact ⟨rfl, rfl, rfl, rfl⟩
  | channels =>
      refine ⟨rfl, rfl, rfl, ?_⟩
      show (if e.messageCount < 0 then 0 else e.messageCount.toUInt32).toNat = _
      split
      · next h =>
          have hnegative : e.messageCount.toInt < 0 := Int32.lt_iff_toInt_lt.mp h
          rw [Int.toNat_of_nonpos (Int.le_of_lt hnegative)]
          rfl
      · next h =>
          rw [Int32.toNat_toInt, Int32.toNat_toUInt32_of_le (Int32.not_lt.mp h)]

/-- A listing has one record for each entry of the message, in order. -/
theorem Resource.forall₂_converts_listing (r : Resource) (m : r.Message) :
    List.Forall₂ r.Converts m (r.listing m) := by
  induction m with
  | nil => exact .nil
  | cons e rest ih => exact .cons (r.converts_record e) ih

namespace Session

/-- What an action puts into the feed `id`. A feed ends when it is closed, and when its name is
given to another. -/
def put? (s : Session) (id : FeedId) : Action → Option (StreamEvent id.resource)
  | .broker (.send name r message) =>
    if h : s.feeds.get? name = some id ∧ r = id.resource then some (.item (.ok (h.2 ▸ message)))
    else none
  | .broker (.fail name e) =>
    if s.feeds.get? name = some id then some (.item (.error e)) else none
  | .broker (.close name) => if s.feeds.get? name = some id then some .finished else none
  | .broker (.offer name _ _) => if s.feeds.get? name = some id then some .finished else none
  | _ => none

/-- Running tasks puts nothing into it. -/
theorem put?_of_runsTasks (s : Session) {id : FeedId} {a : Action} (ha : a.runsTasks = true) :
    s.put? id a = none := by
  cases a with
  | run | settle => rfl
  | _ => cases ha

/-- What a run of actions puts into the feed `id`. -/
def given (s : Session) (id : FeedId) : List Action → List (StreamEvent id.resource)
  | [] => []
  | a :: rest => (s.put? id a).toList ++ (s.act a).1.given id rest

/-- The stream tasks that open the feed `id` in a run of actions. -/
def openers (s : Session) (id : FeedId) : List Action → List Nat
  | [] => []
  | a :: rest => s.monitor.openersAll id (s.jobs a) ++ (s.act a).1.openers id rest

variable {s : Session} {id : FeedId} {given : List (StreamEvent id.resource)} {openers : List Nat}

/-- A name is given up, and the feed that had it ends. -/
theorem ledger_retire (h : s.monitor.Ledger s.feeds id given openers) (hm : s.monitor.Wired)
    (name : String) :
    (match s.feeds.get? name with
      | some old => s.monitor.close old
      | none => s.monitor).Ledger (s.feeds.erase name) id
        (given ++ (if s.feeds.get? name = some id then some StreamEvent.finished else none).toList)
        openers := by
  have herase : ∀ a, (s.feeds.erase name).get? a = some id →
      a ≠ name ∧ s.feeds.get? a = some id := by
    intro a ha
    rw [Roster.get?_erase] at ha
    split at ha
    · cases ha
    · next hne => exact ⟨hne, ha⟩
  cases hname : s.feeds.get? name with
  | none =>
      simpa using h.congr rfl rfl rfl rfl fun a ha => (herase a ha).2
  | some old =>
      by_cases hold : old = id
      · subst hold
        rw [if_pos rfl]
        have hended : (s.monitor.modifyFeed old.resource old.place (·.enter .finished)).Ledger
            (s.feeds.erase name) old (given ++ [.finished]) openers :=
          h.enter hm hname .finished fun a ha =>
            absurd (h.once a name (herase a ha).2 hname) (herase a ha).1
        exact hended.congr rfl rfl rfl rfl fun _ ha => ha
      · have hother : ¬ some old = some id := fun heq => hold (Option.some.inj heq)
        rw [if_neg hother, Option.toList_none, List.append_nil]
        refine h.congr rfl rfl rfl ?_ fun a ha => (herase a ha).2
        exact s.monitor.feed?_modifyFeed_of_ne hold (·.close)

/-- A feed is offered and named. -/
theorem ledger_offer (h : s.monitor.Ledger s.feeds id given openers) (hm : s.monitor.Wired)
    (name host : String) (r : Resource) :
    (s.offer name host r).monitor.Ledger (s.offer name host r).feeds id
      (given ++ (s.put? id (.broker (.offer name host r))).toList) openers := by
  let new := (s.monitor.offer r host).2
  let offered : Session := { s with monitor := (s.monitor.offer r host).1 }
  have hoffered : offered.monitor.Ledger offered.feeds id given openers := h.offer hm r host
  have hretired := ledger_retire hoffered (hm.step (.offer s.monitor r host)) name
  have hnamed := hretired.name name new ?_
  · refine hnamed.congr rfl rfl rfl rfl fun a ha => ?_
    have ha : (s.feeds.put name new).get? a = some id := ha
    rw [Roster.get?_put] at ha ⊢
    split
    · next hname => rwa [if_pos hname] at ha
    · next hname =>
        rw [if_neg hname] at ha
        rw [Roster.get?_erase, if_neg hname]
        exact ha
  · -- The new feed has no name before, so it is not the one that is retired.
    rintro rfl
    obtain ⟨hfree, hnew⟩ := s.monitor.feed?_offer_new r host
    have hunnamed : ∀ a, s.feeds.get? a ≠ some new := by
      intro a ha
      obtain ⟨f, hf, -⟩ := h.live a ha
      rw [hfree] at hf
      cases hf
    constructor
    · intro a ha
      rw [Roster.get?_erase] at ha
      split at ha
      · cases ha
      · exact hunnamed a ha
    · refine ⟨{ host }, ?_, rfl⟩
      split
      · next old hold =>
          have hne : old ≠ new := fun heq => hunnamed name (heq ▸ hold)
          exact (offered.monitor.feed?_modifyFeed_of_ne hne (·.close)).trans hnew
      · exact hnew

/-- An item is sent to a feed by its name. -/
theorem ledger_sendTo (h : s.monitor.Ledger s.feeds id given openers) (hm : s.monitor.Wired)
    {name : String} (hname : s.feeds.get? name = some id) (item : id.resource.Item) :
    (s.sendTo id item).1.monitor.Ledger (s.sendTo id item).1.feeds id (given ++ [.item item])
      openers := by
  have hentered : (s.monitor.modifyFeed id.resource id.place (·.enter (.item item))).Ledger s.feeds
      id (given ++ [.item item]) openers :=
    h.enter hm hname (.item item) fun _ ha => ⟨ha, nofun⟩
  exact hentered.congr rfl rfl rfl rfl fun _ ha => ha

theorem ledger_sendTo_of_ne (h : s.monitor.Ledger s.feeds id given openers) {other : FeedId}
    (hne : other ≠ id) (item : other.resource.Item) :
    (s.sendTo other item).1.monitor.Ledger (s.sendTo other item).1.feeds id given openers := by
  refine h.congr rfl rfl rfl ?_ fun _ ha => ha
  exact s.monitor.feed?_modifyFeed_of_ne hne (·.send item)

theorem ledger_actBroker (h : s.monitor.Ledger s.feeds id given openers) (hm : s.monitor.Wired)
    (a : BrokerAction) :
    (s.actBroker a).1.monitor.Ledger (s.actBroker a).1.feeds id
      (given ++ (s.put? id (.broker a)).toList) openers := by
  have hsame : ∀ n : Monitor, n.tasks = s.monitor.tasks → n.store = s.monitor.store →
      n.generation = s.monitor.generation → n.feeds = s.monitor.feeds →
      n.Ledger s.feeds id (given ++ []) openers := by
    intro n htasks hstore hgeneration hfeeds
    rw [List.append_nil]
    refine h.congr htasks hstore hgeneration ?_ fun _ ha => ha
    rw [Monitor.feed?, Monitor.feed?, hfeeds]
  cases a with
  | offer name host r => exact ledger_offer h hm name host r
  | send name r message =>
      cases hname : s.feeds.get? name with
      | none => simpa [actBroker, withNamed, put?, hname] using h
      | some other =>
          by_cases hr : r = other.resource
          · subst hr
            by_cases hne : other = id
            · subst hne
              simpa [actBroker, withNamed, put?, hname] using ledger_sendTo h hm hname (.ok message)
            · simpa [actBroker, withNamed, put?, hname, hne] using
                ledger_sendTo_of_ne h hne (.ok message)
          · have hnot : ¬ (other = id ∧ r = id.resource) := fun hid => hr (hid.1 ▸ hid.2)
            simpa [actBroker, withNamed, put?, hname, hr, hnot] using h
  | fail name e =>
      cases hname : s.feeds.get? name with
      | none => simpa [actBroker, withNamed, put?, hname] using h
      | some other =>
          by_cases hne : other = id
          · subst hne
            simpa [actBroker, withNamed, put?, hname] using ledger_sendTo h hm hname (.error e)
          · simpa [actBroker, withNamed, put?, hname, hne] using
              ledger_sendTo_of_ne h hne (.error e)
  | close name =>
      have hretired := ledger_retire h hm name
      cases hname : s.feeds.get? name with
      | none => simpa [actBroker, put?, hname] using h
      | some old =>
          rw [hname] at hretired
          simpa [actBroker, put?, hname] using hretired
  | isAbandoned name =>
      simp only [actBroker]
      exact s.withNamed_elim s.feeds name _ (hsame s.monitor rfl rfl rfl rfl)
        fun _ _ => hsame s.monitor rfl rfl rfl rfl
  | refuse e | requests => exact hsame _ rfl rfl rfl rfl

/-- Every action keeps the ledger. -/
theorem ledger_act (h : s.monitor.Ledger s.feeds id given openers) (hm : s.monitor.Clientless)
    {a : Action} (ha : ∀ c, a ≠ .client c) :
    (s.act a).1.monitor.Ledger (s.act a).1.feeds id (given ++ (s.put? id a).toList)
      (openers ++ s.monitor.openersAll id (s.jobs a)) := by
  cases a with
  | broker a =>
      have hafter := ledger_actBroker h hm.reachable.wired a
      simpa [act, jobs, Monitor.openersAll] using hafter
  | connection a =>
      have habandoned : ∀ (i : Nat) (t : StreamTask), s.monitor.tasks[i]? = some t →
          ∃ t', s.monitor.abandonTasks.tasks[i]? = some t' ∧ t'.aborted = true := by
        intro i t ht
        obtain ⟨t', ht', hcore⟩ := StreamTask.exists_getElem?_of_map
          s.monitor.map_core_abandonTasks.symm ht
        have haudience : t'.core.audience = .board :=
          hcore ▸ hm.solo t (List.mem_of_getElem? ht)
        exact ⟨t', ht', hm.reachable.retired.aborted_abandonTasks ht' haudience⟩
      have hafter : (s.actConnection a).1.monitor.Ledger (s.actConnection a).1.feeds id given
          openers := by
        refine s.actConnection_elim a ?_ ?_ ?_
        · exact fun _ _ => h.congr rfl rfl rfl rfl fun _ ha => ha
        · intro g handle _ _ _ _
          refine h.abandon rfl fun i t ht => ?_
          obtain ⟨t', ht', haborted⟩ := habandoned i t ht
          obtain ⟨hlt, -⟩ := List.getElem?_eq_some_iff.mp ht'
          exact ⟨t', (List.getElem?_append_left hlt).trans ht', haborted⟩
        · exact fun _ => h.abandon rfl habandoned
      simpa [act, jobs, put?, Monitor.openersAll] using hafter
  | subscriber a =>
      obtain ⟨_, _, _, _, _, _, hact⟩ := s.exists_actSubscriber_eq a
      have hafter : (s.actSubscriber a).1.monitor.Ledger (s.actSubscriber a).1.feeds id given
          openers := by
        rw [hact]
        exact h.congr rfl rfl rfl rfl fun _ ha => ha
      simpa [act, jobs, put?, Monitor.openersAll] using hafter
  | client c => exact absurd rfl (ha c)
  | run j | settle =>
      rw [act_of_runsTasks s rfl, put?_of_runsTasks s rfl, Option.toList_none, List.append_nil]
      exact h.runAll hm _

theorem ledger_actAll (h : s.monitor.Ledger s.feeds id given openers) (hm : s.monitor.Clientless)
    {run : List Action} (hrun : ∀ a ∈ run, ∀ c, a ≠ .client c) :
    (s.actAll run).monitor.Clientless ∧
      (s.actAll run).monitor.Ledger (s.actAll run).feeds id (given ++ s.given id run)
        (openers ++ s.openers id run) := by
  induction run generalizing s given openers with
  | nil => simpa [Session.given, Session.openers, actAll] using ⟨hm, h⟩
  | cons a rest ih =>
      obtain ⟨ha, hrest⟩ := List.forall_mem_cons.mp hrun
      have hlater := ih (ledger_act h hm ha) (clientless_act hm ha) hrest
      rw [List.append_assoc, List.append_assoc] at hlater
      exact hlater

/-! ### After the last settling -/

theorem given_append (s : Session) (id : FeedId) (first later : List Action) :
    s.given id (first ++ later) = s.given id first ++ (s.actAll first).given id later := by
  induction first generalizing s with
  | nil => rfl
  | cons a rest ih => simp [Session.given, ih]

theorem openers_append (s : Session) (id : FeedId) (first later : List Action) :
    s.openers id (first ++ later) = s.openers id first ++ (s.actAll first).openers id later := by
  induction first generalizing s with
  | nil => rfl
  | cons a rest ih => simp [Session.openers, ih]

/-- Only sending puts a message into a feed. -/
theorem isMessage_of_put? {a : BrokerAction} (ha : ∀ name r m, a ≠ .send name r m)
    {e : StreamEvent id.resource} (he : s.put? id (.broker a) = some e) : e.isMessage = false := by
  cases a with
  | send name r m => exact absurd rfl (ha name r m)
  | fail | close | offer =>
      simp only [put?] at he
      split at he
      · obtain rfl := Option.some.inj he
        rfl
      · cases he
  | _ => cases he

/-- So what the broker does after a settling adds no message, unless it sends one. -/
theorem messages_given_broker (s : Session) (run : List Action) {a : BrokerAction}
    (ha : ∀ name r m, a ≠ .send name r m) :
    StreamEvent.messages (s.given id (run ++ [.settle, .broker a])) =
      StreamEvent.messages (s.given id run) := by
  let settled := ((s.actAll run).act .settle).1
  have hsettle : (s.actAll run).put? id .settle = none := put?_of_runsTasks _ rfl
  have hnext : s.given id (run ++ [.settle, .broker a]) =
      s.given id run ++ (settled.put? id (.broker a)).toList := by
    rw [given_append]
    simp only [Session.given, hsettle, Option.toList_none, List.nil_append, List.append_nil,
      settled]
  rw [hnext]
  cases hput : settled.put? id (.broker a) with
  | none => rw [Option.toList_none, List.append_nil]
  | some e => exact StreamEvent.messages_concat (isMessage_of_put? ha hput) _

/-- Once everything has settled, a task that has opened a feed and was not aborted has delivered
what was put into it. -/
theorem delivered_of_opened {rate : Option UInt32} {run : List Action}
    (hrun : ∀ a ∈ run, ∀ c, a ≠ .client c) {i : Nat}
    (hopened : i ∈ (start rate).openers id (run ++ [.settle])) {t : StreamTask}
    (ht : ((start rate).actAll (run ++ [.settle])).monitor.tasks[i]? = some t)
    (haborted : t.aborted = false) :
    let m := ((start rate).actAll (run ++ [.settle])).monitor
    let messages := StreamEvent.messages ((start rate).given id run)
    m.snapshot id.resource = .after m.generation messages ∧
      m.status.streams.get? id.resource =
        some (if messages = [] then .connecting else .streaming) := by
  intro m messages
  have hrun' : ∀ a ∈ run ++ [.settle], ∀ c, a ≠ .client c :=
    List.forall_mem_append.mpr ⟨hrun, by simp⟩
  obtain ⟨hm, hledger⟩ := ledger_actAll (Monitor.Ledger.initial rate id) (clientless_start rate)
    hrun'
  have hgiven : (start rate).given id (run ++ [.settle]) = (start rate).given id run := by
    rw [given_append]
    exact List.append_nil _
  rw [hgiven] at hledger
  obtain ⟨t', ht', hfollows⟩ := hledger.followed i hopened
  obtain rfl := Option.some.inj (ht.symm.trans ht')
  have hsettled : m.isSettled = true := by
    have hbefore := (ledger_actAll (Monitor.Ledger.initial rate id) (clientless_start rate) hrun).1
    have hsettle : m = ((start rate).actAll run).monitor.settle :=
      congrArg Session.monitor (actAll_append _ run [.settle])
    rw [hsettle]
    exact hbefore.reachable.isSettled_settle
  have hslot : m.snapshot id.resource = .after m.generation messages :=
    (hfollows haborted).snapshot_eq ht (Monitor.isSettled_iff.mp hsettled _)
  refine ⟨hslot, ?_⟩
  rw [(hfollows haborted).streams_eq hm ht haborted]
  show some (if (m.snapshot id.resource).sequence = 0 then _ else _) = _
  rw [hslot]
  simp only [Snapshot.after, List.length_eq_zero_iff]

/-- What the broker does leaves the marks of the tasks and the generation alone, and so does the
settling that follows. -/
theorem kept_by_broker (s : Session) (a : BrokerAction) :
    let later := (s.actAll [.broker a, .settle]).monitor
    later.tasks.map (·.aborted) = s.monitor.tasks.map (·.aborted) ∧
      later.generation = s.monitor.generation := by
  intro later
  obtain ⟨_, _, _, _, _, hact⟩ := s.exists_actBroker_eq a
  have hsettle : later = (s.actBroker a).1.monitor.settle := rfl
  rw [hsettle, hact]
  constructor
  · rw [Monitor.settle, Monitor.settleWithin_eq_runAll]
    exact Monitor.map_tasks_runAll (fun _ _ _ _ => rfl) _ _
  · exact congrArg Prod.fst (Monitor.epoch_settleWithin _ _)

/-- Delivery from end to end. Take any run of a session without clients, of any actions in any
order, in which a task has opened a feed and no connect or shutdown came later: the task is of the
current generation. Dropping the monitor aborts its tasks as a shutdown does, so it is alive.

Of what was put into the feed, before and after it was opened and whatever settled in between, the
messages before the first failure or end count. Once everything has settled, the slot of the feed's
resource counts them all, and holds the conversion of the last one alone: one record for each entry,
in order and with every field, or nothing if there was no message. The status shows the resource as
streaming if there was one, and as connecting if not. Whatever the broker does next, if it is not
the sending of a message, be it a failure, an end or another feed, changes neither. -/
theorem delivery_is_complete {rate : Option UInt32} {run : List Action}
    (hrun : ∀ a ∈ run, ∀ c, a ≠ .client c) {id : FeedId} {i : Nat}
    (hopened : i ∈ (start rate).openers id (run ++ [.settle])) {t : StreamTask}
    (ht : ((start rate).actAll (run ++ [.settle])).monitor.tasks[i]? = some t)
    (hcurrent : t.generation = ((start rate).actAll (run ++ [.settle])).monitor.generation)
    (alive : ((start rate).actAll (run ++ [.settle])).monitor.alive = true) :
    let s := (start rate).actAll (run ++ [.settle])
    let messages := StreamEvent.messages ((start rate).given id run)
    let snapshot := s.monitor.snapshot id.resource
    let status := s.monitor.status.streams.get? id.resource
    snapshot.generation = s.monitor.generation ∧
    snapshot.sequence = messages.length ∧
    (∀ m, messages.getLast? = some m →
      List.Forall₂ id.resource.Converts m snapshot.records) ∧
    (messages = [] → snapshot.records = []) ∧
    status = some (if messages = [] then .connecting else .streaming) ∧
    ∀ a : BrokerAction, (∀ name r m, a ≠ .send name r m) →
      let later := s.actAll [.broker a, .settle]
      later.monitor.snapshot id.resource = snapshot ∧
      later.monitor.status.streams.get? id.resource = status := by
  intro s messages snapshot status
  have hm : s.monitor.Clientless :=
    (ledger_actAll (Monitor.Ledger.initial rate id) (clientless_start rate)
      (List.forall_mem_append.mpr ⟨hrun, by simp⟩)).1
  have haborted : t.aborted = false :=
    hm.reachable.retired.kept alive i t ht (hm.solo t (List.mem_of_getElem? ht)) hcurrent
  obtain ⟨hslot, hstatus⟩ := delivered_of_opened hrun hopened ht haborted
  have hslot : snapshot = .after s.monitor.generation messages := hslot
  refine ⟨by rw [hslot]; rfl, by rw [hslot]; rfl, ?_, ?_, hstatus, ?_⟩
  · intro m hlast
    rw [hslot, Snapshot.after, hlast]
    exact id.resource.forall₂_converts_listing m
  · intro hnone
    rw [hslot, hnone]
    rfl
  · intro a ha later
    obtain ⟨hmarks, hgeneration⟩ := s.kept_by_broker a
    obtain ⟨t', ht', hsame⟩ := StreamTask.exists_getElem?_of_map hmarks.symm ht
    -- The theorem for the longer run, in which the same messages count.
    let run' := run ++ [.settle, .broker a]
    have hlater : (start rate).actAll (run' ++ [.settle]) = later := by
      show (start rate).actAll ((run ++ [.settle, .broker a]) ++ [.settle]) = _
      simp only [later, s, actAll_append]
      rfl
    have hrun' : ∀ a ∈ run', ∀ c, a ≠ .client c :=
      List.forall_mem_append.mpr ⟨hrun, by simp⟩
    have hopened' : i ∈ (start rate).openers id (run' ++ [.settle]) := by
      have hsplit : run' ++ [.settle] = (run ++ [.settle]) ++ [.broker a, .settle] := by
        simp [run']
      rw [hsplit, openers_append]
      exact List.mem_append_left _ hopened
    have hmessages : StreamEvent.messages ((start rate).given id run') = messages :=
      messages_given_broker _ run ha
    obtain ⟨hslot', hstatus'⟩ := delivered_of_opened hrun' hopened' (hlater ▸ ht')
      (hsame.trans haborted)
    rw [hmessages, hlater] at hslot' hstatus'
    refine ⟨?_, hstatus'.trans hstatus.symm⟩
    rw [hslot', hslot, hgeneration]

/-- A listing is replaced by a later one, what follows a failure is not read, and the end that comes
last changes nothing. -/
theorem delivery_is_complete_past_a_failure :
    let run : List Action := [
      .broker (.offer "feed" "[::1]" .channels),
      .broker (.send "feed" .channels [{ topic := "early" }, { topic := "other" }]),
      .connection (.connect "first" "http://[::1]"), .settle,
      .broker (.send "feed" .channels [{ topic := "late", messageCount := -1 }]),
      .broker (.fail "feed" (.transport "gone")),
      .broker (.send "feed" .channels [])]
    let s := (start none).actAll (run ++ [.settle])
    (s.monitor.snapshot .channels).sequence = 2 ∧
    (s.monitor.snapshot .channels).records.map (·.topic) = ["late"] ∧
    (s.monitor.snapshot .channels).records.map (·.messageCount.toNat) = [0] ∧
    s.monitor.status.streams.get? .channels = some .streaming ∧
    (s.actAll [.broker (.close "feed"), .settle]).monitor.snapshot .channels =
      s.monitor.snapshot .channels := by
  intro run s
  have hthere : (s.monitor.tasks[0]?).any (·.generation == s.monitor.generation) = true := by
    decide +kernel
  obtain ⟨t, ht, hcurrent⟩ := (Option.any_eq_true _ _).mp hthere
  have hmessages : StreamEvent.messages ((start none).given ⟨.channels, 0⟩ run) =
      [[{ topic := "early" }, { topic := "other" }],
        [{ topic := "late", messageCount := -1 }]] := by
    decide +kernel
  obtain ⟨-, hsequence, hrecords, -, hstatus, hlater⟩ :=
    @delivery_is_complete none run (by simp [run]) ⟨.channels, 0⟩ 0 (by decide +kernel) t ht
      (beq_iff_eq.mp hcurrent) (by decide +kernel)
  rw [hmessages] at hsequence hrecords hstatus
  obtain ⟨c, rest, ⟨htopic, -, -, hcount⟩, hrest, hlisted⟩ :=
    List.forall₂_cons_left_iff.mp (hrecords _ rfl)
  obtain rfl := List.forall₂_nil_left_iff.mp hrest
  have hlisted : (s.monitor.snapshot .channels).records = [c] := hlisted
  refine ⟨hsequence, ?_, ?_, hstatus, (hlater (.close "feed") nofun).1⟩
  · rw [hlisted, List.map_singleton, htopic]
  · rw [hlisted, List.map_singleton, hcount]
    rfl

end Session

end BrokerMonitor
