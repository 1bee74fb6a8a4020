import BrokerMonitor.Proofs.Presence.Settling
/-!
# Sessions without some subscribers

Those who look at the status or at the listings are known by name, and a name goes to whoever has
joined by it last. `Session.Thins` relates a session to one in which some of them have never been:
for the others their names stand for the same, and the broker, the connection and the clients are
the same. Whatever is done in both sessions gets the same answer in both, and what is done for one
who is left out is missed by nobody.
-/

namespace BrokerMonitor

/-- Rosters that agree about a name do so after the same has been named in both. -/
theorem Roster.get?_put_congr {α : Type} {r r' : Roster α} {name other : String} {a : α}
    (h : other ≠ name → r'.get? other = r.get? other) :
    (r'.put name a).get? other = (r.put name a).get? other := by
  rw [Roster.get?_put, Roster.get?_put]
  split
  · rfl
  · next hne => exact h hne

/-- One who looks at the status or at the listings. -/
inductive Subscriber where
  | observer (name : String)
  | watch (name : String)
  | follower (name : String)
deriving DecidableEq, Repr, Inhabited

namespace SubscriberAction

/-- Who does it, or for whom it is done. -/
def subscriber : SubscriberAction → Subscriber
  | .observe name | .seen name | .unobserve name => .observer name
  | .watch name | .watched name => .watch name
  | .subscribe name _ | .current name | .latest name | .changed name | .intoStream name
  | .next name => .follower name

/-- Somebody new gets the name. -/
def joins : SubscriberAction → Bool
  | .observe _ | .watch _ | .subscribe .. => true
  | _ => false

end SubscriberAction

/-- Who is left out of a run: those who have a name that is `gone`, and all observers' tasks but
those at the `places`. -/
structure Absence where
  gone : Subscriber → Bool
  places : List Nat

namespace Absence

/-- A name goes to somebody who is left `out` or not. -/
def mark (c : Absence) (x : Subscriber) (out : Bool) : Absence :=
  { c with gone := fun y => if y = x then out else c.gone y }

/-- One more observer is kept. -/
def keep (c : Absence) (place : Nat) : Absence := { c with places := c.places ++ [place] }

/-- Who is left out after an action. Nobody joins a monitor that has been dropped. -/
def after (c : Absence) (s : Session) : Action × Bool → Absence
  | (.subscriber (.observe name), out) =>
    if s.monitor.alive then
      (if out then c else c.keep s.monitor.observers.length).mark (.observer name) out
    else c
  | (.subscriber a, out) =>
    if a.joins && s.monitor.alive then c.mark a.subscriber out else c
  | _ => c

theorem gone_mark_self (c : Absence) (x : Subscriber) (out : Bool) :
    (c.mark x out).gone x = out := if_pos rfl

theorem gone_mark_of_ne (c : Absence) {x y : Subscriber} (h : y ≠ x) (out : Bool) :
    (c.mark x out).gone y = c.gone y := if_neg h

theorem gone_of_mark_out (c : Absence) {x y : Subscriber} (h : (c.mark x true).gone y = false) :
    c.gone y = false := by
  by_cases heq : y = x
  · rw [heq, c.gone_mark_self] at h
    cases h
  · rwa [c.gone_mark_of_ne heq] at h

/-- A name that keeps its mark. -/
theorem mark_eq_self {c : Absence} {x : Subscriber} {out : Bool} (h : c.gone x = out) :
    c.mark x out = c := by
  have hsame : (fun y => if y = x then out else c.gone y) = c.gone := by
    funext y
    split
    · next heq => rw [heq, h]
    · rfl
  rw [mark, hsame]

end Absence

namespace Session

/-- Every observer's name stands for an observer that is there. -/
def Known (s : Session) : Prop :=
  ∀ name k, s.observers.get? name = some k → k < s.monitor.observers.length

/-- The session `n` is `s` without those who are left out. -/
structure Thins (c : Absence) (s n : Session) : Prop where
  monitor : s.monitor.Thins c.places n.monitor
  feeds : n.feeds = s.feeds
  handles : n.handles = s.handles
  clients : n.clients = s.clients
  observer : ∀ name, c.gone (.observer name) = false →
    n.observers.get? name = (s.observers.get? name).bind c.places.idxOf?
  present : ∀ name k, s.observers.get? name = some k →
    (k ∈ c.places ↔ c.gone (.observer name) = false)
  watch : ∀ name, c.gone (.watch name) = false → n.watches.get? name = s.watches.get? name
  follower : ∀ name, c.gone (.follower name) = false →
    n.followers.get? name = s.followers.get? name

/-- An action with the same answer in both sessions. -/
def Meets (c : Absence) (given given' : Session × Answer) : Prop :=
  given.1.Thins c given'.1 ∧ given'.2 = given.2

variable {c : Absence} {s n : Session}

namespace Thins

theorem start (rate : Option UInt32) (gone : Subscriber → Bool) :
    (Session.start rate).Thins ⟨gone, []⟩ (Session.start rate) where
  monitor := .initial rate
  feeds := rfl
  handles := rfl
  clients := rfl
  observer _ _ := rfl
  present _ _ h := nomatch h
  watch _ _ := rfl
  follower _ _ := rfl

theorem with_monitor (h : s.Thins c n) {m m' : Monitor} (hm : m.Thins c.places m') :
    ({ s with monitor := m } : Session).Thins c { n with monitor := m' } :=
  { h with monitor := hm }

theorem with_feeds (h : s.Thins c n) (feeds : Roster FeedId) :
    ({ s with feeds } : Session).Thins c { n with feeds } :=
  { h with feeds := rfl }

theorem with_handles (h : s.Thins c n) (handles : Roster Handle) :
    ({ s with handles } : Session).Thins c { n with handles } :=
  { h with handles := rfl }

theorem with_clients (h : s.Thins c n) (clients : Roster Nat) :
    ({ s with clients } : Session).Thins c { n with clients } :=
  { h with clients := rfl }

/-- What is looked up by the name of somebody who is left out or not. -/
theorem withNamed {α : Type} (h : s.Thins c n) {roster roster' : Roster α} {name : String}
    {k k' : α → Session × Answer} (hroster : roster'.get? name = roster.get? name)
    (hk : ∀ a, roster.get? name = some a → Meets c (k a) (k' a)) :
    Meets c (s.withNamed roster name k) (n.withNamed roster' name k') := by
  unfold Session.withNamed
  rw [hroster]
  split
  · next a ha => exact hk a ha
  · exact ⟨h, rfl⟩

theorem sendTo (h : s.Thins c n) (hm : s.monitor.Lined) (id : FeedId) (item : id.resource.Item) :
    Meets c (s.sendTo id item) (n.sendTo id item) := by
  have hsent := h.monitor.of_blind_ready hm
    (f := fun m => m.modifyFeed id.resource id.place (·.send item)) fun _ _ _ _ => rfl
  have htaken : n.monitor.isAbandoned id = s.monitor.isAbandoned id :=
    h.monitor.same (·.isAbandoned id) fun _ => rfl
  exact ⟨h.with_monitor hsent, congrArg (fun gone => Answer.said !gone) htaken⟩

/-- The broker asks nobody who observes. -/
theorem actBroker (h : s.Thins c n) (hm : s.monitor.Lined) (a : BrokerAction) :
    Meets c (s.actBroker a) (n.actBroker a) := by
  have hroster : ∀ name, n.feeds.get? name = s.feeds.get? name := fun name => by rw [h.feeds]
  cases a with
  | offer name host r =>
      have hblind : Monitor.Blind fun m => (m.offer r host).1 := fun _ _ _ _ => rfl
      have hid : (n.monitor.offer r host).2 = (s.monitor.offer r host).2 :=
        h.monitor.same (fun m => (m.offer r host).2) fun _ => rfl
      have hoffered := h.monitor.of_blind hblind
      refine ⟨?_, rfl⟩
      simp only [Session.actBroker, Session.offer, h.feeds, hid]
      cases s.feeds.get? name with
      | none => exact (h.with_monitor hoffered).with_feeds _
      | some old => exact (h.with_monitor (hoffered.close (hm.of_blind hblind) old)).with_feeds _
  | send name r message =>
      refine h.withNamed (hroster name) fun id _ => ?_
      split
      · exact h.sendTo hm id _
      · exact ⟨h, rfl⟩
  | fail name e => exact h.withNamed (hroster name) fun id _ => h.sendTo hm id _
  | close name =>
      simp only [Session.actBroker, h.feeds]
      cases s.feeds.get? name with
      | none => exact ⟨h, rfl⟩
      | some id => exact ⟨(h.with_monitor (h.monitor.close hm id)).with_feeds _, rfl⟩
  | isAbandoned name =>
      refine h.withNamed (hroster name) fun id _ => ⟨h, ?_⟩
      exact h.monitor.same (fun m => Answer.said (m.isAbandoned id)) fun _ => rfl
  | refuse e =>
      exact ⟨h.with_monitor (h.monitor.of_blind (f := (·.refuse e)) fun _ _ _ _ => rfl), rfl⟩
  | requests =>
      refine ⟨h.with_monitor ?_, ?_⟩
      · exact h.monitor.of_blind (f := fun m => { m with requests := m.requests.read.1 })
          fun _ _ _ _ => rfl
      · exact h.monitor.same (fun m => Answer.requested m.requests.read.2) fun _ => rfl

theorem connect (h : s.Thins c n) (hm : s.monitor.Lined) (name url : String) :
    Meets c (s.connect name url) (n.connect name url) := by
  have hrefusal : n.monitor.refusal = s.monitor.refusal :=
    h.monitor.same Monitor.refusal fun _ => rfl
  have hgeneration : n.monitor.generation = s.monitor.generation :=
    h.monitor.same Monitor.generation fun _ => rfl
  cases hparse : Endpoint.parse url with
  | error e =>
      simp only [Session.connect, Monitor.connect, hparse]
      exact ⟨h, rfl⟩
  | ok endpoint =>
      cases hr : s.monitor.refusal with
      | some e =>
          have hused := h.monitor.of_blind (f := fun m => { m with refusal := none })
            fun _ _ _ _ => rfl
          simp only [Session.connect, Monitor.connect, hparse, hr, hrefusal.trans hr]
          exact ⟨h.with_monitor hused, rfl⟩
      | none =>
          cases hg : s.monitor.generation.next? with
          | none =>
              have hg' : n.monitor.generation.next? = none := hgeneration ▸ hg
              simp only [Session.connect, Monitor.connect, hparse, hr, hrefusal.trans hr, hg, hg']
              exact ⟨h, rfl⟩
          | some g =>
              have hg' : n.monitor.generation.next? = some g := hgeneration ▸ hg
              simp only [Session.connect, Monitor.connect, hparse, hr, hrefusal.trans hr, hg, hg',
                h.handles]
              exact ⟨(h.with_monitor (h.monitor.attach hm g _)).with_handles _, rfl⟩

/-- Nor does what is done about the connection. -/
theorem actConnection (h : s.Thins c n) (hm : s.monitor.Lined) (a : ConnectionAction) :
    Meets c (s.actConnection a) (n.actConnection a) := by
  have halive : n.monitor.alive = s.monitor.alive := h.monitor.same Monitor.alive fun _ => rfl
  have hgeneration : n.monitor.generation = s.monitor.generation :=
    h.monitor.same Monitor.generation fun _ => rfl
  cases a with
  | connect name url =>
      simp only [Session.actConnection, halive]
      split
      · exact h.connect hm name url
      · exact ⟨h, rfl⟩
  | shutdown =>
      simp only [Session.actConnection, Monitor.shutdown?, halive, hgeneration]
      split
      · cases s.monitor.generation.next? with
        | none => exact ⟨h, rfl⟩
        | some g => exact ⟨h.with_monitor (h.monitor.attach hm g none), rfl⟩
      · exact ⟨h, rfl⟩
  | isSame a b =>
      simp only [Session.actConnection, h.handles]
      split <;> exact ⟨h, rfl⟩
  | drop =>
      simp only [Session.actConnection, halive]
      split
      · exact ⟨h.with_monitor (h.monitor.of_blind_ready hm
          (f := fun m => { m.abandonTasks with alive := false }) fun _ _ _ _ => rfl), rfl⟩
      · exact ⟨h, rfl⟩

theorem startClient (h : s.Thins c n) (hm : s.monitor.Lined) (name : String) (t : StreamTask) :
    Meets c (s.startClient name t) (n.startClient name t) := by
  have hplace : n.monitor.tasks.length = s.monitor.tasks.length :=
    h.monitor.same (·.tasks.length) fun _ => rfl
  have hspawned := h.monitor.of_blind_ready hm (f := fun m => m.spawn t) fun _ _ _ _ => rfl
  refine ⟨?_, rfl⟩
  simp only [Session.startClient, Monitor.startClient, hplace, h.clients]
  exact (h.with_monitor hspawned).with_clients _

/-- Nor do clients. -/
theorem actClient (h : s.Thins c n) (hm : s.monitor.Lined) (a : ClientAction) :
    Meets c (s.actClient a) (n.actClient a) := by
  have halive : n.monitor.alive = s.monitor.alive := h.monitor.same Monitor.alive fun _ => rfl
  have hroster : ∀ name, n.clients.get? name = s.clients.get? name :=
    fun name => by rw [h.clients]
  cases a with
  | startOver name r handle =>
      have htask : ∀ k, n.monitor.clientTask r k = s.monitor.clientTask r k :=
        fun k => h.monitor.same (·.clientTask r k) fun _ => rfl
      simp only [Session.actClient, halive, h.handles, htask]
      split
      · split
        · exact h.startClient hm name _
        · exact ⟨h, rfl⟩
      · exact ⟨h, rfl⟩
  | startDetached name r g =>
      simp only [Session.actClient, halive]
      split
      · exact h.startClient hm name _
      · exact ⟨h, rfl⟩
  | cancel name =>
      refine h.withNamed (hroster name) fun i _ => ⟨h.with_monitor ?_, rfl⟩
      exact h.monitor.of_blind_ready hm
        (f := fun m => { m with tasks := m.tasks.modify i (·.cancel) }) fun _ _ _ _ => rfl
  | state name =>
      refine h.withNamed (hroster name) fun i _ => ?_
      have htasks : n.monitor.tasks = s.monitor.tasks :=
        h.monitor.same Monitor.tasks fun _ => rfl
      simp only [Session.clientState, htasks]
      split
      · exact ⟨h, rfl⟩
      · next t ht =>
          have hread := h.monitor.of_blind
            (f := fun m => { m with tasks := m.tasks.set i { t with log := t.log.read.1 } })
            fun _ _ _ _ => rfl
          rw [htasks] at hread
          exact ⟨h.with_monitor hread, rfl⟩

end Thins

/-! ### Subscribers -/

/-- Nobody joins a monitor that has been dropped. -/
theorem actSubscriber_of_joins {a : SubscriberAction} (hjoins : a.joins = true)
    (alive : s.monitor.alive = false) : s.actSubscriber a = (s, .dropped) := by
  have hdropped : ¬ s.monitor.alive = true := by simp [alive]
  cases a with
  | observe name | watch name | subscribe name r => exact if_neg hdropped
  | _ => cases hjoins

theorem after_of_not_alive (alive : s.monitor.alive = false) (a : SubscriberAction) (out : Bool) :
    c.after s (.subscriber a, out) = c := by
  cases a <;> simp [Absence.after, alive]

namespace Thins

/-- Of somebody who is left out nothing has to be the same. -/
theorem mark_out (h : s.Thins c n) {x : Subscriber} (hx : ∀ name, x ≠ .observer name) :
    s.Thins (c.mark x true) n where
  monitor := h.monitor
  feeds := h.feeds
  handles := h.handles
  clients := h.clients
  observer name hname := h.observer name (by rwa [c.gone_mark_of_ne (hx name).symm] at hname)
  present name k hk := by
    rw [c.gone_mark_of_ne (hx name).symm]
    exact h.present name k hk
  watch name hname := h.watch name (c.gone_of_mark_out hname)
  follower name hname := h.follower name (c.gone_of_mark_out hname)

/-- A watch in both sessions. -/
theorem put_watch (h : s.Thins c n) (name : String) (w : Receiver) :
    ({ s with watches := s.watches.put name w } : Session).Thins (c.mark (.watch name) false)
      { n with watches := n.watches.put name w } where
  monitor := h.monitor
  feeds := h.feeds
  handles := h.handles
  clients := h.clients
  observer := h.observer
  present := h.present
  watch other hother := Roster.get?_put_congr fun hne =>
    h.watch other (by simpa [Absence.mark, hne] using hother)
  follower := h.follower

/-- A watch in one session only. -/
theorem put_watch_gone (h : s.Thins c n) {name : String} (hname : c.gone (.watch name) = true)
    (w : Receiver) : ({ s with watches := s.watches.put name w } : Session).Thins c n :=
  { h with
    watch := fun other hother => by
      have hne : other ≠ name := fun heq => by simp [heq, hname] at hother
      rw [h.watch other hother, Roster.get?_put, if_neg hne] }

theorem put_follower (h : s.Thins c n) (name : String) (f : Follower) :
    ({ s with followers := s.followers.put name f } : Session).Thins (c.mark (.follower name) false)
      { n with followers := n.followers.put name f } where
  monitor := h.monitor
  feeds := h.feeds
  handles := h.handles
  clients := h.clients
  observer := h.observer
  present := h.present
  watch := h.watch
  follower other hother := Roster.get?_put_congr fun hne =>
    h.follower other (by simpa [Absence.mark, hne] using hother)

theorem keep_follower (h : s.Thins c n) {name : String} (hname : c.gone (.follower name) = false)
    (f : Follower) : ({ s with followers := s.followers.put name f } : Session).Thins c
      { n with followers := n.followers.put name f } := by
  have hput := h.put_follower name f
  rwa [Absence.mark_eq_self hname] at hput

theorem put_follower_gone (h : s.Thins c n) {name : String}
    (hname : c.gone (.follower name) = true) (f : Follower) :
    ({ s with followers := s.followers.put name f } : Session).Thins c n :=
  { h with
    follower := fun other hother => by
      have hne : other ≠ name := fun heq => by simp [heq, hname] at hother
      rw [h.follower other hother, Roster.get?_put, if_neg hne] }

/-- What is asked of an observer that is in both sessions. -/
theorem withObserver (h : s.Thins c n) {name : String} (hname : c.gone (.observer name) = false)
    {f f' : Nat → Session × Answer} (hf : ∀ i k, c.places[i]? = some k → Meets c (f k) (f' i)) :
    Meets c (s.withNamed s.observers name f) (n.withNamed n.observers name f') := by
  have hother := h.observer name hname
  unfold Session.withNamed
  cases hk : s.observers.get? name with
  | none =>
      rw [hk] at hother
      rw [hother]
      exact ⟨h, rfl⟩
  | some k =>
      have hmem := (h.present name k hk).mpr hname
      obtain ⟨i, hi⟩ := List.mem_iff_getElem?.mp hmem
      have hplace := (idxOf?_eq_some_iff h.monitor.ordered).mpr hi
      rw [hk, Option.bind_some, hplace] at hother
      rw [hother]
      exact hf i k hi

/-- An observer joins both sessions. -/
theorem observe (h : s.Thins c n) (hs : s.monitor.Reachable) (hn : n.monitor.Reachable)
    (hknown : s.Known) (name : String) :
    ({ s with
      monitor := s.monitor.observe.1
      observers := s.observers.put name s.monitor.observe.2 } : Session).Thins
      ((c.keep s.monitor.observers.length).mark (.observer name) false)
      { n with
        monitor := n.monitor.observe.1
        observers := n.observers.put name n.monitor.observe.2 } where
  monitor := h.monitor.observe hs hn
  feeds := h.feeds
  handles := h.handles
  clients := h.clients
  observer other hother := by
    have hordered := (h.monitor.observe hs hn).ordered
    have hplace : n.monitor.observe.2 = c.places.length := h.monitor.length
    show (n.observers.put name n.monitor.observe.2).get? other =
      ((s.observers.put name s.monitor.observers.length).get? other).bind
        (c.places ++ [s.monitor.observers.length]).idxOf?
    rw [Roster.get?_put, Roster.get?_put]
    split
    · rw [hplace, Option.bind_some]
      exact ((idxOf?_eq_some_iff hordered).mpr List.getElem?_concat_length).symm
    · next hne =>
        rw [h.observer other (by simpa [Absence.mark, Absence.keep, hne] using hother)]
        cases hk : s.observers.get? other with
        | none => rfl
        | some k =>
            have hlt := hknown other k hk
            exact (idxOf?_concat_of_ne h.monitor.ordered hordered (Nat.ne_of_lt hlt)).symm
  present other k hk := by
    have hk : (s.observers.put name s.monitor.observers.length).get? other = some k := hk
    show k ∈ c.places ++ [s.monitor.observers.length] ↔ _
    rw [Roster.get?_put] at hk
    split at hk
    · next heq =>
        obtain rfl := Option.some.inj hk
        simp [heq, Absence.mark]
    · next hne =>
        have hlt := hknown other k hk
        have hnew : k ∉ [s.monitor.observers.length] := by
          rw [List.mem_singleton]
          exact Nat.ne_of_lt hlt
        rw [List.mem_append, or_iff_left hnew, h.present other k hk]
        simp [Absence.mark, Absence.keep, hne]
  watch := h.watch
  follower := h.follower

/-- An observer joins one session only. -/
theorem observe_gone (h : s.Thins c n) (hs : s.monitor.Reachable) (hn : n.monitor.Reachable)
    (name : String) :
    ({ s with
      monitor := s.monitor.observe.1
      observers := s.observers.put name s.monitor.observe.2 } : Session).Thins
      (c.mark (.observer name) true) n where
  monitor := h.monitor.observe_absent hs hn.queued
  feeds := h.feeds
  handles := h.handles
  clients := h.clients
  observer other hother := by
    have hne : other ≠ name := fun heq => by simp [heq, Absence.mark] at hother
    show _ = ((s.observers.put name _).get? other).bind c.places.idxOf?
    rw [Roster.get?_put, if_neg hne, h.observer other (c.gone_of_mark_out hother)]
  present other k hk := by
    have hk : (s.observers.put name s.monitor.observers.length).get? other = some k := hk
    show k ∈ c.places ↔ _
    rw [Roster.get?_put] at hk
    split at hk
    · next heq =>
        obtain rfl := Option.some.inj hk
        have hnew : s.monitor.observers.length ∉ c.places :=
          fun hmem => Nat.lt_irrefl _ (h.monitor.present _ hmem)
        simp [heq, Absence.mark, hnew]
    · next hne =>
        rw [h.present other k hk]
        simp [Absence.mark, hne]
  watch := h.watch
  follower := h.follower

/-- What an observer that is in both sessions has heard is the same. -/
theorem seen (h : s.Thins c n) {i k : Nat} (hi : c.places[i]? = some k) :
    Meets c (s.seen k) (n.seen i) := by
  have hk := h.monitor.present k (List.mem_of_getElem? hi)
  have ho : s.monitor.observers[k]? = some s.monitor.observers[k] := List.getElem?_eq_getElem hk
  have ho' := h.monitor.observer i k hi
  rw [ho] at ho'
  have hread := h.monitor.attend hi id (g := fun o => { o with heard := o.heard.read.1 })
    fun _ _ => rfl
  rw [← Monitor.Thins.readHeard_eq_attend ho, ← Monitor.Thins.readHeard_eq_attend ho'] at hread
  simp only [Session.seen, ho, ho', Option.map_some]
  exact ⟨h.with_monitor hread, rfl⟩

/-- A subscriber that is in both sessions gets the same answers. -/
theorem actSubscriber (h : s.Thins c n) (hs : s.monitor.Reachable) (hn : n.monitor.Reachable)
    (hknown : s.Known) {a : SubscriberAction} {out : Bool}
    (hstays : (if a.joins then out else c.gone a.subscriber) = false) :
    Meets (c.after s (.subscriber a, out)) (s.actSubscriber a) (n.actSubscriber a) := by
  have halive : n.monitor.alive = s.monitor.alive := h.monitor.same Monitor.alive fun _ => rfl
  have hstore : n.monitor.store = s.monitor.store := h.monitor.same Monitor.store fun _ => rfl
  have hgone : n.monitor.storeGone = s.monitor.storeGone :=
    h.monitor.same Monitor.storeGone fun _ => rfl
  have hlined := hs.attentive.lined
  cases a with
  | observe name =>
      obtain rfl : out = false := hstays
      cases alive : s.monitor.alive with
      | true =>
          simp only [Session.actSubscriber, Absence.after, halive, alive, if_true]
          exact ⟨h.observe hs hn hknown name, rfl⟩
      | false =>
          rw [after_of_not_alive alive, actSubscriber_of_joins rfl alive,
            actSubscriber_of_joins rfl (halive.trans alive)]
          exact ⟨h, rfl⟩
  | watch name =>
      obtain rfl : out = false := hstays
      have hcell : n.monitor.board.status = s.monitor.board.status := h.monitor.board.status
      cases alive : s.monitor.alive with
      | true =>
          simp only [Session.actSubscriber, Absence.after, halive, alive, hcell, if_true]
          exact ⟨h.put_watch name _, rfl⟩
      | false =>
          rw [after_of_not_alive alive, actSubscriber_of_joins rfl alive,
            actSubscriber_of_joins rfl (halive.trans alive)]
          exact ⟨h, rfl⟩
  | subscribe name r =>
      obtain rfl : out = false := hstays
      cases alive : s.monitor.alive with
      | true =>
          simp only [Session.actSubscriber, Absence.after, halive, alive, hstore, if_true]
          exact ⟨h.put_follower name _, rfl⟩
      | false =>
          rw [after_of_not_alive alive, actSubscriber_of_joins rfl alive,
            actSubscriber_of_joins rfl (halive.trans alive)]
          exact ⟨h, rfl⟩
  | seen name => exact h.withObserver hstays fun i k hi => h.seen hi
  | unobserve name =>
      exact h.withObserver hstays fun i k hi =>
        ⟨h.with_monitor (h.monitor.unobserve hlined hi), rfl⟩
  | watched name =>
      have hname : c.gone (.watch name) = false := hstays
      have hcell : n.monitor.board.status = s.monitor.board.status := h.monitor.board.status
      refine h.withNamed (h.watch name hname) fun w _ => ?_
      have hput := h.put_watch name (s.monitor.board.status.poll s.monitor.boardGone w).2
      rw [Absence.mark_eq_self hname] at hput
      rw [hcell, h.monitor.boardGone_eq]
      exact ⟨hput, rfl⟩
  | current name =>
      refine h.withNamed (h.follower name hstays) fun f _ => ?_
      cases f <;> exact ⟨h, rfl⟩
  | latest name =>
      refine h.withNamed (h.follower name hstays) fun f _ => ?_
      cases f with
      | stream => exact ⟨h, rfl⟩
      | subscription r f =>
          exact ⟨h, h.monitor.same (fun m => Answer.snapshot r (m.snapshot r)) fun _ => rfl⟩
  | changed name =>
      refine h.withNamed (h.follower name hstays) fun f _ => ?_
      cases f with
      | stream => exact ⟨h, rfl⟩
      | subscription r f =>
          simp only [Session.changed, hstore, hgone]
          exact ⟨h.keep_follower hstays _, rfl⟩
  | intoStream name =>
      refine h.withNamed (h.follower name hstays) fun f _ => ?_
      cases f with
      | stream => exact ⟨h, rfl⟩
      | subscription r f => exact ⟨h.keep_follower hstays _, rfl⟩
  | next name =>
      refine h.withNamed (h.follower name hstays) fun f _ => ?_
      cases f with
      | subscription => exact ⟨h, rfl⟩
      | stream r f =>
          simp only [Session.next, hstore, hgone]
          exact ⟨h.keep_follower hstays _, rfl⟩

/-- A subscriber that is left out is missed by nobody. -/
theorem actSubscriber_gone (h : s.Thins c n) (hs : s.monitor.Reachable) (hn : n.monitor.Reachable)
    {a : SubscriberAction} {out : Bool}
    (hout : (if a.joins then out else c.gone a.subscriber) = true) :
    (s.actSubscriber a).1.Thins (c.after s (.subscriber a, out)) n := by
  have hlined := hs.attentive.lined
  -- What is done for a follower that is left out changes its entry at most.
  have hfollower : ∀ (name : String) (k : Follower → Session × Answer),
      c.gone (.follower name) = true →
      (∀ f, (k f).1 = s ∨ ∃ f', (k f).1 = { s with followers := s.followers.put name f' }) →
      (s.withNamed s.followers name k).1.Thins c n := by
    intro name k hname hk
    refine s.withNamed_elim s.followers name k h fun f _ => ?_
    rcases hk f with hsame | ⟨f', hput⟩
    · rwa [hsame]
    · rw [hput]
      exact h.put_follower_gone hname f'
  have hobserver : ∀ (name : String) (k : Nat), c.gone (.observer name) = true →
      s.observers.get? name = some k → k ∉ c.places := by
    intro name k hname hk hmem
    rw [(h.present name k hk).mp hmem] at hname
    cases hname
  cases a with
  | observe name =>
      obtain rfl : out = true := hout
      cases alive : s.monitor.alive with
      | true =>
          simp only [Session.actSubscriber, Absence.after, alive, if_true]
          exact h.observe_gone hs hn name
      | false =>
          rw [after_of_not_alive alive, actSubscriber_of_joins rfl alive]
          exact h
  | watch name =>
      obtain rfl : out = true := hout
      cases alive : s.monitor.alive with
      | true =>
          simp only [Session.actSubscriber, Absence.after, alive, if_true]
          exact (h.mark_out (by simp)).put_watch_gone (c.gone_mark_self _ _) _
      | false =>
          rw [after_of_not_alive alive, actSubscriber_of_joins rfl alive]
          exact h
  | subscribe name r =>
      obtain rfl : out = true := hout
      cases alive : s.monitor.alive with
      | true =>
          simp only [Session.actSubscriber, Absence.after, alive, if_true]
          exact (h.mark_out (by simp)).put_follower_gone (c.gone_mark_self _ _) _
      | false =>
          rw [after_of_not_alive alive, actSubscriber_of_joins rfl alive]
          exact h
  | seen name =>
      show (s.withNamed s.observers name s.seen).1.Thins c n
      refine s.withNamed_elim s.observers name _ h fun k hk => ?_
      unfold Session.seen
      split
      · exact h
      · next o ho =>
          have hread := h.monitor.attend_absent (hobserver name k hout hk) id fun o =>
            { o with heard := o.heard.read.1 }
          rw [← Monitor.Thins.readHeard_eq_attend ho] at hread
          exact { h with monitor := hread }
  | unobserve name =>
      show (s.withNamed s.observers name _).1.Thins c n
      refine s.withNamed_elim s.observers name _ h fun k hk => ?_
      exact { h with
        monitor := h.monitor.unobserve_absent hlined hn.queued (hobserver name k hout hk) }
  | watched name =>
      show (s.withNamed s.watches name _).1.Thins c n
      refine s.withNamed_elim s.watches name _ h fun w _ => ?_
      exact h.put_watch_gone hout _
  | current name =>
      exact hfollower name _ hout fun f => by cases f <;> exact .inl rfl
  | latest name =>
      exact hfollower name _ hout fun f => by cases f <;> exact .inl rfl
  | changed name | intoStream name =>
      refine hfollower name _ hout fun f => ?_
      cases f with
      | stream => exact .inl rfl
      | subscription => exact .inr ⟨_, rfl⟩
  | next name =>
      refine hfollower name _ hout fun f => ?_
      cases f with
      | subscription => exact .inl rfl
      | stream => exact .inr ⟨_, rfl⟩

end Thins

end Session

end BrokerMonitor
