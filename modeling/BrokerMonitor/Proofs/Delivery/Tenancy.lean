import BrokerMonitor.Proofs.Delivery.Ledger
/-!
# Who lives in a feed

A feed is opened at most once, by a stream task that then holds it. The task takes what waits in the
feed, and lets go of it once it has taken a failure or the end, or when it is run after it was
aborted. `Monitor.takes` lists what is taken from a feed, and `Tenancy` says how the feed's reader,
the task that has opened it and what was taken go together.
-/

namespace BrokerMonitor

namespace Reading

variable {r : Resource}

/-- What a task takes of the items that wait in its feed: everything up to the first failure or the
end, or the one message that its slot does not take any more. -/
def reads (fresh closed : Bool) : List r.Item → List (StreamEvent r)
  | [] => if closed then [.finished] else []
  | .error e :: _ => [.item (.error e)]
  | .ok m :: rest => .item (.ok m) :: if fresh then reads fresh closed rest else []

/-- Where nothing but messages waits, nothing else is taken. -/
theorem reads_messages (ms : List r.Message) :
    reads true false (ms.map .ok) = ms.map .ofMessage := by
  induction ms with
  | nil => rfl
  | cons m ms ih => exact congrArg (List.cons _) ih

/-- A task that ends has taken a failure or the end. -/
theorem exists_stop_of_ending {closed : Bool} {n : Nat} {items : List r.Item} {outcome : Outcome}
    (h : ending true closed n items = some outcome) :
    ∃ e ∈ reads true closed items, e.isMessage = false := by
  induction items generalizing n with
  | nil =>
      cases closed with
      | false => cases h
      | true => exact ⟨.finished, List.mem_singleton_self _, rfl⟩
  | cons item rest ih =>
      cases item with
      | error e => exact ⟨.item (.error e), List.mem_singleton_self _, rfl⟩
      | ok m =>
          obtain ⟨e, he, hstop⟩ := ih h
          exact ⟨e, List.mem_cons_of_mem _ he, hstop⟩

end Reading

/-- In the turn a task that reads at place `p` either waits there, having taken nothing but
messages, or it lets go of the feed and ends, having taken a failure or the end. -/
def Turn.Settles {r : Resource} (turn : Turn r) (p : Nat) (f : Feed r)
    (taken : List (StreamEvent r)) : Prop :=
  (turn.phase = .reading (some p) ∧ (turn.feed f).reader = .held ∧
    ∀ e ∈ taken, e.isMessage = true) ∨
  ((∃ outcome, turn.phase = .ended outcome) ∧ (turn.feed f).reader = .released ∧
    ∃ e ∈ taken, e.isMessage = false)

namespace StreamTask

/-- What the task takes from the feed within its reach when it is run. Being cancelled comes before
any item. -/
def takes (t : StreamTask) (fresh : Bool) (feed : Option (Feed t.resource)) :
    List (StreamEvent t.resource) :=
  if t.hasEnded || t.aborted || t.cancelled then []
  else match feed with
    | none => []
    | some f => Reading.reads fresh f.closed f.pending

/-- Whoever read the feed before, a task that goes on with it settles. -/
theorem settles_goOn {t : StreamTask} {p : Nat} {f g : Feed t.resource}
    (hphase : t.phase = .reading (some p)) (hcancelled : t.cancelled = false)
    (hheld : g.reader = .held) :
    (t.goOn true (some f)).Settles p g (Reading.reads true f.closed f.pending) := by
  refine t.goOn_elim ?_ ?_ ?_ ?_
  · intro h
    rw [hcancelled] at h
    cases h
  · exact fun _ h => nomatch h
  · intro _ _ hf hclosed hall
    obtain rfl := Option.some.inj hf
    refine .inl ⟨hphase, hheld, fun e he => ?_⟩
    rw [hclosed, ← hall, Reading.reads_messages] at he
    obtain ⟨m, -, rfl⟩ := List.mem_map.mp he
    rfl
  · intro _ outcome _ hf hending
    obtain rfl := Option.some.inj hf
    exact .inr ⟨⟨_, rfl⟩, rfl, Reading.exists_stop_of_ending hending⟩

end StreamTask

namespace Monitor

variable {m m' : Monitor} {i : Nat} {t : StreamTask} {id : FeedId}

/-! ### What is taken from a feed -/

/-- What the run of a job takes from feed `id`. -/
def takes (m : Monitor) (id : FeedId) : Job → List (StreamEvent id.resource)
  | .observer _ => []
  | .stream i =>
    match m.tasks[i]? with
    | none => []
    | some t =>
      if h : t.resource = id.resource then
        if m.reach t = some id.place then h ▸ t.takes (m.fresh t) (m.feedAt t.resource (m.reach t))
        else []
      else []

/-- What is taken from feed `id` while jobs are run one after the other. -/
def takesAll (m : Monitor) (id : FeedId) : List Job → List (StreamEvent id.resource)
  | [] => []
  | j :: js => m.takes id j ++ (m.run j).takesAll id js

theorem takes_of_none (ht : m.tasks[i]? = none) : m.takes id (.stream i) = [] := by
  simp [takes, ht]

/-- A task takes nothing from a feed out of its reach. -/
theorem takes_of_not_reach (ht : m.tasks[i]? = some t)
    (h : t.resource = id.resource → m.reach t ≠ some id.place) :
    m.takes id (.stream i) = [] := by
  simp only [takes, ht]
  split
  · next hr => rw [if_neg (h hr)]
  · rfl

theorem takes_of_reach {p : Nat} (ht : m.tasks[i]? = some t) (hreach : m.reach t = some p) :
    m.takes ⟨t.resource, p⟩ (.stream i) =
      t.takes (m.fresh t) (m.feedAt t.resource (m.reach t)) := by
  simp [takes, ht, hreach]

/-- A task that goes on settles at the feed within its reach, which it opens or holds. -/
theorem settles_turn (hfresh : m.fresh t = true) (haborted : t.aborted = false)
    (hcancelled : t.cancelled = false) (hended : t.hasEnded = false) {p : Nat}
    (hreach : m.reach t = some p) {f : Feed t.resource}
    (hf : (m.feeds.get t.resource)[p]? = some f) (hheld : t.starts = true ∨ f.reader = .held) :
    (m.turn t).Settles p f (t.takes (m.fresh t) (m.feedAt t.resource (m.reach t))) := by
  have hfeed : m.feedAt t.resource (some p) = some f := hf
  have htakes : t.takes true (some f) = Reading.reads true f.closed f.pending := by
    simp [StreamTask.takes, hended, haborted, hcancelled]
  rw [turn, hfresh, hreach, hfeed, htakes]
  refine StreamTask.turn_elim ?_ ?_ ?_ ?_ ?_
  · intro h
    rw [hended] at h
    cases h
  · intro _ h
    rw [haborted] at h
    cases h
  · intro hspawned _ htarget
    rw [m.reach_of_starts (StreamTask.starts_eq_true_iff.mpr ⟨hspawned, haborted⟩), htarget]
      at hreach
    cases hreach
  · intro h _ _ _
    exact StreamTask.settles_goOn (t := { t with phase := .reading (some p) }) (g := f.hold) rfl
      hcancelled rfl
  · intro held hphase _
    have hplace : held = some p := (m.reach_of_reading hphase).symm.trans hreach
    rcases hheld with hstarts | hheld
    · rw [StreamTask.starts_of_reading hphase] at hstarts
      cases hstarts
    · exact StreamTask.settles_goOn (hplace ▸ hphase) hcancelled hheld

/-! ### Readers -/

theorem reader?_of_feed? {o : Option (Feed id.resource)} (h : m.feed? id = o) :
    m.reader? id.resource id.place = o.map (·.reader) :=
  congrArg (Option.map Feed.reader) h

theorem reader?_modifyFeed (m : Monitor) (id other : FeedId)
    {g : Feed other.resource → Feed other.resource} (hg : ∀ f, (g f).reader = f.reader) :
    (m.modifyFeed other.resource other.place g).reader? id.resource id.place =
      m.reader? id.resource id.place := by
  by_cases hsame : other = id
  · subst hsame
    rw [reader?_of_feed? (m.feed?_modifyFeed_self other g), reader?_of_feed? rfl, Option.map_map]
    congr 1
    funext f
    exact hg f
  · rw [reader?_of_feed? (m.feed?_modifyFeed_of_ne hsame g), reader?_of_feed? rfl]

/-- Nobody has opened the feed yet, if it is there. -/
def Unopened (m : Monitor) (id : FeedId) : Prop :=
  m.reader? id.resource id.place = none ∨ m.reader? id.resource id.place = some .offered

/-- Nothing happens to the reader of a feed, or the feed had none yet and still has none. -/
def KeepsReader (m m' : Monitor) (id : FeedId) : Prop :=
  m'.reader? id.resource id.place = m.reader? id.resource id.place ∨
    (m.Unopened id ∧ m'.reader? id.resource id.place ≠ some .held)

theorem keepsReader_offer (m : Monitor) (r : Resource) (host : String) (id : FeedId) :
    m.KeepsReader (m.offer r host).1 id := by
  cases hf : m.feed? id with
  | none =>
      refine .inr ⟨.inl (reader?_of_feed? hf), fun hheld => ?_⟩
      obtain ⟨f, hnew, hreader⟩ := Option.map_eq_some_iff.mp hheld
      rw [eq_new_of_offer hf hnew] at hreader
      cases hreader
  | some f =>
      obtain ⟨f', hf', rfl | ⟨hoffered, rfl⟩⟩ := feed?_offer_old r host hf
      · exact .inl ((reader?_of_feed? hf').trans (reader?_of_feed? hf).symm)
      · refine .inr ⟨.inr ?_, ?_⟩
        · rw [reader?_of_feed? hf, Option.map_some, hoffered]
        · rw [reader?_of_feed? hf', Option.map_some]
          exact nofun

/-! ### Tenancy -/

/-- The tasks at the places `openers` have opened feed `id`, and `taken` was taken from it. As long
as the feed is held it has one tenant, which has taken nothing but messages. Once the feed is
released its tenant has ended, and it has taken a failure or the end, or it was aborted. -/
structure Tenancy (m : Monitor) (id : FeedId) (openers : List Nat)
    (taken : List (StreamEvent id.resource)) : Prop where
  unopened : m.Unopened id → openers = [] ∧ taken = []
  held : m.reader? id.resource id.place = some .held → ∃ i t, openers = [i] ∧
    m.tasks[i]? = some t ∧ t.resource = id.resource ∧ t.feed? = some id.place ∧
    ∀ e ∈ taken, e.isMessage = true
  released : m.reader? id.resource id.place = some .released → openers.length ≤ 1 ∧
    ∀ i ∈ openers, ∃ t, m.tasks[i]? = some t ∧ t.resource = id.resource ∧ t.hasEnded = true ∧
      (t.aborted = false → ∃ e ∈ taken, e.isMessage = false)

namespace Tenancy

variable {openers : List Nat} {taken : List (StreamEvent id.resource)}

theorem initial (rate : Option UInt32) (id : FeedId) : (Monitor.initial rate).Tenancy id [] [] := by
  have hnone : (Monitor.initial rate).reader? id.resource id.place = none := by
    obtain ⟨r, p⟩ := id
    cases r <;> rfl
  refine ⟨fun _ => ⟨rfl, rfl⟩, fun hheld => ?_, fun hreleased => ?_⟩
  · rw [hnone] at hheld
    cases hheld
  · rw [hnone] at hreleased
    cases hreleased

/-- Of a feed that is held only its tenant counts. -/
theorem of_held (hreader : m.reader? id.resource id.place = some .held)
    (htenant : ∃ i t, openers = [i] ∧ m.tasks[i]? = some t ∧ t.resource = id.resource ∧
      t.feed? = some id.place ∧ ∀ e ∈ taken, e.isMessage = true) :
    m.Tenancy id openers taken := by
  refine ⟨fun hunopened => ?_, fun _ => htenant, fun hreleased => ?_⟩
  · rw [Unopened, hreader] at hunopened
    simp at hunopened
  · rw [hreader] at hreleased
    cases hreleased

/-- Of a feed that is released only those count who have left it. -/
theorem of_released (hreader : m.reader? id.resource id.place = some .released)
    (hleft : openers.length ≤ 1 ∧ ∀ i ∈ openers, ∃ t, m.tasks[i]? = some t ∧
      t.resource = id.resource ∧ t.hasEnded = true ∧
      (t.aborted = false → ∃ e ∈ taken, e.isMessage = false)) : m.Tenancy id openers taken := by
  refine ⟨fun hunopened => ?_, fun hheld => ?_, fun _ => hleft⟩
  · rw [Unopened, hreader] at hunopened
    simp at hunopened
  · rw [hreader] at hheld
    cases hheld

/-- What is done from outside ends no tenancy. -/
theorem outside (h : m.Tenancy id openers taken) (htasks : m.Retains m')
    (hreader : m.KeepsReader m' id) : m'.Tenancy id openers taken := by
  have hphase : ∀ {t t' : StreamTask}, t.Remains t' →
      t'.feed? = t.feed? ∧ t'.hasEnded = t.hasEnded := by
    intro t t' hremains
    simp [StreamTask.feed?, StreamTask.hasEnded, hremains.phase]
  rcases hreader with hsame | ⟨hbefore, hafter⟩
  · constructor
    · intro hunopened
      apply h.unopened
      rwa [Unopened, hsame] at hunopened
    · intro hheld
      obtain ⟨i, t, hopeners, ht, hresource, hfeed, hall⟩ := h.held (hsame ▸ hheld)
      obtain ⟨t', ht', hremains⟩ := htasks i t ht
      exact ⟨i, t', hopeners, ht', hremains.resource.trans hresource,
        (hphase hremains).1.trans hfeed, hall⟩
    · intro hreleased
      obtain ⟨hone, hgone⟩ := h.released (hsame ▸ hreleased)
      refine ⟨hone, fun i hi => ?_⟩
      obtain ⟨t, ht, hresource, hended, hstop⟩ := hgone i hi
      obtain ⟨t', ht', hremains⟩ := htasks i t ht
      refine ⟨t', ht', hremains.resource.trans hresource, (hphase hremains).2.trans hended, ?_⟩
      intro hspared
      apply hstop
      by_contra haborted
      rw [hremains.aborted (by simpa using haborted)] at hspared
      cases hspared
  · obtain ⟨rfl, rfl⟩ := h.unopened hbefore
    refine ⟨fun _ => ⟨rfl, rfl⟩, fun hheld => absurd hheld hafter, fun _ => ⟨Nat.zero_le _, ?_⟩⟩
    exact fun i hi => absurd hi List.not_mem_nil

/-- Tenants go one by one: the tasks that are elsewhere stay where they are. -/
theorem turn_elsewhere (h : m.Tenancy id openers taken) (ht : m.tasks[i]? = some t)
    (haway : t.resource = id.resource → m.reach t ≠ some id.place) :
    (m.progress i t (m.progressOf (m.reach t) (m.turn t))).Tenancy id openers taken := by
  let n := m.progress i t (m.progressOf (m.reach t) (m.turn t))
  have hsame : n.reader? id.resource id.place = m.reader? id.resource id.place :=
    congrArg (Option.map Feed.reader)
      (getElem?_feeds_progressOf_of_ne (m.turn t) fun hr => haway hr.symm)
  constructor
  · intro hunopened
    apply h.unopened
    rwa [Unopened, hsame] at hunopened
  · intro hheld
    obtain ⟨k, u, hopeners, hu, hresource, hfeed, hall⟩ := h.held (hsame ▸ hheld)
    refine ⟨k, u, hopeners, (List.getElem?_set_ne ?_).trans hu, hresource, hfeed, hall⟩
    -- The tenant itself would be within reach.
    rintro rfl
    obtain rfl := Option.some.inj (ht.symm.trans hu)
    exact haway hresource (m.reach_of_reading (feed?_eq_some_iff.mp hfeed))
  · intro hreleased
    obtain ⟨hone, hgone⟩ := h.released (hsame ▸ hreleased)
    refine ⟨hone, fun k hk => ?_⟩
    obtain ⟨u, hu, hresource, hended, hstop⟩ := hgone k hk
    by_cases hki : i = k
    · subst hki
      obtain rfl := Option.some.inj (ht.symm.trans hu)
      refine ⟨_, getElem?_tasks_progress ht _, hresource, ?_, hstop⟩
      rw [turn_of_hasEnded m hended]
      exact hended
    · exact ⟨u, (List.getElem?_set_ne hki).trans hu, hresource, hended, hstop⟩

/-- Who reads the feed within reach is up to the turn. -/
theorem reader?_turn {p : Nat} {f : Feed t.resource} (hreach : m.reach t = some p)
    (hf : (m.feeds.get t.resource)[p]? = some f) :
    (m.progress i t (m.progressOf (m.reach t) (m.turn t))).reader? t.resource p =
      some ((m.turn t).feed f).reader := by
  have hfeed := getElem?_feeds_progressOf_self (m.turn t) hreach
  rw [hf] at hfeed
  exact congrArg (Option.map Feed.reader) hfeed

section Within

variable {p : Nat} {f : Feed t.resource} {taken : List (StreamEvent t.resource)}
  (ht : m.tasks[i]? = some t) (hreach : m.reach t = some p)
  (hf : (m.feeds.get t.resource)[p]? = some f)

include ht hreach hf

/-- A tenant that settles has its feed or has let go of it. -/
theorem turn_settles {more : List (StreamEvent t.resource)} (hsettles : (m.turn t).Settles p f more)
    (hall : ∀ e ∈ taken, e.isMessage = true) :
    (m.progress i t (m.progressOf (m.reach t) (m.turn t))).Tenancy ⟨t.resource, p⟩ [i]
      (taken ++ more) := by
  have hself := getElem?_tasks_progress ht (m.progressOf (m.reach t) (m.turn t))
  have hreader := reader?_turn (i := i) hreach hf
  rcases hsettles with ⟨hphase, hheld, hmore⟩ | ⟨⟨outcome, hphase⟩, hreleased, e, he, hstop⟩
  · rw [hheld] at hreader
    exact .of_held hreader ⟨i, _, rfl, hself, rfl, feed?_eq_some_iff.mpr hphase,
      List.forall_mem_append.mpr ⟨hall, hmore⟩⟩
  · rw [hreleased] at hreader
    refine .of_released hreader ⟨Nat.le_refl 1, fun k hk => ?_⟩
    obtain rfl := List.mem_singleton.mp hk
    refine ⟨_, hself, rfl, ?_, fun _ => ⟨e, List.mem_append_right _ he, hstop⟩⟩
    show (StreamTask.progress t _ _ (m.turn t).phase).hasEnded = true
    rw [hphase]
    rfl

/-- A tenant that was aborted lets go of its feed. -/
theorem turn_evicted (haborted : t.aborted = true) (hended : t.hasEnded = false) :
    (m.progress i t (m.progressOf (m.reach t) (m.turn t))).Tenancy ⟨t.resource, p⟩ [i] taken := by
  have hself := getElem?_tasks_progress ht (m.progressOf (m.reach t) (m.turn t))
  have hreader := reader?_turn (i := i) hreach hf
  have hturn := turn_of_aborted m hended haborted
  refine .of_released (hreader.trans (by rw [hturn]; rfl)) ⟨Nat.le_refl 1, fun k hk => ?_⟩
  obtain rfl := List.mem_singleton.mp hk
  refine ⟨_, hself, rfl, ?_, fun hspared => ?_⟩
  · show (StreamTask.progress t _ _ (m.turn t).phase).hasEnded = true
    rw [hturn]
    rfl
  · rw [StreamTask.aborted_progress, haborted] at hspared
    cases hspared

end Within

/-- A task opens a feed that nobody has opened before, and settles there. -/
theorem turn_opens (hm : m.Clientless) (ht : m.tasks[i]? = some t) {p : Nat}
    {taken : List (StreamEvent t.resource)} (h : m.Tenancy ⟨t.resource, p⟩ openers taken)
    (hreach : m.reach t = some p) (hstarts : t.starts = true)
    (hoffered : m.reader? t.resource p = some .offered) :
    (m.progress i t (m.progressOf (m.reach t) (m.turn t))).Tenancy ⟨t.resource, p⟩
      (openers ++ m.openers ⟨t.resource, p⟩ (.stream i))
      (taken ++ m.takes ⟨t.resource, p⟩ (.stream i)) := by
  obtain ⟨hspawned, haborted⟩ := StreamTask.starts_eq_true_iff.mp hstarts
  obtain ⟨hcancelled, hfresh⟩ := hm.goesOn ht haborted
  obtain ⟨rfl, rfl⟩ := h.unopened (.inr hoffered)
  obtain ⟨f, hf, -⟩ := Option.map_eq_some_iff.mp hoffered
  have hopeners : m.openers ⟨t.resource, p⟩ (.stream i) = [i] := by
    simp [Monitor.openers, opens, ht, hstarts, hreach]
  rw [takes_of_reach ht hreach, hopeners]
  apply turn_settles ht hreach hf
  · have hended := StreamTask.hasEnded_of_spawned hspawned
    exact settles_turn hfresh haborted hcancelled hended hreach hf (.inl hstarts)
  · exact fun e he => absurd he List.not_mem_nil

/-- The tenant of a feed goes on, or it was aborted and lets go of the feed. -/
theorem turn_goes_on (hm : m.Clientless) (ht : m.tasks[i]? = some t) {p : Nat}
    {taken : List (StreamEvent t.resource)} (h : m.Tenancy ⟨t.resource, p⟩ openers taken)
    (hreach : m.reach t = some p) (hstarts : t.starts = false) (hfeed : t.feed? = some p)
    (hheld : m.reader? t.resource p = some .held) :
    (m.progress i t (m.progressOf (m.reach t) (m.turn t))).Tenancy ⟨t.resource, p⟩
      (openers ++ m.openers ⟨t.resource, p⟩ (.stream i))
      (taken ++ m.takes ⟨t.resource, p⟩ (.stream i)) := by
  obtain ⟨k, u, rfl, hu, hresource, hplace, hall⟩ := h.held hheld
  obtain rfl : k = i := hm.reachable.wired.apart k i u t p hu ht hresource hplace hfeed
  obtain ⟨f, hf, hreader⟩ := Option.map_eq_some_iff.mp hheld
  have hreading := feed?_eq_some_iff.mp hfeed
  have hended := StreamTask.hasEnded_of_reading hreading
  have hopeners : m.openers ⟨t.resource, p⟩ (.stream k) = [] := by
    simp [Monitor.openers, opens, ht, hstarts]
  rw [takes_of_reach ht hreach, hopeners, List.append_nil]
  cases haborted : t.aborted with
  | true =>
      have hnothing : t.takes (m.fresh t) (m.feedAt t.resource (m.reach t)) = [] := by
        simp [StreamTask.takes, haborted]
      rw [hnothing, List.append_nil]
      exact turn_evicted ht hreach hf haborted hended
  | false =>
      obtain ⟨hcancelled, hfresh⟩ := hm.goesOn ht haborted
      exact turn_settles ht hreach hf
        (settles_turn hfresh haborted hcancelled hended hreach hf (.inr hreader)) hall

theorem runStream (h : m.Tenancy id openers taken) (hm : m.Clientless) (i : Nat) :
    (m.runStream i).Tenancy id (openers ++ m.openers id (.stream i))
      (taken ++ m.takes id (.stream i)) := by
  refine m.runStream_elim i ?_ fun t ht => ?_
  · intro hnone
    have hopeners : m.openers id (.stream i) = [] := by simp [Monitor.openers, hnone]
    rwa [takes_of_none hnone, hopeners, List.append_nil, List.append_nil]
  · by_cases hwithin : t.resource = id.resource ∧ m.reach t = some id.place
    · obtain ⟨r, p⟩ := id
      obtain ⟨rfl, hreach⟩ := hwithin
      rcases hm.reachable.wired.reach_cases ht hreach with
        ⟨hstarts, hoffered⟩ | ⟨hstarts, hfeed, hheld⟩
      · exact turn_opens hm ht h hreach hstarts hoffered
      · exact turn_goes_on hm ht h hreach hstarts hfeed hheld
    · have haway : t.resource = id.resource → m.reach t ≠ some id.place :=
        fun hr hreach => hwithin ⟨hr, hreach⟩
      have hopeners : m.openers id (.stream i) = [] := by
        simp only [Monitor.openers, ht, Option.any_some, opens]
        rw [if_neg]
        simpa [and_assoc] using fun _ => haway
      rw [takes_of_not_reach ht haway, hopeners, List.append_nil, List.append_nil]
      exact h.turn_elsewhere ht haway

/-- The queue does not matter, nor do the board and the observers. -/
theorem run (h : m.Tenancy id openers taken) (hm : m.Clientless) (j : Job) :
    (m.run j).Tenancy id (openers ++ m.openers id j) (taken ++ m.takes id j) := by
  cases j with
  | stream i =>
      obtain ⟨queue, hrun⟩ := m.exists_run_stream_eq i
      rw [hrun]
      have h' := h.runStream hm i
      exact ⟨h'.unopened, h'.held, h'.released⟩
  | observer k =>
      obtain ⟨board, observers, queue, hrun, -⟩ := m.exists_run_observer_eq k
      have hopeners : m.openers id (.observer k) = [] := rfl
      have htakes : m.takes id (.observer k) = [] := rfl
      rw [hrun, hopeners, htakes, List.append_nil, List.append_nil]
      exact ⟨h.unopened, h.held, h.released⟩

theorem runAll (h : m.Tenancy id openers taken) (hm : m.Clientless) (js : List Job) :
    (m.runAll js).Tenancy id (openers ++ m.openersAll id js) (taken ++ m.takesAll id js) := by
  induction js generalizing m openers taken with
  | nil => simpa [openersAll, takesAll] using h
  | cons j js ih =>
      have hrest := ih (h.run hm j) (hm.run j)
      rwa [List.append_assoc, List.append_assoc] at hrest

end Tenancy

end Monitor

end BrokerMonitor
