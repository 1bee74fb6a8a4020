import BrokerMonitor.Proofs.Delivery.Following
import BrokerMonitor.Proofs.Schedule.Confluence
/-!
# The ledger of a feed

What was put into a feed, by whatever name it had, and which tasks have opened it: this is a feed's
ledger. A feed on offer holds all that was put into it, and each task that has opened it follows it,
unless the task was aborted (`Ledger`). Names come and go with feeds: a name stands for a feed that
may still be sent to, no two names for the same feed, so that nothing follows the end.
-/

namespace BrokerMonitor

namespace Monitor

variable {m m' : Monitor} {i : Nat} {t : StreamTask} {id : FeedId}

/-! ### Feeds after a turn -/

/-- No turn ends a feed. -/
theorem closed_turn (m : Monitor) (t : StreamTask) (f : Feed t.resource) :
    ((m.turn t).feed f).closed = f.closed := by
  have hgoOn : ∀ (u : StreamTask) (fresh : Bool) (feed : Option (Feed u.resource))
      (f : Feed u.resource), ((u.goOn fresh feed).feed f).closed = f.closed := by
    intro u fresh feed f
    exact u.goOn_elim (fun _ => rfl) (fun _ _ => rfl) (fun _ _ _ _ _ => rfl)
      (fun _ _ _ _ _ => rfl)
  unfold turn
  refine StreamTask.turn_elim ?_ ?_ ?_ ?_ ?_
  · exact fun _ => rfl
  · exact fun _ _ => rfl
  · exact fun _ _ _ => rfl
  · intro h _ _ _
    exact hgoOn { t with phase := .reading (m.reach t) } _ _ f.hold
  · exact fun held _ _ => hgoOn t _ _ f

/-- A feed that a task opens, or holds, is not on offer after the task's turn. -/
theorem reader_turn_ne_offered {p : Nat} (hreach : m.reach t = some p) {f : Feed t.resource}
    (hf : t.starts = true ∨ f.reader = .held) : ((m.turn t).feed f).reader ≠ .offered := by
  have hgoOn : ∀ (u : StreamTask) (fresh : Bool) (feed : Option (Feed u.resource))
      (f : Feed u.resource), f.reader = .held →
        ((u.goOn fresh feed).feed f).reader ≠ .offered := by
    intro u fresh feed f hheld
    have hkept : f.reader ≠ .offered := by
      rw [hheld]
      decide
    refine u.goOn_elim ?_ ?_ ?_ ?_
    · exact fun _ => nofun
    · exact fun _ _ => hkept
    · exact fun _ _ _ _ _ => hkept
    · exact fun _ _ _ _ _ => nofun
  unfold turn
  refine StreamTask.turn_elim ?_ ?_ ?_ ?_ ?_
  · intro hended
    rcases hf with hstarts | hheld
    · rw [StreamTask.hasEnded_of_spawned (StreamTask.starts_eq_true_iff.mp hstarts).1] at hended
      cases hended
    · show f.reader ≠ .offered
      rw [hheld]
      decide
  · exact fun _ _ => nofun
  · intro hspawned haborted htarget
    rw [m.reach_of_starts (StreamTask.starts_eq_true_iff.mpr ⟨hspawned, haborted⟩), htarget]
      at hreach
    cases hreach
  · intro h _ _ _
    exact hgoOn { t with phase := .reading (m.reach t) } _ _ f.hold rfl
  · intro held hheld _
    rcases hf with hstarts | hheld'
    · rw [StreamTask.starts_of_reading hheld] at hstarts
      cases hstarts
    · exact hgoOn t _ _ f hheld'

/-- A run of a task ends no feed and puts none on offer. -/
theorem feed?_runStream (hm : m.Wired) (i : Nat) (id : FeedId) :
    ∃ g : Feed id.resource → Feed id.resource, (m.runStream i).feed? id = (m.feed? id).map g ∧
      ∀ f, m.feed? id = some f → (g f).closed = f.closed ∧ ((g f).reader = .offered → g f = f) := by
  have hnothing : m.feed? id = (m.feed? id).map fun f => f := by simp
  refine m.runStream_elim i ?_ ?_
  · exact fun _ => ⟨fun f => f, hnothing, fun f _ => ⟨rfl, fun _ => rfl⟩⟩
  · intro t ht
    obtain ⟨r, p⟩ := id
    by_cases hwithin : r = t.resource ∧ m.reach t = some p
    · obtain ⟨rfl, hreach⟩ := hwithin
      refine ⟨(m.turn t).feed, getElem?_feeds_progressOf_self _ hreach, ?_⟩
      intro f hf
      have hf : (m.feeds.get t.resource)[p]? = some f := hf
      refine ⟨m.closed_turn t f, fun hoffered => absurd hoffered ?_⟩
      apply reader_turn_ne_offered hreach
      rcases hm.reach_cases ht hreach with ⟨hstarts, -⟩ | ⟨-, -, hheld⟩
      · exact .inl hstarts
      · rw [reader?, hf] at hheld
        exact .inr (Option.some.inj hheld)
    · refine ⟨fun f => f, ?_, fun f _ => ⟨rfl, fun _ => rfl⟩⟩
      rw [← hnothing]
      exact getElem?_feeds_progressOf_of_ne (m.turn t) fun hr hreach => hwithin ⟨hr, hreach⟩

/-! ### Feeds after an offer -/

/-- The place of a new feed was free. -/
theorem feed?_offer_new (m : Monitor) (r : Resource) (host : String) :
    m.feed? (m.offer r host).2 = none ∧
      (m.offer r host).1.feed? (m.offer r host).2 = some { host } := by
  constructor
  · exact List.getElem?_eq_none (Nat.le_refl _)
  · show ((m.feeds.modify r (·.offer host)).get r)[(m.feeds.get r).length]? = _
    rw [EachResource.get_modify_self, Feeds.offer, List.getElem?_append_right (by simp),
      List.length_map, Nat.sub_self]
    rfl

/-- A feed that was there is as it was, or it was on offer for the same host and is released. -/
theorem feed?_offer_old (r : Resource) (host : String) {f : Feed id.resource}
    (hf : m.feed? id = some f) : ∃ f', (m.offer r host).1.feed? id = some f' ∧
      (f' = f ∨ (f.reader = .offered ∧ f' = f.release)) := by
  obtain ⟨s, p⟩ := id
  have hf : (m.feeds.get s)[p]? = some f := hf
  by_cases hs : s = r
  · subst hs
    obtain ⟨hlt, -⟩ := List.getElem?_eq_some_iff.mp hf
    have hafter : (m.offer s host).1.feed? ⟨s, p⟩ =
        some (if f.isOffered host then f.release else f) := by
      show ((m.feeds.modify s (·.offer host)).get s)[p]? = _
      rw [EachResource.get_modify_self, Feeds.offer,
        List.getElem?_append_left (by simpa using hlt), List.getElem?_map, hf]
      rfl
    refine ⟨_, hafter, ?_⟩
    split
    · next hoffered =>
        simp only [Feed.isOffered, Bool.and_eq_true, beq_iff_eq] at hoffered
        exact .inr ⟨hoffered.1, rfl⟩
    · exact .inl rfl
  · refine ⟨f, ?_, .inl rfl⟩
    show ((m.feeds.modify r (·.offer host)).get s)[p]? = _
    rw [EachResource.get_modify_of_ne _ _ hs, hf]

/-- A feed that was not there before the offer is the one on offer. -/
theorem eq_new_of_offer {r : Resource} {host : String} (hnone : m.feed? id = none)
    {f : Feed id.resource} (hf : (m.offer r host).1.feed? id = some f) : f = { host } := by
  obtain ⟨s, p⟩ := id
  have hnone : (m.feeds.get s)[p]? = none := hnone
  have hf : ((m.feeds.modify r (·.offer host)).get s)[p]? = some f := hf
  by_cases hs : s = r
  · subst hs
    have hle := List.getElem?_eq_none_iff.mp hnone
    rw [EachResource.get_modify_self, Feeds.offer, List.getElem?_append_right (by simpa using hle),
      List.getElem?_singleton] at hf
    split at hf
    · exact (Option.some.inj hf).symm
    · cases hf
  · rw [EachResource.get_modify_of_ne _ _ hs, hnone] at hf
    cases hf

/-- Nothing is in it. -/
theorem contents_offer_of_none {r : Resource} {host : String} (hnone : m.feed? id = none)
    {f : Feed id.resource} (hf : (m.offer r host).1.feed? id = some f) : f.contents = [] := by
  rw [eq_new_of_offer hnone hf]
  rfl

theorem feed?_modifyFeed_self (m : Monitor) (id : FeedId)
    (g : Feed id.resource → Feed id.resource) :
    (m.modifyFeed id.resource id.place g).feed? id = (m.feed? id).map g := by
  simp [feed?, modifyFeed]

theorem feed?_modifyFeed_of_ne (m : Monitor) {id other : FeedId} (h : other ≠ id)
    (g : Feed other.resource → Feed other.resource) :
    (m.modifyFeed other.resource other.place g).feed? id = m.feed? id := by
  obtain ⟨r, p⟩ := id
  obtain ⟨s, q⟩ := other
  by_cases hr : r = s
  · subst hr
    have hqp : q ≠ p := fun hqp => h (hqp ▸ rfl)
    simp [feed?, modifyFeed, hqp]
  · simp [feed?, modifyFeed, EachResource.get_modify_of_ne _ _ hr]

/-! ### The ledger -/

/-- The task opens the feed when it is run: it has not started, and the feed is the one on offer for
its host. -/
def opens (m : Monitor) (id : FeedId) (t : StreamTask) : Bool :=
  t.starts && t.resource == id.resource && m.reach t == some id.place

/-- The stream task that opens the feed in a run, if one does. -/
def openers (m : Monitor) (id : FeedId) : Job → List Nat
  | .stream i => if (m.tasks[i]?).any (m.opens id) then [i] else []
  | .observer _ => []

/-- The stream tasks that open the feed while jobs are run one after the other. -/
def openersAll (m : Monitor) (id : FeedId) : List Job → List Nat
  | [] => []
  | j :: js => m.openers id j ++ (m.run j).openersAll id js

/-- What was put into feed `id` is `given`, and the tasks at the places `openers` have opened it. -/
structure Ledger (m : Monitor) (names : Roster FeedId) (id : FeedId)
    (given : List (StreamEvent id.resource)) (openers : List Nat) : Prop where
  once : ∀ a b, names.get? a = some id → names.get? b = some id → a = b
  /-- A feed that has a name has not ended. -/
  live : ∀ a, names.get? a = some id → ∃ f, m.feed? id = some f ∧ f.closed = false
  unborn : m.feed? id = none → given = []
  /-- A feed on offer holds everything that was put into it. -/
  offered : ∀ f, m.feed? id = some f → f.reader = .offered → f.contents = given
  followed : ∀ i ∈ openers, ∃ t, m.tasks[i]? = some t ∧
    (t.aborted = false → m.Follows t id given)

namespace Ledger

variable {names names' : Roster FeedId} {given : List (StreamEvent id.resource)}
  {openers : List Nat}

theorem initial (rate : Option UInt32) (id : FeedId) :
    (Monitor.initial rate).Ledger {} id [] [] where
  once _ _ h := nomatch h
  live _ h := nomatch h
  unborn _ := rfl
  offered f hf := by
    obtain ⟨r, p⟩ := id
    cases r <;> cases hf
  followed _ hi := nomatch hi

/-- It depends on the tasks, the slots and the feed, and names may be given up. -/
theorem congr (h : m.Ledger names id given openers) (htasks : m'.tasks = m.tasks)
    (hstore : m'.store = m.store) (hgeneration : m'.generation = m.generation)
    (hfeed : m'.feed? id = m.feed? id)
    (hnames : ∀ a, names'.get? a = some id → names.get? a = some id) :
    m'.Ledger names' id given openers where
  once a b ha hb := h.once a b (hnames a ha) (hnames b hb)
  live a ha := by
    rw [hfeed]
    exact h.live a (hnames a ha)
  unborn := by
    rw [hfeed]
    exact h.unborn
  offered := by
    rw [hfeed]
    exact h.offered
  followed i hi := by
    obtain ⟨t, ht, hfollows⟩ := h.followed i hi
    refine ⟨t, htasks ▸ ht, fun haborted => (hfollows haborted).congr ?_ hgeneration fun _ => hfeed⟩
    rw [snapshot, snapshot, hstore]

/-- A feed is offered, which does not have a name yet. -/
theorem offer (h : m.Ledger names id given openers) (hm : m.Wired) (r : Resource)
    (host : String) : (m.offer r host).1.Ledger names id given openers := by
  constructor
  · exact h.once
  · intro a ha
    obtain ⟨f, hf, hclosed⟩ := h.live a ha
    obtain ⟨f', hf', rfl | ⟨-, rfl⟩⟩ := feed?_offer_old r host hf
    · exact ⟨f', hf', hclosed⟩
    · exact ⟨f.release, hf', hclosed⟩
  · intro hnone
    apply h.unborn
    by_contra hsome
    obtain ⟨f, hf⟩ := Option.ne_none_iff_exists'.mp hsome
    obtain ⟨f', hf', -⟩ := feed?_offer_old r host hf
    rw [hnone] at hf'
    cases hf'
  · intro f' hf' hoffered
    cases hf : m.feed? id with
    | none => rw [h.unborn hf, contents_offer_of_none hf hf']
    | some f =>
        obtain ⟨f'', hf'', hcases⟩ := feed?_offer_old r host hf
        obtain rfl := Option.some.inj (hf'.symm.trans hf'')
        rcases hcases with rfl | ⟨-, rfl⟩
        · exact h.offered f' hf hoffered
        · cases hoffered
  · intro i hi
    obtain ⟨t, ht, hfollows⟩ := h.followed i hi
    refine ⟨t, ht, fun haborted => (hfollows haborted).congr rfl rfl fun hfeed => ?_⟩
    -- A feed that is held is not on offer, so it stays.
    have hreader : m.reader? id.resource id.place = some .held :=
      (hfollows haborted).resource ▸ hm.held i t id.place ht hfeed
    obtain ⟨f, hf, hheld⟩ := Option.map_eq_some_iff.mp hreader
    have hf : m.feed? id = some f := hf
    obtain ⟨f', hf', rfl | ⟨hoffered, -⟩⟩ := feed?_offer_old r host hf
    · rw [hf', hf]
    · rw [hheld] at hoffered
      cases hoffered

/-- The new feed gets its name. -/
theorem name (h : m.Ledger names id given openers) (name : String) (new : FeedId)
    (hnew : new = id →
      (∀ a, names.get? a ≠ some id) ∧ ∃ f, m.feed? id = some f ∧ f.closed = false) :
    m.Ledger (names.put name new) id given openers := by
  have hcases : ∀ a, (names.put name new).get? a = some id →
      a = name ∧ new = id ∨ names.get? a = some id := by
    intro a ha
    rw [Roster.get?_put] at ha
    split at ha
    · next hname => exact .inl ⟨hname, Option.some.inj ha⟩
    · exact .inr ha
  refine ⟨?_, ?_, h.unborn, h.offered, h.followed⟩
  · intro a b ha hb
    rcases hcases a ha with ⟨rfl, heq⟩ | hold <;> rcases hcases b hb with ⟨rfl, heq'⟩ | hold'
    · rfl
    · exact absurd hold' ((hnew heq).1 b)
    · exact absurd hold ((hnew heq').1 a)
    · exact h.once a b hold hold'
  · intro a ha
    rcases hcases a ha with ⟨-, heq⟩ | hold
    · exact (hnew heq).2
    · exact h.live a hold

/-- Something is put into the feed by its name, which it keeps unless that is the end. -/
theorem enter (h : m.Ledger names id given openers) (hm : m.Wired) {name : String}
    (hname : names.get? name = some id) (e : StreamEvent id.resource)
    (hnames : ∀ a, names'.get? a = some id → names.get? a = some id ∧ e ≠ .finished) :
    (m.modifyFeed id.resource id.place (·.enter e)).Ledger names' id (given ++ [e]) openers := by
  obtain ⟨f, hf, hclosed⟩ := h.live name hname
  have hafter : (m.modifyFeed id.resource id.place (·.enter e)).feed? id = some (f.enter e) := by
    rw [feed?_modifyFeed_self, hf]
    rfl
  constructor
  · exact fun a b ha hb => h.once a b (hnames a ha).1 (hnames b hb).1
  · intro a ha
    refine ⟨f.enter e, hafter, ?_⟩
    cases e with
    | item i => exact (f.closed_send i).trans hclosed
    | finished => exact absurd rfl (hnames a ha).2
  · intro hnone
    rw [hafter] at hnone
    cases hnone
  · intro f' hf' hoffered
    obtain rfl := Option.some.inj (hafter.symm.trans hf')
    rw [Feed.reader_enter] at hoffered
    have hreader : f.reader ≠ .released := by
      rw [hoffered]
      decide
    rw [Feed.contents_enter hclosed hreader, h.offered f hf hoffered]
  · intro i hi
    obtain ⟨t, ht, hfollows⟩ := h.followed i hi
    refine ⟨t, ht, fun haborted => (hfollows haborted).enter hf hclosed (fun hfeed => ?_) e⟩
    have hheld := hm.held i t id.place ht hfeed
    rw [(hfollows haborted).resource] at hheld
    obtain ⟨f', hf', hreader⟩ := Option.map_eq_some_iff.mp hheld
    obtain rfl := Option.some.inj (hf.symm.trans hf')
    exact hreader

/-- The tasks are abandoned. -/
theorem abandon (h : m.Ledger names id given openers) (hfeed : m'.feed? id = m.feed? id)
    (htasks : ∀ (i : Nat) (t : StreamTask), m.tasks[i]? = some t → ∃ t', m'.tasks[i]? = some t' ∧
      t'.aborted = true) : m'.Ledger names id given openers := by
  refine ⟨h.once, ?_, ?_, ?_, ?_⟩
  · rw [hfeed]
    exact h.live
  · rw [hfeed]
    exact h.unborn
  · rw [hfeed]
    exact h.offered
  · intro i hi
    obtain ⟨t, ht, -⟩ := h.followed i hi
    obtain ⟨t', ht', haborted⟩ := htasks i t ht
    refine ⟨t', ht', fun hnot => ?_⟩
    rw [haborted] at hnot
    cases hnot

/-- A task that opens the feed follows it from then on: nobody has written to its slot before, and
all that was put into the feed is still there. -/
theorem follows_of_opens (h : m.Ledger names id given openers) (hm : m.Clientless)
    (ht : m.tasks[i]? = some t) (hopens : m.opens id t = true) :
    ∃ t', (m.runStream i).tasks[i]? = some t' ∧ (m.runStream i).Follows t' id given := by
  simp only [opens, Bool.and_eq_true, beq_iff_eq] at hopens
  obtain ⟨⟨hstarts, hresource⟩, hreach⟩ := hopens
  obtain ⟨hspawned, haborted⟩ := StreamTask.starts_eq_true_iff.mp hstarts
  have hoffered : m.reader? id.resource id.place = some .offered := by
    rcases hm.reachable.wired.reach_cases ht hreach with ⟨-, hoffered⟩ | ⟨hnot, -⟩
    · exact hresource ▸ hoffered
    · rw [hstarts] at hnot
      cases hnot
  obtain ⟨f, hf, hreader⟩ := Option.map_eq_some_iff.mp hoffered
  have hslot : m.snapshot id.resource = .after m.generation [] :=
    hresource ▸ hm.unstarted i t ht (hm.heeds ht haborted) hspawned
  exact follows_runStream hm ht haborted (StreamTask.hasEnded_of_spawned hspawned) hresource hreach
    (.inl hstarts) hf hslot (h.offered f hf hreader)

/-- A stream task is run; it may open the feed. -/
theorem runStream (h : m.Ledger names id given openers) (hm : m.Clientless) (i : Nat) :
    (m.runStream i).Ledger names id given (openers ++ m.openers id (.stream i)) := by
  have hwired := hm.reachable.wired
  obtain ⟨g, hfeed, hg⟩ := feed?_runStream hwired i id
  constructor
  · exact h.once
  · intro a ha
    obtain ⟨f, hf, hclosed⟩ := h.live a ha
    refine ⟨g f, ?_, (hg f hf).1.trans hclosed⟩
    rw [hfeed, hf]
    rfl
  · intro hnone
    rw [hfeed] at hnone
    exact h.unborn (Option.map_eq_none_iff.mp hnone)
  · intro f' hf' hoffered
    rw [hfeed] at hf'
    obtain ⟨f, hf, rfl⟩ := Option.map_eq_some_iff.mp hf'
    have hsame : g f = f := (hg f hf).2 hoffered
    rw [hsame] at hoffered ⊢
    exact h.offered f hf hoffered
  · intro k hk
    rcases List.mem_append.mp hk with hold | hnew
    · obtain ⟨t, ht, hfollows⟩ := h.followed k hold
      cases haborted : t.aborted with
      | false =>
          obtain ⟨t', ht', hfollows'⟩ := (hfollows haborted).runStream hm ht haborted i
          exact ⟨t', ht', fun _ => hfollows'⟩
      | true =>
          have hkept : (m.runStream i).tasks.map (·.aborted) = m.tasks.map (·.aborted) :=
            map_tasks_runStream (fun _ _ _ _ => rfl) m i
          obtain ⟨t', ht', hsame⟩ := StreamTask.exists_getElem?_of_map hkept.symm ht
          refine ⟨t', ht', fun hnot => ?_⟩
          rw [hsame, haborted] at hnot
          cases hnot
    · simp only [Monitor.openers] at hnew
      split at hnew
      · next hany =>
          obtain rfl := List.mem_singleton.mp hnew
          obtain ⟨t, ht, hopens⟩ := (Option.any_eq_true _ _).mp hany
          obtain ⟨t', ht', hfollows⟩ := h.follows_of_opens hm ht hopens
          exact ⟨t', ht', fun _ => hfollows⟩
      · cases hnew

/-- Monitors that agree have the same ledgers. -/
theorem of_agree (h : m.Ledger names id given openers) (hagree : m'.Agree m) :
    m'.Ledger names id given openers := by
  refine h.congr hagree.tasks hagree.store (congrArg Prod.fst hagree.epoch) ?_ fun _ h => h
  rw [feed?, feed?, hagree.feeds]

theorem run (h : m.Ledger names id given openers) (hm : m.Clientless) (j : Job) :
    (m.run j).Ledger names id given (openers ++ m.openers id j) := by
  cases j with
  | stream i => exact (h.runStream hm i).of_agree (Agree.run_stream m i)
  | observer k =>
      have hnobody : openers ++ m.openers id (.observer k) = openers := List.append_nil _
      rw [hnobody]
      exact h.of_agree (Agree.run_observer m k)

theorem runAll (h : m.Ledger names id given openers) (hm : m.Clientless) (js : List Job) :
    (m.runAll js).Ledger names id given (openers ++ m.openersAll id js) := by
  induction js generalizing m openers with
  | nil => simpa [openersAll] using h
  | cons j js ih =>
      have hrest := ih (h.run hm j) (hm.run j)
      rw [List.append_assoc] at hrest
      exact hrest

end Ledger

end Monitor

end BrokerMonitor
