import BrokerMonitor.Proofs.Delivery.Ledger
import BrokerMonitor.Proofs.Schedule.Rest
/-!
# Attending a feed

A task attends a feed from the time when it is on its way to open it (`Attends`). Whatever is put
into the feed is then for the task: it waits there until the task is run, and once everything has
settled the task has taken it. What happens at one time of a scenario is put into the feeds, and
then everything settles, so that the slot holds what has happened so far.
-/

namespace BrokerMonitor

namespace StreamEvent

variable {r : Resource}

/-- The events up to the end, which is one of them. -/
def untilEnd : List (StreamEvent r) → List (StreamEvent r)
  | [] => []
  | .item i :: rest => .item i :: untilEnd rest
  | .finished :: _ => [.finished]

theorem exists_untilEnd_append (es : List (StreamEvent r)) :
    ∃ rest, untilEnd es ++ rest = es ∧ (rest = [] ∨ .finished ∈ untilEnd es) := by
  induction es with
  | nil => exact ⟨[], rfl, .inl rfl⟩
  | cons e es ih =>
      cases e with
      | finished => exact ⟨es, rfl, .inr List.mem_cons_self⟩
      | item i =>
          obtain ⟨rest, hrest, hcases⟩ := ih
          refine ⟨rest, ?_, hcases.imp_right (List.mem_cons_of_mem _)⟩
          rw [untilEnd, List.cons_append, hrest]

end StreamEvent

/-- Whatever is put into a feed, it stays on offer. -/
theorem Feed.isOffered_enter {r : Resource} (f : Feed r) (e : StreamEvent r) (host : String) :
    (f.enter e).isOffered host = f.isOffered host := by
  cases e with
  | finished => rfl
  | item i =>
      have hhost : (f.send i).host = f.host := by
        unfold Feed.send
        split <;> rfl
      show ((f.send i).reader == .offered && (f.send i).host == host) = _
      rw [f.reader_send, hhost]
      rfl

namespace Monitor

variable {m m' : Monitor} {i : Nat} {t : StreamTask} {id : FeedId}
  {given : List (StreamEvent id.resource)}

/-! ### Without clients -/

namespace Clientless

theorem runAll (h : m.Clientless) (js : List Job) : (m.runAll js).Clientless := by
  induction js generalizing m with
  | nil => exact h
  | cons j js ih => exact ih (h.run j)

theorem settle (h : m.Clientless) : m.settle.Clientless := by
  rw [Monitor.settle, settleWithin_eq_runAll]
  exact h.runAll _

/-- Steps that leave the tasks alone. -/
theorem of_tasks (h : m.Clientless) (hleads : m.Leads m') (htasks : m'.tasks = m.tasks) :
    m'.Clientless where
  reachable := by
    obtain ⟨rate, hm⟩ := h.reachable
    exact ⟨rate, hm.trans hleads⟩
  solo := by
    rw [Solo, htasks]
    exact h.solo
  spared := by
    rw [Spared, htasks]
    exact h.spared

end Clientless

/-! ### From the offer on -/

theorem opens_eq_true_iff : m.opens id t = true ↔
    t.starts = true ∧ t.resource = id.resource ∧ m.reach t = some id.place := by
  simp [opens, and_assoc]

theorem reach_congr {r : Resource} (hresource : t.resource = r)
    (hfeeds : m'.feeds.get r = m.feeds.get r) : m'.reach t = m.reach t := by
  subst hresource
  exact congrArg t.reach hfeeds

/-- Whatever is put into a feed, a task that starts reaches for the feed that it reached for. -/
theorem reach_modifyFeed {r : Resource} {p : Nat} {g : Feed r → Feed r}
    (hresource : t.resource = r) (hg : ∀ f host, (g f).isOffered host = f.isOffered host) :
    (m.modifyFeed r p g).reach t = m.reach t := by
  subst hresource
  have hfeeds : ((m.modifyFeed t.resource p g).feeds.get t.resource) =
      (m.feeds.get t.resource).alter (some p) g := EachResource.get_modify_self ..
  rw [reach, hfeeds]
  unfold StreamTask.reach
  congr 2
  funext handle
  exact Feeds.offered?_alter _ _ fun _ f _ _ => hg f _

/-- After the end of the task more events make no difference. -/
theorem Follows.more (h : m.Follows t id given) (hended : t.hasEnded = true)
    (more : List (StreamEvent id.resource)) : m.Follows t id (given ++ more) := by
  obtain ⟨hresource, hopened, taken, hslot, hposition⟩ := h
  refine ⟨hresource, hopened, taken, hslot, .inr ?_⟩
  rcases hposition with ⟨hphase, -⟩ | ⟨-, hmessages, e, he, hstop⟩
  · rw [StreamTask.hasEnded_of_reading hphase] at hended
    cases hended
  · refine ⟨hended, ?_, e, List.mem_append_left _ he, hstop⟩
    rw [StreamEvent.messages_append_of_stopped ⟨e, he, hstop⟩, hmessages]

/-- The task at a place was not aborted, and it follows the feed into which `given` was put, or
opens it when it is first run. -/
def Attends (m : Monitor) (i : Nat) (id : FeedId) (given : List (StreamEvent id.resource)) : Prop :=
  ∃ t, m.tasks[i]? = some t ∧ t.aborted = false ∧
    ((m.opens id t = true ∧ ∃ f, m.feed? id = some f ∧ f.contents = given) ∨ m.Follows t id given)

namespace Attends

/-- It depends on the tasks, the slots, the generation and the feeds of the resource. -/
theorem congr (h : m.Attends i id given) (htasks : m'.tasks = m.tasks)
    (hstore : m'.store = m.store) (hgeneration : m'.generation = m.generation)
    (hfeeds : m'.feeds.get id.resource = m.feeds.get id.resource) : m'.Attends i id given := by
  obtain ⟨t, ht, haborted, hcases⟩ := h
  have hfeed : m'.feed? id = m.feed? id := congrArg (·[id.place]?) hfeeds
  refine ⟨t, htasks ▸ ht, haborted, hcases.imp ?_ ?_⟩
  · rintro ⟨hopens, hf⟩
    obtain ⟨hstarts, hresource, hreach⟩ := opens_eq_true_iff.mp hopens
    refine ⟨opens_eq_true_iff.mpr ⟨hstarts, hresource, ?_⟩, hfeed ▸ hf⟩
    exact (reach_congr hresource hfeeds).trans hreach
  · intro hfollows
    refine hfollows.congr ?_ hgeneration fun _ => hfeed
    rw [snapshot, snapshot, hstore]

/-- Whoever is run, the task attends the feed. -/
theorem runStream (h : m.Attends i id given) (hm : m.Clientless) (j : Nat) :
    (m.runStream j).Attends i id given := by
  obtain ⟨t, ht, haborted, hcases⟩ := h
  have hkept : ∀ {t'}, (m.runStream j).tasks[i]? = some t' → t'.aborted = false := by
    intro t' ht'
    have hmarks : (m.runStream j).tasks.map (·.aborted) = m.tasks.map (·.aborted) :=
      map_tasks_runStream (fun _ _ _ _ => rfl) m j
    obtain ⟨t₀, ht₀, hsame⟩ := StreamTask.exists_getElem?_of_map hmarks ht'
    obtain rfl := Option.some.inj (ht.symm.trans ht₀)
    exact hsame.symm.trans haborted
  rcases hcases with ⟨hopens, f, hf, hgiven⟩ | hfollows
  · obtain ⟨hstarts, hresource, hreach⟩ := opens_eq_true_iff.mp hopens
    by_cases hji : j = i
    · -- The task itself is run: it opens the feed.
      subst hji
      obtain ⟨hspawned, -⟩ := StreamTask.starts_eq_true_iff.mp hstarts
      have hslot : m.snapshot id.resource = .after m.generation [] :=
        hresource ▸ hm.unstarted j t ht (hm.heeds ht haborted) hspawned
      obtain ⟨t', ht', hfollows⟩ := follows_runStream hm ht haborted
        (StreamTask.hasEnded_of_spawned hspawned) hresource hreach (.inl hstarts) hf hslot hgiven
      exact ⟨t', ht', hkept ht', .inr hfollows⟩
    · have htask : (m.runStream j).tasks[i]? = some t :=
        (m.getElem?_tasks_runStream_of_ne hji).trans ht
      refine ⟨t, htask, haborted, .inl ?_⟩
      cases hu : m.tasks[j]? with
      | none =>
          rw [runStream_of_missing hu]
          exact ⟨hopens, f, hf, hgiven⟩
      | some u =>
          have hsame := (turn_runStream hm.reachable hm.solo hji hu ht).2
          have hfeed : (m.runStream j).feed? id = m.feed? id := by
            rw [runStream_eq_turn hu]
            refine getElem?_feeds_progressOf_of_ne (m.turn u) fun hr hp => ?_
            exact reach_apart hm.reachable hm.solo hji hu ht (hr.symm.trans hresource.symm) _ hp
              hreach
          refine ⟨opens_eq_true_iff.mpr ⟨hstarts, hresource, hsame.trans hreach⟩, f,
            hfeed.trans hf, hgiven⟩
  · obtain ⟨t', ht', hfollows'⟩ := hfollows.runStream hm ht haborted j
    exact ⟨t', ht', hkept ht', .inr hfollows'⟩

theorem of_agree (h : m.Attends i id given) (hagree : m'.Agree m) : m'.Attends i id given :=
  h.congr hagree.tasks hagree.store (congrArg Prod.fst hagree.epoch)
    (congrArg (·.get id.resource) hagree.feeds)

theorem run (h : m.Attends i id given) (hm : m.Clientless) (j : Job) :
    (m.run j).Attends i id given := by
  cases j with
  | stream k => exact (h.runStream hm k).of_agree (Agree.run_stream m k)
  | observer k => exact h.of_agree (Agree.run_observer m k)

theorem runAll (h : m.Attends i id given) (hm : m.Clientless) (js : List Job) :
    (m.runAll js).Attends i id given := by
  induction js generalizing m with
  | nil => exact h
  | cons j js ih => exact ih (h.run hm j) (hm.run j)

/-- Once everything has settled the task has opened the feed. -/
theorem settle (h : m.Attends i id given) (hm : m.Clientless) :
    ∃ t, m.settle.tasks[i]? = some t ∧ t.aborted = false ∧ m.settle.Follows t id given := by
  have hsettled : m.settle.Attends i id given := by
    rw [Monitor.settle, settleWithin_eq_runAll]
    exact h.runAll hm _
  obtain ⟨t, ht, haborted, ⟨hopens, -⟩ | hfollows⟩ := hsettled
  · obtain ⟨hspawned, -⟩ := StreamTask.starts_eq_true_iff.mp (opens_eq_true_iff.mp hopens).1
    have hidle := hm.reachable.atRest_settle.idle (.stream i)
    simp [isReady, streamReady, ht, StreamTask.hasEnded_of_spawned hspawned, hspawned] at hidle
  · exact ⟨t, ht, haborted, hfollows⟩

/-- Something is put into the feed. -/
theorem enter (h : m.Attends i id given) (hm : m.Wired) {f : Feed id.resource}
    (hf : m.feed? id = some f) (hclosed : f.closed = false) (e : StreamEvent id.resource) :
    (m.modifyFeed id.resource id.place (·.enter e)).Attends i id (given ++ [e]) := by
  obtain ⟨t, ht, haborted, hcases⟩ := h
  have hreader : ∀ {reader}, m.reader? id.resource id.place = some reader → f.reader = reader := by
    intro reader hreader
    have hf : (m.feeds.get id.resource)[id.place]? = some f := hf
    rw [reader?, hf] at hreader
    exact Option.some.inj hreader
  refine ⟨t, ht, haborted, hcases.imp ?_ ?_⟩
  · rintro ⟨hopens, f', hf', hgiven⟩
    obtain rfl := Option.some.inj (hf.symm.trans hf')
    obtain ⟨hstarts, hresource, hreach⟩ := opens_eq_true_iff.mp hopens
    have hoffered : f.reader = .offered := by
      rcases hm.reach_cases ht hreach with ⟨-, hoffered⟩ | ⟨hnot, -⟩
      · exact hreader (hresource ▸ hoffered)
      · rw [hstarts] at hnot
        cases hnot
    refine ⟨?_, f.enter e, ?_, ?_⟩
    · refine opens_eq_true_iff.mpr ⟨hstarts, hresource, Eq.trans ?_ hreach⟩
      exact reach_modifyFeed hresource fun f host => f.isOffered_enter e host
    · rw [feed?_modifyFeed_self, hf]
      rfl
    · rw [Feed.contents_enter hclosed (by rw [hoffered]; decide), hgiven]
  · intro hfollows
    refine hfollows.enter hf hclosed (fun hfeed => ?_) e
    exact hreader (hfollows.resource ▸ hm.held i t id.place ht hfeed)

end Attends

/-- What is put into the feed counts: the feed has not ended, or else the task has. -/
def Receptive (m : Monitor) (i : Nat) (id : FeedId) : Prop :=
  (∃ f, m.feed? id = some f ∧ f.closed = false) ∨ ∃ t, m.tasks[i]? = some t ∧ t.hasEnded = true

namespace Follows

/-- When nobody is ready, a task that follows the feed has come to the end of what counts. -/
theorem receptive (h : m.Follows t id given) (ht : m.tasks[i]? = some t)
    (hready : m.isReady (.stream i) = false) : m.Receptive i id := by
  obtain ⟨hresource, -, taken, -, hposition⟩ := h
  rcases hposition with ⟨hphase, f, hf, -⟩ | ⟨hended, -⟩
  · have hnews := news_eq_false_of_not_ready ht hready (feed?_eq_some_iff.mpr hphase)
    have hf' : (m.feeds.get id.resource)[id.place]? = some f := hf
    rw [hresource, news, hf', Option.any_some, Feed.hasNews, Bool.or_eq_false_iff] at hnews
    exact .inl ⟨f, hf, hnews.2⟩
  · exact .inr ⟨t, ht, hended⟩

/-- What is said to come after the end makes no difference. -/
theorem past_end (h : m.Follows t id given) (ht : m.tasks[i]? = some t)
    (hready : m.isReady (.stream i) = false) {rest : List (StreamEvent id.resource)}
    (hrest : rest = [] ∨ .finished ∈ given) : m.Follows t id (given ++ rest) := by
  rcases hrest with rfl | hend
  · rwa [List.append_nil]
  · cases hended : t.hasEnded with
    | true => exact h.more hended rest
    | false =>
        -- A task that waits has taken everything, and these were messages.
        obtain ⟨hresource, -, taken, -, ⟨hphase, f, hf, hgiven⟩ | ⟨hended', -⟩⟩ := h
        · have hnews := news_eq_false_of_not_ready ht hready (feed?_eq_some_iff.mpr hphase)
          have hf' : (m.feeds.get id.resource)[id.place]? = some f := hf
          rw [hresource, news, hf', Option.any_some] at hnews
          rw [← hgiven, Feed.contents_of_hasNews_eq_false hnews, List.append_nil] at hend
          obtain ⟨message, -, hmessage⟩ := List.mem_map.mp hend
          cases hmessage
        · rw [hended] at hended'
          cases hended'

end Follows

end Monitor

/-! ### What happens at one time -/

namespace Scenario

open Monitor

variable {m : Monitor} {r : Resource} {place : Nat}

/-- Nothing but feeds of the resource, and who is ready, is changed. -/
theorem exists_deliver_eq (r : Resource) (place : Nat) (m : Monitor) (es : List (StreamEvent r)) :
    ∃ (change : Feeds r → Feeds r) (queue : List Job),
      deliver r place m es = { m with feeds := m.feeds.modify r change, queue } := by
  induction es generalizing m with
  | nil => exact ⟨id, m.queue, by rw [EachResource.modify_eq_self _ _ rfl]; rfl⟩
  | cons e es ih =>
      cases e with
      | finished => exact ⟨_, _, rfl⟩
      | item i =>
          obtain ⟨change, queue, hlater⟩ := ih (m.send ⟨r, place⟩ i).1
          refine ⟨change ∘ (·.modify place (·.send i)), queue, hlater.trans ?_⟩
          simp only [Monitor.send, Monitor.enqueueReady, Monitor.modifyFeed,
            EachResource.modify_modify]

theorem leads_deliver (r : Resource) (place : Nat) (m : Monitor) (es : List (StreamEvent r)) :
    m.Leads (deliver r place m es) := by
  induction es generalizing m with
  | nil => exact .refl
  | cons e es ih =>
      cases e with
      | finished => exact .single (.close m ⟨r, place⟩)
      | item i => exact .head (.send m ⟨r, place⟩ i) (ih _)

theorem clientless_deliver (h : m.Clientless) (es : List (StreamEvent r)) :
    (deliver r place m es).Clientless := by
  obtain ⟨change, queue, hdeliver⟩ := exists_deliver_eq r place m es
  refine h.of_tasks (leads_deliver r place m es) ?_
  rw [hdeliver]

/-- A task attends its feed whatever happens on the streams of another resource. -/
theorem attends_deliver_of_ne {i : Nat} {id : FeedId} {given : List (StreamEvent id.resource)}
    (h : m.Attends i id given) (hr : id.resource ≠ r) (es : List (StreamEvent r)) :
    (deliver r place m es).Attends i id given := by
  obtain ⟨change, queue, hdeliver⟩ := exists_deliver_eq r place m es
  rw [hdeliver]
  exact h.congr rfl rfl rfl (EachResource.get_modify_of_ne _ _ hr)

theorem receptive_deliver_of_ne {i : Nat} {id : FeedId} (h : m.Receptive i id)
    (hr : id.resource ≠ r) (es : List (StreamEvent r)) :
    (deliver r place m es).Receptive i id := by
  obtain ⟨change, queue, hdeliver⟩ := exists_deliver_eq r place m es
  have hfeeds : (m.feeds.modify r change).get id.resource = m.feeds.get id.resource :=
    EachResource.get_modify_of_ne _ _ hr
  rw [hdeliver]
  simpa only [Receptive, Monitor.feed?, hfeeds] using h

/-- It is given what happens on its own stream, up to the end. -/
theorem attends_deliver {i : Nat} {given : List (StreamEvent r)}
    (h : m.Attends i ⟨r, place⟩ given) (hm : m.Wired)
    (hopen : ∃ f, m.feed? ⟨r, place⟩ = some f ∧ f.closed = false) (es : List (StreamEvent r)) :
    (deliver r place m es).Attends i ⟨r, place⟩ (given ++ StreamEvent.untilEnd es) := by
  induction es generalizing m given with
  | nil => rwa [StreamEvent.untilEnd, List.append_nil]
  | cons e es ih =>
      obtain ⟨f, hf, hclosed⟩ := hopen
      have henter := h.enter hm hf hclosed e
      cases e with
      | finished => exact henter.congr rfl rfl rfl rfl
      | item x =>
          have hsent : (m.send ⟨r, place⟩ x).1.Attends i ⟨r, place⟩ (given ++ [.item x]) :=
            henter.congr rfl rfl rfl rfl
          have hfeed : (m.send ⟨r, place⟩ x).1.feed? ⟨r, place⟩ = some (f.send x) := by
            refine (m.feed?_modifyFeed_self ⟨r, place⟩ (·.send x)).trans ?_
            rw [hf]
            rfl
          have hlater := ih hsent (hm.step (.send m ⟨r, place⟩ x))
            ⟨f.send x, hfeed, (f.closed_send x).trans hclosed⟩
          rwa [List.append_assoc] at hlater

/-- A task that has ended misses nothing. -/
theorem attends_deliver_of_hasEnded {i : Nat} {id : FeedId} {given : List (StreamEvent id.resource)}
    (h : m.Attends i id given) (hended : ∃ t, m.tasks[i]? = some t ∧ t.hasEnded = true)
    (es : List (StreamEvent r)) (more : List (StreamEvent id.resource)) :
    (deliver r place m es).Attends i id (given ++ more) := by
  obtain ⟨t, ht, hended⟩ := hended
  obtain ⟨t', ht', haborted, hcases⟩ := h
  obtain rfl := Option.some.inj (ht.symm.trans ht')
  obtain ⟨change, queue, hdeliver⟩ := exists_deliver_eq r place m es
  rw [hdeliver]
  rcases hcases with ⟨hopens, -⟩ | hfollows
  · obtain ⟨hspawned, -⟩ := StreamTask.starts_eq_true_iff.mp (opens_eq_true_iff.mp hopens).1
    rw [StreamTask.hasEnded_of_spawned hspawned] at hended
    cases hended
  · refine ⟨t, ht, haborted, .inr ((hfollows.more hended more).congr rfl rfl fun hfeed => ?_)⟩
    rw [StreamTask.hasEnded_of_reading (feed?_eq_some_iff.mp hfeed)] at hended
    cases hended

/-- Either way what has happened is heard, apart from what is said to come after the end. -/
theorem exists_attends_deliver {i : Nat} {given : List (StreamEvent r)}
    (h : m.Attends i ⟨r, place⟩ given) (hm : m.Wired) (hreceptive : m.Receptive i ⟨r, place⟩)
    (es : List (StreamEvent r)) :
    ∃ heard rest, (deliver r place m es).Attends i ⟨r, place⟩ heard ∧
      heard ++ rest = given ++ es ∧ (rest = [] ∨ .finished ∈ heard) := by
  rcases hreceptive with hopen | hended
  · obtain ⟨rest, hrest, hcases⟩ := StreamEvent.exists_untilEnd_append es
    refine ⟨_, rest, attends_deliver h hm hopen es, ?_, ?_⟩
    · rw [List.append_assoc, hrest]
    · exact hcases.imp_right (List.mem_append_right _)
  · exact ⟨_, [], attends_deliver_of_hasEnded h hended es es, List.append_nil _, .inl rfl⟩

/-- What happens on a resource's stream at a time. -/
def now (events : EachResource StreamEvents) (time : Nat) (r : Resource) : List (StreamEvent r) :=
  ((events.get r).filter (·.time == time)).map (·.value)

theorem clientless_happen (h : m.Clientless) (events : EachResource StreamEvents)
    (places : EachResource fun _ => Nat) (time : Nat) : (happen events places time m).Clientless :=
  (clientless_deliver (clientless_deliver h _) _).settle

/-- Once everything that happens at a time has settled, the task follows its feed, into which all of
it was put. -/
theorem attends_happen {i : Nat} {id : FeedId} {given : List (StreamEvent id.resource)}
    (h : m.Attends i id given) (hm : m.Clientless) (hreceptive : m.Receptive i id)
    (events : EachResource StreamEvents) {places : EachResource fun _ => Nat}
    (hplace : places.get id.resource = id.place) (time : Nat) :
    let m' := happen events places time m
    ∃ t, m'.tasks[i]? = some t ∧ t.aborted = false ∧
      m'.Follows t id (given ++ now events time id.resource) ∧ m'.Receptive i id := by
  intro m'
  let first := deliver .channels places.channels m (now events time .channels)
  let both := deliver .adapters places.adapters first (now events time .adapters)
  have hfirst : first.Clientless := clientless_deliver hm _
  have hboth : both.Clientless := clientless_deliver hfirst _
  obtain ⟨heard, rest, hheard, hall, hend⟩ : ∃ heard rest, both.Attends i id heard ∧
      heard ++ rest = given ++ now events time id.resource ∧ (rest = [] ∨ .finished ∈ heard) := by
    obtain ⟨r, p⟩ := id
    cases r with
    | channels =>
        obtain rfl : places.channels = p := hplace
        obtain ⟨heard, rest, hheard, hall⟩ :=
          exists_attends_deliver h hm.reachable.wired hreceptive (now events time .channels)
        exact ⟨heard, rest, attends_deliver_of_ne (r := .adapters) hheard nofun _, hall⟩
    | adapters =>
        obtain rfl : places.adapters = p := hplace
        exact exists_attends_deliver (attends_deliver_of_ne (r := .channels) h nofun _)
          hfirst.reachable.wired (receptive_deliver_of_ne (r := .channels) hreceptive nofun _) _
  obtain ⟨t, ht, haborted, hfollows⟩ := hheard.settle hboth
  have hidle := hboth.reachable.atRest_settle.idle (.stream i)
  refine ⟨t, ht, haborted, ?_, hfollows.receptive ht hidle⟩
  rw [← hall]
  exact hfollows.past_end ht hidle hend

end Scenario

end BrokerMonitor
