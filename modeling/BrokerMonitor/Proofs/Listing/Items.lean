import BrokerMonitor.Proofs.Listing.Subscriptions
/-!
# The items of a stream of listings

A subscription that is turned into a stream keeps its place in the slot and nothing of what it has
captured. The first item is therefore the listing that the slot holds when the stream is asked for
it, and not the one that it held at the conversion (`stream_starts_where_it_is_asked`). From then on
every item is the latest of what was announced since the stream was asked before, and the last item
before the end is the last listing of all.
-/

namespace BrokerMonitor

open Publication (Event)

/-- The listing that an answer of a stream gives. -/
def Next.item? {α : Type} : Next α → Option (Snapshot α)
  | .snapshot s => some s
  | .pending | .ended => none

namespace Publication

variable {α : Type}

/-- The listings that some events announce: the slot's after each reset and each accepted
replacement. -/
def announced (p : Publication α) : List (Event α) → List (Snapshot α)
  | [] => []
  | e :: rest =>
    let after := (p.act e).1
    if p.isNews e then after.slot.value :: after.announced rest else after.announced rest

theorem length_announced (p : Publication α) (events : List (Event α)) :
    (p.announced events).length = p.changes events := by
  induction events generalizing p with
  | nil => rfl
  | cons e rest ih =>
      rw [announced, changes]
      cases p.isNews e with
      | true => simp [ih, Nat.add_comm]
      | false => simp [ih]

theorem announced_eq_nil_iff {p : Publication α} {events : List (Event α)} :
    p.announced events = [] ↔ p.changes events = 0 := by
  rw [← length_announced, List.length_eq_zero_iff]

/-- A slot holds what was announced last. -/
theorem value_actAll (p : Publication α) (events : List (Event α)) :
    (p.actAll events).slot.value = (p.announced events).getLast?.getD p.slot.value := by
  induction events generalizing p with
  | nil => rfl
  | cons e rest ih =>
      rw [actAll_cons, ih, announced]
      cases hnews : p.isNews e with
      | true => rw [if_pos rfl, List.getLast?_cons, Option.getD_some]
      | false => rw [if_neg Bool.false_ne_true, slot_act_of_not_news hnews]

end Publication

/-- A stream of listings, and the publication that it follows. -/
structure Tail (α : Type) where
  site : Publication α
  stream : ListingStream

namespace Tail

variable {α : Type}

/-- What happens around a stream. -/
inductive Move (α : Type) where
  | event (e : Event α)
  /-- The stream is asked for its next item. -/
  | ask

/-- Turns the subscription of a name into a stream. -/
def convert (p : Publication α) (name : String) (f : Subscription α) : Tail α :=
  ⟨p.put name none, f.intoStream⟩

/-- Makes a move, and gives the answer of the stream if it was asked. -/
def act (t : Tail α) : Move α → Tail α × Option (Next α)
  | .event e => ({ t with site := (t.site.act e).1 }, none)
  | .ask =>
    let (stream, next) := t.stream.next t.site.slot t.site.gone
    ({ t with stream }, some next)

def actAll (t : Tail α) (moves : List (Move α)) : Tail α :=
  moves.foldl (fun t m => (t.act m).1) t

/-- The answers of the stream in the course of some moves. -/
def replies (t : Tail α) : List (Move α) → List (Next α)
  | [] => []
  | m :: rest => (t.act m).2.toList ++ (t.act m).1.replies rest

/-- The listings among them. -/
def items (t : Tail α) (moves : List (Move α)) : List (Snapshot α) :=
  (t.replies moves).filterMap Next.item?

/-- The event that a move is. -/
def Move.event? : Move α → Option (Event α)
  | .event e => some e
  | .ask => none

@[simp] theorem actAll_cons (t : Tail α) (m : Move α) (rest : List (Move α)) :
    t.actAll (m :: rest) = (t.act m).1.actAll rest := rfl

theorem actAll_append (t : Tail α) (first later : List (Move α)) :
    t.actAll (first ++ later) = (t.actAll first).actAll later :=
  List.foldl_append

theorem replies_append (t : Tail α) (first later : List (Move α)) :
    t.replies (first ++ later) = t.replies first ++ (t.actAll first).replies later := by
  induction first generalizing t with
  | nil => rfl
  | cons m rest ih => simp only [List.cons_append, replies, ih, List.append_assoc, actAll_cons]

theorem items_cons (t : Tail α) (m : Move α) (rest : List (Move α)) :
    t.items (m :: rest) =
      ((t.act m).2.bind Next.item?).toList ++ (t.act m).1.items rest := by
  rw [items, replies, List.filterMap_append, items]
  congr 1
  cases (t.act m).2 with
  | none => rfl
  | some n => cases n <;> rfl

theorem items_append (t : Tail α) (first later : List (Move α)) :
    t.items (first ++ later) = t.items first ++ (t.actAll first).items later := by
  rw [items, replies_append, List.filterMap_append, items, items]

theorem actAll_events (t : Tail α) (events : List (Event α)) :
    t.actAll (events.map .event) = { t with site := t.site.actAll events } := by
  induction events generalizing t with
  | nil => rfl
  | cons e rest ih => exact ih { t with site := (t.site.act e).1 }

theorem replies_events (t : Tail α) (events : List (Event α)) :
    t.replies (events.map .event) = [] := by
  induction events generalizing t with
  | nil => rfl
  | cons e rest ih => exact ih { t with site := (t.site.act e).1 }

/-! ### One answer -/

/-- The stream has nothing to give: it has started, and has seen what the slot holds. -/
def isSpent (t : Tail α) : Bool := t.stream.started && t.site.slot.seenBy t.stream.receiver

/-- A stream that is asked gives what the slot holds, unless it is spent, and is spent then. -/
theorem act_ask (t : Tail α) :
    t.act .ask = if t.isSpent then (t, some (if t.site.gone then .ended else .pending))
      else ({ t with stream := ⟨t.site.slot.subscribe, true⟩ },
        some (.snapshot t.site.slot.value)) := by
  rw [act, ListingStream.next_eq, isSpent]
  cases t.stream.started && t.site.slot.seenBy t.stream.receiver <;> rfl

/-- An event that leaves the slot as it is leaves a stream spent or not, as it was. -/
theorem isSpent_act_event {t : Tail α} {e : Event α}
    (hslot : (t.site.act e).1.slot = t.site.slot) : (t.act (.event e)).1.isSpent = t.isSpent := by
  simp only [act, isSpent, hslot]

theorem site_act_ask (t : Tail α) : (t.act .ask).1.site = t.site := by
  rw [act_ask]
  split <;> rfl

theorem stream_act_ask (t : Tail α) :
    (t.act .ask).1.stream = ⟨t.site.slot.subscribe, true⟩ := by
  rw [act_ask]
  obtain ⟨site, ⟨⟨seen⟩, started⟩⟩ := t
  cases hspent : Tail.isSpent ⟨site, ⟨seen⟩, started⟩ with
  | true =>
      obtain ⟨rfl, rfl⟩ : started = true ∧ seen = site.slot.version := by
        simpa [isSpent, Cell.seenBy] using hspent
      rfl
  | false => rfl

/-- Only what happens to the publication changes it. -/
theorem site_actAll (t : Tail α) (moves : List (Move α)) :
    (t.actAll moves).site = t.site.actAll (moves.filterMap Move.event?) := by
  induction moves generalizing t with
  | nil => rfl
  | cons m rest ih =>
      rw [actAll_cons, ih]
      cases m with
      | event e => rfl
      | ask => rw [site_act_ask]; rfl

/-- A stream that has just been asked is spent until there is news. -/
theorem isSpent_asked (t : Tail α) (events : List (Event α)) :
    ((t.act .ask).1.actAll (events.map .event)).isSpent =
      decide (t.site.changes events = 0) := by
  rw [actAll_events, isSpent, stream_act_ask, site_act_ask]
  exact t.site.seenBy_actAll events

/-- The first item is what the slot holds when the stream is asked for it. -/
theorem first_reply (p : Publication α) (name : String) (f : Subscription α)
    (events : List (Event α)) :
    let t := convert p name f
    ((t.actAll (events.map .event)).act .ask).2 =
      some (.snapshot ((t.site.announced events).getLast?.getD p.slot.value)) := by
  intro t
  have hspent : (t.actAll (events.map .event)).isSpent = false := by
    rw [actAll_events]
    rfl
  have hvalue : (t.actAll (events.map .event)).site.slot.value =
      (t.site.announced events).getLast?.getD p.slot.value := by
    rw [actAll_events]
    exact t.site.value_actAll events
  rw [act_ask, hspent, if_neg Bool.false_ne_true, hvalue]

/-- Every later answer gives the latest of what was announced since the one before. -/
theorem later_reply (t : Tail α) (events : List (Event α)) :
    let asked := (t.act .ask).1
    ((asked.actAll (events.map .event)).act .ask).2 = some (
      match (asked.site.announced events).getLast? with
      | some s => .snapshot s
      | none => if (asked.site.actAll events).gone then .ended else .pending) := by
  intro asked
  have hsite : asked.site = t.site := t.site_act_ask
  have hnow : (asked.actAll (events.map .event)).site = t.site.actAll events := by
    rw [actAll_events, hsite]
  have hvalue := t.site.value_actAll events
  rw [act_ask, isSpent_asked, hnow, hsite]
  cases hlast : (t.site.announced events).getLast? with
  | none =>
      have hnone : t.site.changes events = 0 :=
        Publication.announced_eq_nil_iff.mp (List.getLast?_eq_none_iff.mp hlast)
      simp [hnone]
  | some s =>
      have hsome : t.site.changes events ≠ 0 := by
        intro hnone
        simp [Publication.announced_eq_nil_iff.mpr hnone] at hlast
      rw [hlast] at hvalue
      simp [hsome, hvalue]

/-! ### All of them -/

/-- The items are what the slot held and what it announced later, with some of that left out. -/
theorem items_sublist (t : Tail α) (moves : List (Move α)) :
    (t.items moves).Sublist
      (t.site.slot.value :: t.site.announced (moves.filterMap Move.event?)) := by
  -- A stream that is spent does not give what the slot holds once more.
  suffices hboth : (t.items moves).Sublist
      (t.site.slot.value :: t.site.announced (moves.filterMap Move.event?)) ∧
      (t.isSpent = true →
        (t.items moves).Sublist (t.site.announced (moves.filterMap Move.event?))) from hboth.1
  induction moves generalizing t with
  | nil => exact ⟨List.nil_sublist _, fun _ => List.nil_sublist _⟩
  | cons m rest ih =>
      rw [items_cons]
      cases m with
      | event e =>
          obtain ⟨hitems, hspent⟩ := ih (t.act (.event e)).1
          simp only [List.filterMap_cons, Move.event?, Publication.announced]
          cases hnews : t.site.isNews e with
          | true => exact ⟨hitems.cons _, fun _ => hitems⟩
          | false =>
              have hslot := Publication.slot_act_of_not_news hnews
              have hsame : (t.act (.event e)).1.site.slot.value = t.site.slot.value :=
                congrArg Cell.value hslot
              rw [hsame] at hitems
              rw [isSpent_act_event hslot] at hspent
              exact ⟨hitems, hspent⟩
      | ask =>
          have hafter : (t.act .ask).1.isSpent = true := (t.isSpent_asked []).trans rfl
          have hrest := (ih (t.act .ask).1).2 hafter
          rw [site_act_ask] at hrest
          have hgiven : (t.act .ask).2.bind Next.item? =
              if t.isSpent then none else some t.site.slot.value := by
            rw [act_ask]
            cases t.isSpent <;> cases t.site.gone <;> rfl
          simp only [hgiven, List.filterMap_cons, Move.event?]
          cases t.isSpent with
          | true => exact ⟨hrest.cons _, fun _ => hrest⟩
          | false => exact ⟨hrest.cons_cons _, nofun⟩

/-- Where a stream that has started has seen the latest announcement, its latest item is that. -/
def Follows (t : Tail α) (items : List (Snapshot α)) : Prop :=
  t.stream.started = true →
    Cell.Abreast (fun slot => some slot.value) t.site.slot t.stream.receiver items.getLast?

theorem Follows.act {t : Tail α} {items : List (Snapshot α)} (h : t.Follows items) (m : Move α) :
    (t.act m).1.Follows (items ++ ((t.act m).2.bind Next.item?).toList) := by
  cases m with
  | event e =>
      have hversion := t.site.version_act e
      intro hstarted
      simp only [Tail.act, Option.bind_none, Option.toList_none, List.append_nil]
      refine (h hstarted).move (hversion ▸ Nat.le_add_right ..) fun hsame => ?_
      have hnone : t.site.isNews e = false := by
        cases hnews : t.site.isNews e with
        | false => rfl
        | true => simp [hversion, hnews] at hsame
      rw [Publication.slot_act_of_not_news hnone]
  | ask =>
      rw [act_ask]
      cases hspent : t.isSpent with
      | true =>
          rw [if_pos rfl]
          cases t.site.gone <;> simpa [Next.item?] using h
      | false =>
          intro _
          simpa [Next.item?] using Cell.Abreast.subscribe (fun slot => some slot.value) t.site.slot

theorem follows_actAll (p : Publication α) (name : String) (f : Subscription α)
    (moves : List (Move α)) :
    ((convert p name f).actAll moves).Follows ((convert p name f).items moves) := by
  induction moves using List.reverseRecOn with
  | nil => exact nofun
  | append_singleton moves m ih =>
      rw [actAll_append, items_append, items_cons]
      simpa [items, replies, actAll] using ih.act m

/-- A stream that is spent and whose store is gone has ended for good. -/
theorem replies_of_ended {t : Tail α} (hgone : t.site.gone = true) (hspent : t.isSpent = true)
    (moves : List (Move α)) :
    (t.actAll moves).site.slot = t.site.slot ∧ ∀ n ∈ t.replies moves, n = .ended := by
  refine ⟨?_, ?_⟩
  · rw [site_actAll]
    exact (Publication.actAll_of_gone hgone _).2
  · induction moves generalizing t with
    | nil => exact fun n hn => nomatch hn
    | cons m rest ih =>
        intro n hn
        rw [replies, List.mem_append] at hn
        cases m with
        | event e =>
            obtain ⟨hstill, hslot⟩ := Publication.actAll_of_gone hgone [e]
            have hspent' : (t.act (.event e)).1.isSpent = true :=
              (isSpent_act_event hslot).trans hspent
            exact ih hstill hspent' n (hn.resolve_left nofun)
        | ask =>
            rw [act_ask, if_pos hspent, hgone] at hn
            obtain hfirst | hrest := hn
            · simpa using hfirst
            · exact ih hgone hspent n hrest

/-- A stream ends once the store is gone, and what it gave last is then what the slot held last. -/
theorem ended_reply (p : Publication α) (name : String) (f : Subscription α)
    (moves : List (Move α)) :
    let t := convert p name f
    let now := t.actAll moves
    (now.act .ask).2 = some .ended → now.site.gone = true ∧
      (t.items moves).getLast? = some now.site.slot.value ∧
      ∀ more, (now.actAll more).site.slot = now.site.slot ∧
        ∀ n ∈ now.replies more, n = .ended := by
  intro t now hended
  rw [act_ask] at hended
  cases hspent : now.isSpent with
  | false => simp [hspent] at hended
  | true =>
      cases hgone : now.site.gone with
      | false => simp [hspent, hgone] at hended
      | true =>
          obtain ⟨hstarted, hseen⟩ : now.stream.started = true ∧
              now.site.slot.seenBy now.stream.receiver = true := by
            simpa [isSpent] using hspent
          have hlast := (follows_actAll p name f moves hstarted).known_eq hseen
          exact ⟨rfl, hlast, replies_of_ended hgone hspent⟩

end Tail

/-! ### The streams of a session -/

/-- The follower, if it is a stream of `r`. -/
def Follower.stream? (r : Resource) : Follower → Option ListingStream
  | .stream q f => if q = r then some f else none
  | .subscription .. => none

namespace Session

variable {s : Session} {r : Resource} {name : String} {t : Tail r.Record}

/-- The stream of a name, if it follows `r`, and what it follows. -/
def tail? (s : Session) (r : Resource) (name : String) : Option (Tail r.Record) :=
  ((s.followers.get? name).bind (·.stream? r)).map fun f => ⟨s.publication r, f⟩

theorem tail?_of_stream {f : ListingStream} (hf : s.followers.get? name = some (.stream r f)) :
    s.tail? r name = some ⟨s.publication r, f⟩ := by
  simp [tail?, hf, Follower.stream?]

theorem exists_stream (h : s.tail? r name = some t) :
    ∃ f, s.followers.get? name = some (.stream r f) ∧ t = ⟨s.publication r, f⟩ := by
  obtain ⟨f, hf, rfl⟩ := Option.map_eq_some_iff.mp h
  obtain ⟨g, hg, hstream⟩ := Option.bind_eq_some_iff.mp hf
  cases g with
  | subscription q g => cases hstream
  | stream q g =>
      obtain ⟨rfl, rfl⟩ : q = r ∧ g = f := by simpa [Follower.stream?] using hstream
      exact ⟨g, hg, rfl⟩

theorem tail?_intoStream {f : Subscription r.Record}
    (hf : s.followers.get? name = some (.subscription r f)) :
    (s.act (.subscriber (.intoStream name))).1.tail? r name =
      some (.convert (s.publication r) name f) := by
  have hact : (s.act (.subscriber (.intoStream name))).1 =
      { s with followers := s.followers.put name (.stream r f.intoStream) } := by
    simp only [act, actSubscriber, withNamed, hf]
  rw [hact, tail?_of_stream (Roster.get?_put_self ..), readers_put]
  rfl

/-- To ask the stream of a session is to ask the stream. -/
theorem act_next (h : s.tail? r name = some t) :
    (s.act (.subscriber (.next name))).1.tail? r name = some (t.act .ask).1 ∧
      ∃ n, (s.act (.subscriber (.next name))).2 = .next r n ∧ (t.act .ask).2 = some n := by
  obtain ⟨f, hf, rfl⟩ := exists_stream h
  have hact : s.act (.subscriber (.next name)) = s.next name r f := by
    simp only [act, actSubscriber, withNamed, hf]
  have hnobody : (s.publication r).readers name = none := by
    simp [publication, hf, Follower.subscription?]
  have hsite : (s.publication r).put name none = s.publication r := by
    rw [Publication.put, Function.update_eq_self_iff.mpr hnobody.symm]
  refine ⟨?_, _, by rw [hact]; rfl, rfl⟩
  rw [hact, Session.next, tail?_of_stream (Roster.get?_put_self ..), readers_put]
  exact congrArg (fun site => some (Tail.mk site _)) hsite

/-- What an action is for the stream of a name, if it makes no subscription of that name. -/
theorem exists_moves_act {a : Action} (h : s.tail? r name = some t)
    (hmade : ∀ q, a ≠ .subscriber (.subscribe name q)) :
    ∃ moves, (s.act a).1.tail? r name = some (t.actAll moves) ∧
      (asked? name r (a, (s.act a).2)).toList = t.replies moves := by
  obtain ⟨f, hf, ht⟩ := exists_stream h
  cases hconcerns : a.concerns name with
  | false =>
      obtain ⟨events, hevents⟩ := s.publication_act a r
      have hstream := (get?_followers_act_of_other (fun _ => hmade) hconcerns).trans hf
      refine ⟨events.map .event, ?_, ?_⟩
      · rw [tail?_of_stream hstream, Tail.actAll_events, ← hevents, ht]
      · rw [asked?_eq_none hconcerns, Tail.replies_events]
        rfl
  | true =>
      have hunable (hact : s.act a = (s, .unable)) :
          ∃ moves, (s.act a).1.tail? r name = some (t.actAll moves) ∧
            (asked? name r (a, (s.act a).2)).toList = t.replies moves := by
        rw [hact, asked?_of_next?_eq_none rfl]
        exact ⟨[], h, rfl⟩
      obtain rfl | rfl | rfl := Action.eq_of_concerns hconcerns
      · exact hunable (act_of_unfit hf (.inl rfl) nofun)
      · obtain ⟨htail, n, hanswer, hreply⟩ := act_next h
        refine ⟨[.ask], htail, ?_⟩
        rw [hanswer, Tail.replies, hreply]
        simp [asked?, Tail.replies]
      · apply hunable
        simp only [act, actSubscriber, withNamed, hf]

/-- The answers to the stream of a name in a session are those of the stream, with events of the
publication in between. -/
theorem exists_moves (h : s.tail? r name = some t) {run : List Action}
    (hmade : ∀ q, .subscriber (.subscribe name q) ∉ run) :
    ∃ moves, (s.actAll run).tail? r name = some (t.actAll moves) ∧
      replies name r (s.trace run) = t.replies moves := by
  induction run generalizing s t with
  | nil => exact ⟨[], h, rfl⟩
  | cons a rest ih =>
      have hfirst : ∀ q, a ≠ .subscriber (.subscribe name q) :=
        fun q ha => hmade q (ha ▸ List.mem_cons_self)
      have hrest : ∀ q, .subscriber (.subscribe name q) ∉ rest :=
        fun q hmem => hmade q (List.mem_cons_of_mem a hmem)
      obtain ⟨now, htail, hanswer⟩ := exists_moves_act h hfirst
      obtain ⟨later, hlater, hanswers⟩ := ih htail hrest
      refine ⟨now ++ later, ?_, ?_⟩
      · rw [Tail.actAll_append]
        exact hlater
      · rw [Tail.replies_append, ← hanswer, ← hanswers, trace_cons, replies, List.filterMap_cons]
        cases asked? name r (a, (s.act a).2) <;> rfl

end Session

namespace Tail

/-- Take any subscription to any slot, and turn it into a stream. What it has captured does not
matter from then on:

* The first item is the listing that was announced last between the conversion and the moment when
  the stream is asked; only where nothing was announced is it the listing of the conversion.
* Asked again, the stream gives the listing that was announced last since it was asked before. If
  none was, it has nothing to give, or it is over if the store is gone.
* So the items are the listing of the conversion and the later ones in their order, with some left
  out, and the listing of the conversion may be among these.
* When the stream says that it is over, the store is gone, the item given last is what the slot held
  last, and nothing comes after it.

In a session the stream is asked by `next`, and all else that happens are events of the resource's
publication, so that the same holds of its answers. -/
theorem stream_starts_where_it_is_asked {α : Type} (p : Publication α) (name : String)
    (f : Subscription α) :
    let t := convert p name f
    (∀ events : List (Event α), ((t.actAll (events.map .event)).act .ask).2 =
      some (.snapshot ((t.site.announced events).getLast?.getD p.slot.value))) ∧
    (∀ (moves : List (Move α)) (events : List (Event α)),
      let asked := ((t.actAll moves).act .ask).1
      ((asked.actAll (events.map .event)).act .ask).2 = some (
        match (asked.site.announced events).getLast? with
        | some s => .snapshot s
        | none => if (asked.site.actAll events).gone then .ended else .pending)) ∧
    (∀ moves : List (Move α), (t.items moves).Sublist
      (p.slot.value :: t.site.announced (moves.filterMap Move.event?))) ∧
    (∀ moves : List (Move α),
      let now := t.actAll moves
      (now.act .ask).2 = some .ended → now.site.gone = true ∧
        (t.items moves).getLast? = some now.site.slot.value ∧
        ∀ more, (now.actAll more).site.slot = now.site.slot ∧
          ∀ n ∈ now.replies more, n = .ended) ∧
    ∀ (s : Session) (r : Resource) (name : String) (f : Subscription r.Record) (run : List Action),
      s.followers.get? name = some (.subscription r f) →
      (∀ q, .subscriber (.subscribe name q) ∉ run) →
      let converted := (s.act (.subscriber (.intoStream name))).1
      ∃ moves, (converted.actAll run).tail? r name =
          some ((convert (s.publication r) name f).actAll moves) ∧
        Session.replies name r (converted.trace run) =
          (convert (s.publication r) name f).replies moves := by
  intro t
  refine ⟨first_reply p name f, ?_, t.items_sublist, ended_reply p name f, ?_⟩
  · exact fun moves => (t.actAll moves).later_reply
  · intro s r name f run hf hmade converted
    exact Session.exists_moves (Session.tail?_intoStream hf) hmade

/-- The first item need not be the listing that was current at the conversion: a listing that is
announced before the stream is asked takes its place. -/
theorem stream_need_not_start_at_its_conversion :
    ¬ ∀ (history between : List (Event String)) (f : Subscription String),
      let p : Publication String := Publication.actAll { slot := Slot.initial } history
      p.readers "s" = some f →
      (((convert p "s" f).actAll (between.map .event)).act .ask).2 =
        some (.snapshot p.slot.value) := by
  intro h
  have hfirst := h [.call "s" .subscribe] [.write (.replace .initial ["x"])]
    (.start Slot.initial) rfl
  exact absurd hfirst (by decide)

end Tail

end BrokerMonitor
