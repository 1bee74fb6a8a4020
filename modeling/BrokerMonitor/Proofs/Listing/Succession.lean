import BrokerMonitor.Proofs.Listing.Chronicle
/-!
# Listings move forward

A subscription remembers a place in the chronicle of its slot, and so does the stream that it is
turned into. Each change takes it to a later place (`Hears`), so what it is given in the course of a
run has stamps that go up (`Ahead`). Whatever else is seen of a slot is in the chronicle too, where
no two listings have the same stamp.
-/

namespace BrokerMonitor

/-- The listing of `r` that an answer gives, if it gives one. -/
def Answer.listing? (r : Resource) : Answer → Option (Snapshot r.Record)
  | .snapshot r' s => if h : r' = r then some (h ▸ s) else none
  | .next r' (.snapshot s) => if h : r' = r then some (h ▸ s) else none
  | _ => none

namespace Follower

def resource : Follower → Resource
  | .subscription r _ => r
  | .stream r _ => r

/-- The last announcement that the follower has seen. -/
def seen : Follower → Nat
  | .subscription _ f => f.receiver.seen
  | .stream _ f => f.receiver.seen

/-- The follower keeps to the chronicle: what it has seen is there, and its own listing is the one
that it has seen. -/
def Keeps (r : Resource) (past : List (Snapshot r.Record)) : Follower → Prop
  | .subscription r' f => ∀ h : r' = r, past[f.receiver.seen]? = some (h ▸ f.current)
  | .stream r' f => r' = r → f.receiver.seen < past.length

variable {r : Resource} {past : List (Snapshot r.Record)} {f : Follower}

theorem Keeps.append (h : f.Keeps r past) (more : List (Snapshot r.Record)) :
    f.Keeps r (past ++ more) := by
  cases f with
  | subscription r' f =>
      intro hr
      have hseen := h hr
      obtain ⟨hlt, -⟩ := List.getElem?_eq_some_iff.mp hseen
      rw [List.getElem?_append_left hlt, hseen]
  | stream r' f =>
      intro hr
      have hlt : f.receiver.seen < past.length := h hr
      rw [List.length_append]
      omega

theorem Keeps.seen_lt (h : f.Keeps r past) (hr : f.resource = r) : f.seen < past.length := by
  cases f with
  | subscription r' f =>
      obtain ⟨hlt, -⟩ := List.getElem?_eq_some_iff.mp (h hr)
      exact hlt
  | stream r' f => exact h hr

end Follower

namespace Session

variable {s : Session} {name : String} {r : Resource} {past : List (Snapshot r.Record)}

/-- `past` are the listings that the slot of `r` has had, and all followers keep to it. -/
structure Chronicled (s : Session) (r : Resource) (past : List (Snapshot r.Record)) : Prop where
  slot : Slot.Chronicle (s.monitor.store.get r) past
  keeps : ∀ name f, s.followers.get? name = some f → f.Keeps r past

namespace Chronicled

theorem start (rate : Option UInt32) (r : Resource) :
    (start rate).Chronicled r [.empty .initial] where
  slot := by cases r <;> exact .initial
  keeps _ _ h := nomatch h

/-- A follower of the slot as it is gets a name. -/
theorem put (h : s.Chronicled r past) (name : String) {f : Follower} (hf : f.Keeps r past) :
    ({ s with followers := s.followers.put name f } : Session).Chronicled r past := by
  refine ⟨h.slot, fun other g hg => ?_⟩
  have hg : (s.followers.put name f).get? other = some g := hg
  rw [Roster.get?_put] at hg
  split at hg
  · obtain rfl := Option.some.inj hg
    exact hf
  · exact h.keeps other g hg

/-- What is current is the last place of the chronicle. -/
theorem current (h : s.Chronicled r past) {r' : Resource} (hr : r' = r) :
    past[(s.monitor.store.get r').version]? = some (hr ▸ (s.monitor.store.get r').value) := by
  subst hr
  exact h.slot.current

theorem version_lt (h : s.Chronicled r past) {r' : Resource} (hr : r' = r) :
    (s.monitor.store.get r').version < past.length := by
  obtain ⟨hlt, -⟩ := List.getElem?_eq_some_iff.mp (h.current hr)
  exact hlt

end Chronicled

/-! ### What one action gives to a follower -/

/-- The listing that the follower of a name is given as a change. -/
def change? (name : String) (r : Resource) : Action × Answer → Option (Snapshot r.Record)
  | (.subscriber (.changed n), answer) => if n = name then answer.listing? r else none
  | _ => none

/-- The listing that the follower of a name is given as the next item of its stream. -/
def item? (name : String) (r : Resource) : Action × Answer → Option (Snapshot r.Record)
  | (.subscriber (.next n), answer) => if n = name then answer.listing? r else none
  | _ => none

/-- The name is given to a new subscription. -/
def renews (name : String) : Action × Answer → Bool
  | (.subscriber (.subscribe n _), .done) => n == name
  | _ => false

/-- What one action comes to for the follower of a name, with the listing that it is given as a
change and the one that it is given as an item, at their places in `past`. -/
inductive Hears {r : Resource} (past : List (Snapshot r.Record)) :
    Option Follower → Option Follower → Option (Snapshot r.Record) → Option (Snapshot r.Record) →
      Prop
  | nothing (f : Option Follower) : Hears past f f none none
  /-- A subscription is turned into a stream. -/
  | turned {r' : Resource} (f : Subscription r'.Record) :
    Hears past (some (.subscription r' f)) (some (.stream r' f.intoStream)) none none
  /-- It follows another resource. -/
  | elsewhere {f f' : Follower} (hf : f.resource ≠ r) (hf' : f'.resource ≠ r) :
    Hears past (some f) (some f') none none
  | change {f : Subscription r.Record} {place : Nat} {x : Snapshot r.Record}
      (hlater : f.receiver.seen < place) (hx : past[place]? = some x) :
    Hears past (some (.subscription r f)) (some (.subscription r ⟨x, ⟨place⟩⟩)) (some x) none
  | item {f : ListingStream} {place : Nat} {x : Snapshot r.Record}
      (hle : f.receiver.seen ≤ place) (hlater : f.started = true → f.receiver.seen < place)
      (hx : past[place]? = some x) :
    Hears past (some (.stream r f)) (some (.stream r ⟨⟨place⟩, true⟩)) none (some x)

theorem listing?_next_of_ne {r' : Resource} (hr : r' ≠ r) (n : Next r'.Record) :
    (Answer.next r' n).listing? r = none := by
  cases n with
  | snapshot s => exact dif_neg hr
  | pending | ended => rfl

/-- What is current is in the chronicle. -/
theorem mem_of_listing?_current (h : s.Chronicled r past) {r' : Resource} {x : Snapshot r.Record}
    (hx : (Answer.next r' (.snapshot (s.monitor.store.get r').value)).listing? r = some x) :
    x ∈ past := by
  simp only [Answer.listing?] at hx
  split at hx
  · next hr =>
      obtain rfl := Option.some.inj hx
      exact List.mem_of_getElem? (h.current hr)
  · cases hx

/-- There is no news, and the follower stays as it is. -/
theorem hears_of_quiet (h : s.Chronicled r past) {f : Follower}
    (hf : s.followers.get? name = some f) (after : Session × Answer)
    (hafter : ∃ (r' : Resource) (n : Next r'.Record), (n = .pending ∨ n = .ended) ∧
      after = ({ s with followers := s.followers.put name f }, .next r' n)) :
    after.1.Chronicled r past ∧ after.2.listing? r = none ∧
      Hears past (s.followers.get? name) (after.1.followers.get? name) none none := by
  obtain ⟨r', n, hn, rfl⟩ := hafter
  refine ⟨h.put name (h.keeps name f hf), ?_, ?_⟩
  · rcases hn with rfl | rfl <;> rfl
  · show Hears past _ ((s.followers.put name f).get? name) none none
    rw [Roster.get?_put_self, hf]
    exact .nothing _

/-- A subscription that is asked for a change is given what its slot holds, if that is news. -/
theorem hears_changed (h : s.Chronicled r past) {r' : Resource} {f : Subscription r'.Record}
    (hf : s.followers.get? name = some (.subscription r' f)) :
    let after := s.changed name r' f
    after.1.Chronicled r past ∧ (∀ x, after.2.listing? r = some x → x ∈ past) ∧
      Hears past (s.followers.get? name) (after.1.followers.get? name) (after.2.listing? r)
        none := by
  intro after
  let slot := s.monitor.store.get r'
  by_cases hseen : slot.seenBy f.receiver = true
  · obtain ⟨hchronicled, hnothing, hhears⟩ := hears_of_quiet h hf after <| by
      cases hgone : s.monitor.storeGone with
      | false =>
          refine ⟨r', .pending, .inl rfl, ?_⟩
          simp [after, changed, Subscription.changed, Cell.poll, hseen, hgone, slot]
      | true =>
          refine ⟨r', .ended, .inr rfl, ?_⟩
          simp [after, changed, Subscription.changed, Cell.poll, hseen, hgone, slot]
    rw [hnothing]
    exact ⟨hchronicled, nofun, hhears⟩
  · have hafter : after = ({ s with
        followers := s.followers.put name (.subscription r' ⟨slot.value, slot.subscribe⟩) },
        .next r' (.snapshot slot.value)) := by
      simp [after, changed, Subscription.changed, Cell.poll, hseen, slot]
    rw [hafter]
    refine ⟨h.put name fun hr => h.current hr, fun _ => mem_of_listing?_current h, ?_⟩
    show Hears past _ ((s.followers.put name _).get? name) _ none
    rw [Roster.get?_put_self, hf]
    by_cases hr : r' = r
    · subst hr
      have hlt := (h.keeps name _ hf).seen_lt rfl
      rw [h.slot.length] at hlt
      have hne : f.receiver.seen ≠ slot.version := by simpa [Cell.seenBy, slot] using hseen
      simp only [Answer.listing?, dif_pos]
      exact .change (Nat.lt_of_le_of_ne (Nat.le_of_lt_succ hlt) hne) h.slot.current
    · rw [listing?_next_of_ne hr]
      exact .elsewhere hr hr

/-- A stream that is asked for its next item is given what its slot holds, if that is news or it is
the first item. -/
theorem hears_next (h : s.Chronicled r past) {r' : Resource} {f : ListingStream}
    (hf : s.followers.get? name = some (.stream r' f)) :
    let after := s.next name r' f
    after.1.Chronicled r past ∧ (∀ x, after.2.listing? r = some x → x ∈ past) ∧
      Hears past (s.followers.get? name) (after.1.followers.get? name) none
        (after.2.listing? r) := by
  intro after
  let slot := s.monitor.store.get r'
  by_cases hquiet : f.started = true ∧ slot.seenBy f.receiver = true
  · obtain ⟨hstarted, hseen⟩ := hquiet
    obtain ⟨hchronicled, hnothing, hhears⟩ := hears_of_quiet h hf after <| by
      cases hgone : s.monitor.storeGone with
      | false =>
          refine ⟨r', .pending, .inl rfl, ?_⟩
          simp [after, next, ListingStream.next, Cell.poll, hstarted, hseen, hgone, slot]
      | true =>
          refine ⟨r', .ended, .inr rfl, ?_⟩
          simp [after, next, ListingStream.next, Cell.poll, hstarted, hseen, hgone, slot]
    rw [hnothing]
    exact ⟨hchronicled, nofun, hhears⟩
  · have hafter : after = ({ s with
        followers := s.followers.put name (.stream r' ⟨slot.subscribe, true⟩) },
        .next r' (.snapshot slot.value)) := by
      by_cases hstarted : f.started = true
      · have hseen : slot.seenBy f.receiver = false := by simpa [hstarted] using hquiet
        simp [after, next, ListingStream.next, Cell.poll, hstarted, hseen, slot]
      · simp [after, next, ListingStream.next, hstarted, slot]
    rw [hafter]
    refine ⟨h.put name fun hr => h.version_lt hr, fun _ => mem_of_listing?_current h, ?_⟩
    show Hears past _ ((s.followers.put name _).get? name) none _
    rw [Roster.get?_put_self, hf]
    by_cases hr : r' = r
    · subst hr
      have hlt := (h.keeps name _ hf).seen_lt rfl
      rw [h.slot.length] at hlt
      have hle : f.receiver.seen ≤ slot.version := Nat.le_of_lt_succ hlt
      simp only [Answer.listing?, dif_pos]
      refine .item hle (fun hstarted => Nat.lt_of_le_of_ne hle fun heq => hquiet ⟨hstarted, ?_⟩)
        h.slot.current
      simpa [Cell.seenBy] using heq
    · rw [listing?_next_of_ne hr]
      exact .elsewhere hr hr

theorem change?_eq_none {a : Action} {answer : Answer} (h : answer.listing? r = none) :
    change? name r (a, answer) = none := by
  unfold change?
  split
  · next heq =>
      obtain ⟨-, rfl⟩ := Prod.mk.inj heq
      rw [h, ite_self]
  · rfl

theorem item?_eq_none {a : Action} {answer : Answer} (h : answer.listing? r = none) :
    item? name r (a, answer) = none := by
  unfold item?
  split
  · next heq =>
      obtain ⟨-, rfl⟩ := Prod.mk.inj heq
      rw [h, ite_self]
  · rfl

/-- What a step of a session comes to for the followers: they keep to the chronicle, whoever is
given a listing is given one from the chronicle, and the follower of a name that is not given to a
new subscription moves on in it. -/
structure Follows (s : Session) (name : String) (r : Resource) (past : List (Snapshot r.Record))
    (a : Action) (after : Session × Answer) : Prop where
  chronicled : after.1.Chronicled r past
  listed : ∀ x, after.2.listing? r = some x → x ∈ past
  hears : renews name (a, after.2) = false → Hears past (s.followers.get? name)
    (after.1.followers.get? name) (change? name r (a, after.2)) (item? name r (a, after.2))

/-- Nothing happens to the followers and the slots, and no listing is given. -/
theorem Follows.quiet {a : Action} {after : Session × Answer} (h : after.1.Chronicled r past)
    (hfollowers : after.1.followers = s.followers) (hnothing : after.2.listing? r = none) :
    s.Follows name r past a after where
  chronicled := h
  listed x hx := by
    rw [hnothing] at hx
    cases hx
  hears _ := by
    rw [hfollowers, change?_eq_none hnothing, item?_eq_none hnothing]
    exact .nothing _

/-- It happens to a follower of another name. -/
theorem Hears.of_put {n : String} (f : Follower) (hn : n ≠ name) :
    Hears past (s.followers.get? name) ((s.followers.put n f).get? name) none none := by
  rw [Roster.get?_put, if_neg (Ne.symm hn)]
  exact .nothing _

/-- Somebody looks at a listing, and nobody moves on. -/
theorem Follows.look (h : s.Chronicled r past) {a : SubscriberAction} {r' : Resource}
    {x : Snapshot r'.Record} (ha : ∀ n, a ≠ .changed n ∧ a ≠ .next n)
    (hx : ∀ hr : r' = r, (hr ▸ x) ∈ past) :
    s.Follows name r past (.subscriber a) (s, .snapshot r' x) where
  chronicled := h
  listed y hy := by
    simp only [Answer.listing?] at hy
    split at hy
    · next hr =>
        obtain rfl := Option.some.inj hy
        exact hx hr
    · cases hy
  hears _ := by
    cases a with
    | changed n => exact absurd rfl (ha n).1
    | next n => exact absurd rfl (ha n).2
    | _ => exact .nothing _

theorem follows_changed (h : s.Chronicled r past) (n : String) :
    s.Follows name r past (.subscriber (.changed n)) (s.actSubscriber (.changed n)) := by
  simp only [actSubscriber]
  refine s.withNamed_elim s.followers n _ (.quiet h rfl rfl) fun f hf => ?_
  cases f with
  | stream => exact .quiet h rfl rfl
  | subscription r' f =>
      obtain ⟨hchronicled, hlisted, hhears⟩ := hears_changed h hf
      refine ⟨hchronicled, hlisted, fun _ => ?_⟩
      show Hears past _ ((s.changed n r' f).1.followers.get? name)
        (if n = name then (s.changed n r' f).2.listing? r else none) none
      split
      · next hn =>
          subst hn
          exact hhears
      · next hn =>
          have hothers : (s.changed n r' f).1.followers =
              s.followers.put n (.subscription r' (f.changed (s.monitor.store.get r')
                s.monitor.storeGone).1) := rfl
          rw [hothers]
          exact .of_put _ hn

theorem follows_next (h : s.Chronicled r past) (n : String) :
    s.Follows name r past (.subscriber (.next n)) (s.actSubscriber (.next n)) := by
  simp only [actSubscriber]
  refine s.withNamed_elim s.followers n _ (.quiet h rfl rfl) fun f hf => ?_
  cases f with
  | subscription => exact .quiet h rfl rfl
  | stream r' f =>
      obtain ⟨hchronicled, hlisted, hhears⟩ := hears_next h hf
      refine ⟨hchronicled, hlisted, fun _ => ?_⟩
      show Hears past _ ((s.next n r' f).1.followers.get? name) none
        (if n = name then (s.next n r' f).2.listing? r else none)
      split
      · next hn =>
          subst hn
          exact hhears
      · next hn =>
          have hothers : (s.next n r' f).1.followers =
              s.followers.put n (.stream r' (f.next (s.monitor.store.get r')
                s.monitor.storeGone).1) := rfl
          rw [hothers]
          exact .of_put _ hn

theorem follows_actSubscriber (h : s.Chronicled r past) (a : SubscriberAction) :
    s.Follows name r past (.subscriber a) (s.actSubscriber a) := by
  cases a with
  | observe n | watch n =>
      simp only [actSubscriber]
      split
      · exact .quiet ⟨h.slot, h.keeps⟩ rfl rfl
      · exact .quiet h rfl rfl
  | seen n =>
      simp only [actSubscriber]
      refine s.withNamed_elim s.observers n _ (.quiet h rfl rfl) fun i _ => ?_
      unfold seen
      split
      · exact .quiet h rfl rfl
      · exact .quiet ⟨h.slot, h.keeps⟩ rfl rfl
  | unobserve n =>
      simp only [actSubscriber]
      exact s.withNamed_elim s.observers n _ (.quiet h rfl rfl)
        fun _ _ => .quiet ⟨h.slot, h.keeps⟩ rfl rfl
  | watched n =>
      simp only [actSubscriber]
      exact s.withNamed_elim s.watches n _ (.quiet h rfl rfl)
        fun _ _ => .quiet ⟨h.slot, h.keeps⟩ rfl rfl
  | subscribe n r' =>
      simp only [actSubscriber]
      split
      · refine ⟨h.put n fun hr => h.current hr, ?_, fun hkeep => .of_put _ ?_⟩
        · intro x hx
          cases hx
        · simpa [renews] using hkeep
      · exact .quiet h rfl rfl
  | current n =>
      simp only [actSubscriber]
      refine s.withNamed_elim s.followers n _ (.quiet h rfl rfl) fun f hf => ?_
      cases f with
      | subscription r' f =>
          exact .look h (by simp) fun hr => List.mem_of_getElem? (h.keeps n _ hf hr)
      | stream => exact .quiet h rfl rfl
  | latest n =>
      simp only [actSubscriber]
      refine s.withNamed_elim s.followers n _ (.quiet h rfl rfl) fun f hf => ?_
      cases f with
      | subscription r' f =>
          exact .look h (by simp) fun hr => List.mem_of_getElem? (h.current hr)
      | stream => exact .quiet h rfl rfl
  | changed n => exact follows_changed h n
  | next n => exact follows_next h n
  | intoStream n =>
      simp only [actSubscriber]
      refine s.withNamed_elim s.followers n _ (.quiet h rfl rfl) fun f hf => ?_
      cases f with
      | stream => exact .quiet h rfl rfl
      | subscription r' f =>
          refine ⟨h.put n fun hr => (h.keeps n _ hf).seen_lt hr, ?_, fun _ => ?_⟩
          · intro x hx
            cases hx
          · by_cases hn : n = name
            · subst hn
              show Hears past _ ((s.followers.put n _).get? n) none none
              rw [Roster.get?_put_self, hf]
              exact .turned f
            · exact .of_put _ hn

/-- Only subscribers are given listings. -/
theorem listing?_act (s : Session) {a : Action} (ha : ∀ b, a ≠ .subscriber b) :
    (s.act a).2.listing? r = none := by
  cases a with
  | broker a =>
      cases a with
      | offer | refuse | requests => rfl
      | close n =>
          simp only [act, actBroker]
          split <;> rfl
      | fail n e | isAbandoned n =>
          simp only [act, actBroker]
          exact s.withNamed_elim s.feeds n _ rfl fun _ _ => rfl
      | send n r' message =>
          simp only [act, actBroker]
          refine s.withNamed_elim s.feeds n _ rfl fun id _ => ?_
          split <;> rfl
  | connection a =>
      cases a with
      | connect n url =>
          simp only [act, actConnection]
          split
          · unfold connect
            split <;> rfl
          · rfl
      | shutdown =>
          simp only [act, actConnection]
          split
          · split <;> rfl
          · rfl
      | isSame | drop =>
          simp only [act, actConnection]
          split <;> rfl
  | subscriber b => exact absurd rfl (ha b)
  | client a =>
      cases a with
      | startOver n r' handle =>
          simp only [act, actClient]
          split
          · split <;> rfl
          · rfl
      | startDetached n r' g =>
          simp only [act, actClient]
          split <;> rfl
      | cancel n =>
          simp only [act, actClient]
          exact s.withNamed_elim s.clients n _ rfl fun _ _ => rfl
      | state n =>
          simp only [act, actClient]
          refine s.withNamed_elim s.clients n _ rfl fun i _ => ?_
          unfold clientState
          split <;> rfl
  | run j =>
      simp only [act]
      split <;> rfl
  | settle => rfl

/-- And only their actions do something to followers. -/
theorem followers_act (s : Session) {a : Action} (ha : ∀ b, a ≠ .subscriber b) :
    (s.act a).1.followers = s.followers := by
  cases a with
  | broker a =>
      obtain ⟨_, _, _, _, _, hact⟩ := s.exists_actBroker_eq a
      rw [act, hact]
  | connection a =>
      exact s.actConnection_elim a (fun _ _ => rfl) (fun _ _ _ _ _ _ => rfl) fun _ => rfl
  | subscriber b => exact absurd rfl (ha b)
  | client a =>
      obtain ⟨_, _, _, hact⟩ := s.exists_actClient_eq a
      rw [act, hact]
  | run | settle => rw [act_of_runsTasks s rfl, runTasks]

/-- The same for every action, which may add to the chronicle. -/
theorem exists_follows_act (h : s.Chronicled r past) (hm : s.monitor.Lockstep) (name : String)
    (a : Action) : ∃ more, s.Follows name r (past ++ more) a (s.act a) := by
  by_cases ha : ∃ b, a = .subscriber b
  · obtain ⟨b, rfl⟩ := ha
    refine ⟨[], ?_⟩
    rw [List.append_nil]
    exact follows_actSubscriber h b
  · have ha : ∀ b, a ≠ .subscriber b := fun b hb => ha ⟨b, hb⟩
    obtain ⟨more, hmore⟩ := Monitor.chronicle_of_leads hm (s.monitor_leads_act a) h.slot
    refine ⟨more, .quiet ⟨hmore, fun n f hf => ?_⟩ (s.followers_act ha) (s.listing?_act ha)⟩
    rw [s.followers_act ha] at hf
    exact (h.keeps n f hf).append more

/-! ### What a run gives to a follower -/

/-- The listings that the follower of a name is given as changes. -/
def changes (name : String) (r : Resource) (heard : List (Action × Answer)) :
    List (Snapshot r.Record) :=
  heard.filterMap (change? name r)

/-- The listings that it is given as items of its stream. -/
def items (name : String) (r : Resource) (heard : List (Action × Answer)) :
    List (Snapshot r.Record) :=
  heard.filterMap (item? name r)

/-- What a follower will be given goes forward: the stamps of the changes and of the items after the
first go up, and all of them are above the stamp of what it has seen. Only a subscription is given
changes, and the first item of a stream may be what has been seen. -/
structure Ahead (f : Option Follower) (past : List (Snapshot r.Record))
    (changes items : List (Snapshot r.Record)) : Prop where
  increase : (changes ++ items.tail).Pairwise (·.stamp < ·.stamp)
  increaseItems : items.Pairwise (·.stamp < ·.stamp)
  above : ∀ g, f = some g → ∀ x, past[g.seen]? = some x → ∀ y ∈ changes ++ items.tail,
    x.stamp < y.stamp
  stream : ∀ g, f = some (.stream r g) → changes = []
  started : ∀ g, f = some (.stream r g) → g.started = true → ∀ x,
    past[g.receiver.seen]? = some x → ∀ y ∈ items, x.stamp < y.stamp
  silent : (∀ g, f = some g → g.resource ≠ r) → changes = [] ∧ items = []

namespace Ahead

variable {f f' : Option Follower} {changes items : List (Snapshot r.Record)}

theorem nil (f : Option Follower) (past : List (Snapshot r.Record)) : Ahead f past [] [] where
  increase := .nil
  increaseItems := .nil
  above _ _ _ _ _ hy := nomatch hy
  stream _ _ := rfl
  started _ _ _ _ _ _ hy := nomatch hy
  silent _ := ⟨rfl, rfl⟩

/-- It is enough to look at the chronicle as it is later. -/
theorem of_append {more : List (Snapshot r.Record)} (h : Ahead f (past ++ more) changes items) :
    Ahead f past changes items := by
  have hlater : ∀ {i : Nat} {x : Snapshot r.Record}, past[i]? = some x →
      (past ++ more)[i]? = some x := by
    intro i x hx
    obtain ⟨hlt, -⟩ := List.getElem?_eq_some_iff.mp hx
    rw [List.getElem?_append_left hlt, hx]
  constructor
  · exact h.increase
  · exact h.increaseItems
  · exact fun g hg x hx => h.above g hg x (hlater hx)
  · exact h.stream
  · exact fun g hg hstarted x hx => h.started g hg hstarted x (hlater hx)
  · exact h.silent

/-- A change comes before what the subscription is given later. -/
theorem change {slot : Slot r.Record} (hslot : slot.Chronicle past) {g : Subscription r.Record}
    {place : Nat} {x : Snapshot r.Record} (hlater : g.receiver.seen < place)
    (hx : past[place]? = some x)
    (h : Ahead (some (.subscription r ⟨x, ⟨place⟩⟩)) past changes items) :
    Ahead (some (.subscription r g)) past (x :: changes) items := by
  have hrest : ∀ y ∈ changes ++ items.tail, x.stamp < y.stamp := h.above _ rfl x hx
  constructor
  · exact List.pairwise_cons.mpr ⟨hrest, h.increase⟩
  · exact h.increaseItems
  · rintro _ ⟨⟩ x₀ hx₀ y hy
    have hnext : x₀.stamp < x.stamp := hslot.stamp_lt hx₀ hx hlater
    rcases List.mem_cons.mp hy with rfl | hy
    · exact hnext
    · exact hnext.trans (hrest y hy)
  · exact nofun
  · exact nofun
  · exact fun hnot => absurd rfl (hnot _ rfl)

/-- An item comes before what the stream is given later. -/
theorem item {slot : Slot r.Record} (hslot : slot.Chronicle past) {g : ListingStream} {place : Nat}
    {x : Snapshot r.Record} (hle : g.receiver.seen ≤ place)
    (hlater : g.started = true → g.receiver.seen < place) (hx : past[place]? = some x)
    (h : Ahead (some (.stream r ⟨⟨place⟩, true⟩)) past changes items) :
    Ahead (some (.stream r g)) past changes (x :: items) := by
  have hnone : changes = [] := h.stream _ rfl
  subst hnone
  have hrest : ∀ y ∈ items, x.stamp < y.stamp := h.started _ rfl rfl x hx
  constructor
  · exact h.increaseItems
  · exact List.pairwise_cons.mpr ⟨hrest, h.increaseItems⟩
  · rintro _ ⟨⟩ x₀ hx₀ y hy
    have hnext := hrest y hy
    have hx₀ : past[g.receiver.seen]? = some x₀ := hx₀
    rcases Nat.lt_or_eq_of_le hle with hlt | heq
    · exact (hslot.stamp_lt hx₀ hx hlt).trans hnext
    · rw [heq, hx] at hx₀
      obtain rfl := Option.some.inj hx₀
      exact hnext
  · exact fun _ _ => rfl
  · rintro _ ⟨⟩ hstarted x₀ hx₀ y hy
    have hnext := hslot.stamp_lt hx₀ hx (hlater hstarted)
    rcases List.mem_cons.mp hy with rfl | hy
    · exact hnext
    · exact hnext.trans (hrest y hy)
  · exact fun hnot => absurd rfl (hnot _ rfl)

/-- One action before the others. -/
theorem cons {slot : Slot r.Record} (hslot : slot.Chronicle past) {c i : Option (Snapshot r.Record)}
    (h : Hears past f f' c i) (hrest : Ahead f' past changes items) :
    Ahead f past (c.toList ++ changes) (i.toList ++ items) := by
  cases h with
  | nothing => exact hrest
  | turned g =>
      constructor
      · exact hrest.increase
      · exact hrest.increaseItems
      · rintro _ ⟨⟩
        exact hrest.above (.stream _ g.intoStream) rfl
      · exact nofun
      · exact nofun
      · intro hnot
        apply hrest.silent
        rintro _ ⟨⟩
        exact hnot (.subscription _ g) rfl
  | elsewhere hf hf' =>
      obtain ⟨rfl, rfl⟩ := hrest.silent fun g hg => Option.some.inj hg ▸ hf'
      exact .nil _ past
  | change hlater hx => exact hrest.change hslot hlater hx
  | item hle hlater hx => exact hrest.item hslot hle hlater hx

end Ahead

/-- Whatever a run does, what it gives to a follower goes forward, as long as the name is not given
to a new subscription. -/
theorem ahead_trace (h : s.Chronicled r past) (hm : s.monitor.Lockstep) {run : List Action}
    (hkept : ∀ e ∈ s.trace run, renews name e = false) :
    Ahead (s.followers.get? name) past (changes name r (s.trace run))
      (items name r (s.trace run)) := by
  induction run generalizing s past with
  | nil => exact .nil _ past
  | cons a rest ih =>
      rw [trace_cons] at hkept ⊢
      obtain ⟨ha, hrest⟩ := List.forall_mem_cons.mp hkept
      obtain ⟨more, hfollows⟩ := exists_follows_act h hm name a
      have hlater := ih hfollows.chronicled (hm.leads (s.monitor_leads_act a)) hrest
      have hall := hlater.cons hfollows.chronicled.slot (hfollows.hears ha)
      have hconcat : ∀ (p : Action × Answer → Option (Snapshot r.Record)) e l,
          (p e).toList ++ List.filterMap p l = List.filterMap p (e :: l) := by
        intro p e l
        cases hp : p e <;> simp [hp]
      rw [changes, items, ← hconcat, ← hconcat]
      exact hall.of_append

/-- All listings of `r` that are seen in a run: what the monitor shows before and after each action,
and what anybody is answered. -/
def sightings (s : Session) (r : Resource) : List Action → List (Snapshot r.Record)
  | [] => [s.monitor.snapshot r]
  | a :: rest =>
    s.monitor.snapshot r :: ((s.act a).2.listing? r).toList ++ (s.act a).1.sightings r rest

/-- All of them are in the chronicle at the end. -/
theorem exists_sightings_subset (h : s.Chronicled r past) (hm : s.monitor.Lockstep)
    (run : List Action) : ∃ more, (s.actAll run).Chronicled r (past ++ more) ∧
      s.sightings r run ⊆ past ++ more := by
  have hcurrent : s.monitor.snapshot r ∈ past := List.mem_of_getElem? h.slot.current
  induction run generalizing s past with
  | nil =>
      refine ⟨[], by rwa [List.append_nil], ?_⟩
      rw [List.append_nil]
      exact List.cons_subset.mpr ⟨hcurrent, List.nil_subset _⟩
  | cons a rest ih =>
      obtain ⟨more, hfollows⟩ := exists_follows_act h hm "" a
      have hafter := hfollows.chronicled
      obtain ⟨later, hlater, hseen⟩ := ih hafter (hm.leads (s.monitor_leads_act a))
        (List.mem_of_getElem? hafter.slot.current)
      refine ⟨more ++ later, ?_, ?_⟩
      · rwa [← List.append_assoc]
      · rw [← List.append_assoc]
        refine List.append_subset.mpr ⟨List.cons_subset.mpr ⟨?_, ?_⟩, hseen⟩
        · exact List.mem_append_left _ (List.mem_append_left _ hcurrent)
        · intro x hx
          exact List.mem_append_left _ (hfollows.listed x (Option.mem_toList.mp hx))

/-- Listings only move forward, and a stamp names one listing. Take any run of a session, of any
actions in any order, with any number of subscriptions and clients. While a name stands for one
subscription, as long as it is not given to another, the listings that it is given as changes, and
after it was turned into a stream as items after the first, have stamps that go up strictly; so have
all its items. A stamp is the generation and the sequence, in lexicographic order.

Any two listings of a resource with the same generation and the same sequence have the same records,
wherever in the run they are seen: shown by the monitor, kept by a subscription, or given as the
latest one, as a change or as an item. -/
theorem listings_move_forward {rate : Option UInt32} {before later : List Action} {name : String}
    (hkept : ∀ e ∈ ((start rate).actAll before).trace later, renews name e = false)
    (r : Resource) :
    let heard := ((start rate).actAll before).trace later
    (changes name r heard ++ (items name r heard).tail).Pairwise (·.stamp < ·.stamp) ∧
    (items name r heard).Pairwise (·.stamp < ·.stamp) ∧
    ∀ a ∈ (start rate).sightings r (before ++ later),
      ∀ b ∈ (start rate).sightings r (before ++ later),
        a.generation = b.generation → a.sequence = b.sequence → a.records = b.records := by
  intro heard
  have hinitial : (start rate).monitor.Lockstep := .initial rate
  obtain ⟨past, hbefore, -⟩ := exists_sightings_subset (.start rate r) hinitial before
  have hahead := ahead_trace hbefore (hinitial.leads (monitor_leads ((start rate).leads_actAll _)))
    hkept
  refine ⟨hahead.increase, hahead.increaseItems, ?_⟩
  obtain ⟨all, hall, hseen⟩ := exists_sightings_subset (.start rate r) hinitial (before ++ later)
  intro a ha b hb hgeneration hsequence
  rw [hall.slot.eq_of_stamp_eq (hseen ha) (hseen hb) (Snapshot.stamp_eq hgeneration hsequence)]

/-- A subscription is given the listing of a second connection after one of the first, although that
one has the higher sequence. The stream that it is turned into first gives what is current. -/
theorem listings_move_forward_over_two_connects :
    let before : List Action := [
      .subscriber (.subscribe "list" .channels),
      .connection (.connect "first" "http://[::1]"),
      .broker (.offer "feed" "[::1]" .channels), .settle]
    let later : List Action := [
      .broker (.send "feed" .channels []), .broker (.send "feed" .channels []), .settle,
      .subscriber (.changed "list"), .subscriber (.changed "list"),
      .connection (.connect "second" "http://[::1]"), .subscriber (.changed "list"),
      .subscriber (.intoStream "list"), .subscriber (.next "list"), .subscriber (.next "list"),
      .broker (.offer "feed" "[::1]" .channels), .settle,
      .broker (.send "feed" .channels []), .settle, .subscriber (.next "list")]
    let heard := ((start none).actAll before).trace later
    (changes "list" .channels heard).map (fun x => (x.generation.toNat, x.sequence)) =
      [(1, 2), (2, 0)] ∧
    (items "list" .channels heard).map (fun x => (x.generation.toNat, x.sequence)) =
      [(2, 0), (2, 1)] ∧
    (changes "list" .channels heard ++ (items "list" .channels heard).tail).Pairwise
      (·.stamp < ·.stamp) := by
  intro before later heard
  have hforward := @listings_move_forward none before later "list" (by decide +kernel) .channels
  exact ⟨by decide +kernel, by decide +kernel, hforward.1⟩

end Session

end BrokerMonitor
