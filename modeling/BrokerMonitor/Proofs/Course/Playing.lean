import BrokerMonitor.Proofs.Course.Attending
import BrokerMonitor.Proofs.Course.Timeline
/-!
# Playing a scenario

A monitor that has just connected goes through the states of a course. Each of them has settled, and
the task of each resource has taken what has happened on its stream up to the state's time. So the
slot of a resource shows the last message up to then that no failure and no end came before.
-/

namespace BrokerMonitor

namespace Monitor

variable {m m' : Monitor} {h : Handle} {i : Nat} {id : FeedId}
  {given : List (StreamEvent id.resource)}

/-- The monitor has connected, and was neither shut down nor dropped since. -/
structure Serves (m : Monitor) (h : Handle) : Prop where
  clientless : m.Clientless
  alive : m.alive = true
  epoch : m.epoch = (h.generation, some h)

namespace Serves

theorem generation (hm : m.Serves h) : m.generation = h.generation := congrArg Prod.fst hm.epoch

theorem run (hm : m.Serves h) (j : Job) : (m.run j).Serves h where
  clientless := hm.clientless.run j
  alive := by
    obtain ⟨_, _, _, _, _, _, _, hrun⟩ := m.exists_run_eq j
    rw [hrun]
    exact hm.alive
  epoch := (m.epoch_run j).trans hm.epoch

theorem settle (hm : m.Serves h) : m.settle.Serves h := by
  have hall : ∀ (js : List Job) {m : Monitor}, m.Serves h → (m.runAll js).Serves h := by
    intro js
    induction js with
    | nil => exact id
    | cons j js ih => exact fun hm => ih (hm.run j)
  rw [Monitor.settle, settleWithin_eq_runAll]
  exact hall _ hm

end Serves

/-- The monitor has settled, and the task at a place has taken all that was put into the feed. -/
structure CaughtUp (m : Monitor) (i : Nat) (id : FeedId) (given : List (StreamEvent id.resource)) :
    Prop where
  idle : ∀ j, m.isReady j = false
  follows : ∃ t, m.tasks[i]? = some t ∧ t.aborted = false ∧ m.Follows t id given

namespace CaughtUp

theorem snapshot (h : m.CaughtUp i id given) :
    m.snapshot id.resource = .after m.generation (StreamEvent.messages given) := by
  obtain ⟨t, ht, -, hfollows⟩ := h.follows
  exact hfollows.snapshot_eq ht (h.idle _)

theorem attends (h : m.CaughtUp i id given) : m.Attends i id given := by
  obtain ⟨t, ht, haborted, hfollows⟩ := h.follows
  exact ⟨t, ht, haborted, .inr hfollows⟩

theorem receptive (h : m.CaughtUp i id given) : m.Receptive i id := by
  obtain ⟨t, ht, -, hfollows⟩ := h.follows
  exact hfollows.receptive ht (h.idle _)

end CaughtUp

end Monitor

namespace Scenario

open Monitor

variable {m : Monitor} {h : Handle} {events : EachResource StreamEvents}
  {places : EachResource fun _ => Nat} {i : Nat} {id : FeedId}

/-! ### One time after the other -/

theorem serves_deliver {r : Resource} {place : Nat} (hm : m.Serves h)
    (es : List (StreamEvent r)) : (deliver r place m es).Serves h := by
  have hclientless : (deliver r place m es).Clientless := clientless_deliver hm.clientless es
  obtain ⟨_, _, hdeliver⟩ := exists_deliver_eq r place m es
  rw [hdeliver] at hclientless ⊢
  exact ⟨hclientless, hm.alive, hm.epoch⟩

theorem serves_happen (hm : m.Serves h) (time : Nat) : (happen events places time m).Serves h :=
  (serves_deliver (serves_deliver hm _) _).settle

theorem leads_happen (events : EachResource StreamEvents) (places : EachResource fun _ => Nat)
    (time : Nat) (m : Monitor) : m.Leads (happen events places time m) :=
  ((leads_deliver _ _ _ _).trans (leads_deliver _ _ _ _)).trans (leads_settleWithin _ _)

@[simp] theorem map_time_statesAfter (events : EachResource StreamEvents)
    (places : EachResource fun _ => Nat) (ts : List Nat) (m : Monitor) :
    (statesAfter events places ts m).map (·.time) = ts := by
  induction ts generalizing m with
  | nil => rfl
  | cons t ts ih => exact congrArg (t :: ·) (ih _)

/-- The monitor serves the handle in every state. -/
theorem serves_statesAfter (ts : List Nat) (hm : m.Serves h) {state : Timed Monitor}
    (hstate : state ∈ statesAfter events places ts m) : state.value.Serves h := by
  induction ts generalizing m with
  | nil => cases hstate
  | cons t ts ih =>
      rcases List.mem_cons.mp hstate with rfl | hlater
      · exact serves_happen hm t
      · exact ih (serves_happen hm t) hlater

/-- Each state comes from those before. -/
theorem leads_statesAfter (events : EachResource StreamEvents)
    (places : EachResource fun _ => Nat) (ts : List Nat) (m : Monitor) :
    (m :: (statesAfter events places ts m).map (·.value)).Pairwise Monitor.Leads := by
  induction ts generalizing m with
  | nil => exact List.pairwise_singleton _ _
  | cons t ts ih =>
      have hrest := ih (happen events places t m)
      refine .cons (fun n hn => ?_) hrest
      have hfirst := leads_happen events places t m
      rcases List.mem_cons.mp hn with rfl | hlater
      · exact hfirst
      · exact hfirst.trans ((List.pairwise_cons.mp hrest).1 n hlater)

/-- At each of some ascending times the task has taken what has happened so far, if it had taken
what happened before the first of them, and if they include all times still to come. -/
theorem caughtUp_statesAfter (hplace : places.get id.resource = id.place)
    (hordered : (events.get id.resource).Pairwise (·.time ≤ ·.time)) {ts : List Nat}
    (hts : ts.Pairwise (· < ·)) (hm : m.Clientless) (hreceptive : m.Receptive i id)
    (hattends : ∀ t rest, ts = t :: rest →
      m.Attends i id (Timed.earlier t (events.get id.resource)))
    (hcover : ∀ e ∈ events.get id.resource, e.time ∈ ts ∨ ∀ t ∈ ts, e.time < t)
    {state : Timed Monitor} (hstate : state ∈ statesAfter events places ts m) :
    state.value.CaughtUp i id (Timed.upTo state.time (events.get id.resource)) := by
  induction ts generalizing m with
  | nil => cases hstate
  | cons t ts ih =>
      obtain ⟨hfirst, hrest⟩ := List.pairwise_cons.mp hts
      have hnext : (happen events places t m).Clientless := clientless_happen hm events places t
      have hcaught : (happen events places t m).CaughtUp i id
          (Timed.upTo t (events.get id.resource)) := by
        obtain ⟨u, hu, haborted, hfollows, -⟩ :=
          attends_happen (hattends t ts rfl) hm hreceptive events hplace t
        rw [now, Timed.earlier_append hordered] at hfollows
        refine ⟨?_, u, hu, haborted, hfollows⟩
        exact (clientless_deliver (clientless_deliver hm _) _).reachable.atRest_settle.idle
      rcases List.mem_cons.mp hstate with rfl | hlater
      · exact hcaught
      · refine ih hrest hnext hcaught.receptive ?_ ?_ hlater
        · rintro t' rest rfl
          have hgap : Timed.earlier t' (events.get id.resource) =
              Timed.upTo t (events.get id.resource) := by
            refine Timed.earlier_eq_upTo (hfirst t' List.mem_cons_self) fun e he => ?_
            rcases hcover e he with hmem | hbefore
            · rcases List.mem_cons.mp hmem with heq | hmem
              · exact .inl (Nat.le_of_eq heq)
              · rcases List.mem_cons.mp hmem with heq | hmem
                · exact .inr (Nat.le_of_eq heq.symm)
                · exact .inr (Nat.le_of_lt ((List.pairwise_cons.mp hrest).1 _ hmem))
            · exact .inl (Nat.le_of_lt (hbefore t List.mem_cons_self))
          rw [hgap]
          exact hcaught.attends
        · intro e he
          rcases hcover e he with hmem | hbefore
          · rcases List.mem_cons.mp hmem with heq | hmem
            · exact .inr fun t' ht' => heq ▸ hfirst t' ht'
            · exact .inl hmem
          · exact .inr fun t' ht' => hbefore t' (List.mem_cons_of_mem _ ht')

/-! ### From the connect on -/

/-- The handle of a monitor's first connect. -/
abbrev firstHandle (e : Endpoint) : Handle := ⟨⟨1⟩, e⟩

/-- A monitor right after its first connect. -/
abbrev joined (rate : Option UInt32) (e : Endpoint) : Monitor :=
  (Monitor.initial rate).attach ⟨1⟩ (some (firstHandle e))

/-- The course of a monitor whose first connect was to an endpoint. -/
abbrev course (s : Scenario) (rate : Option UInt32) (e : Endpoint) : Course :=
  s.play (joined rate e) (firstHandle e)

variable (s : Scenario) (rate : Option UInt32) (e : Endpoint)

theorem serves_start : (s.course rate e).start.Serves (firstHandle e) where
  clientless := by
    have hattach : (Monitor.initial rate).Step (joined rate e) := by
      refine .attach rfl ?_ rfl
      rintro k ⟨⟩
      rfl
    refine ⟨⟨rate, ?_⟩, ?_, ?_⟩
    · exact ((Relation.ReflTransGen.single hattach).tail (.offer _ _ _)).tail (.offer _ _ _)
    · intro t ht
      rcases List.mem_cons.mp ht with rfl | ht
      · rfl
      · obtain rfl := List.mem_singleton.mp ht
        rfl
    · intro t ht hcancelled
      rcases List.mem_cons.mp ht with rfl | ht
      · cases hcancelled
      · obtain rfl := List.mem_singleton.mp ht
        cases hcancelled
  alive := rfl
  epoch := rfl

/-- Each of the two tasks finds a feed, in which there is nothing yet. -/
theorem attends_start (r : Resource) : ∃ i, (s.course rate e).start.Attends i ⟨r, 0⟩ [] ∧
    (s.course rate e).start.Receptive i ⟨r, 0⟩ := by
  have hoffered : Feeds.offered? (r := r) [{ host := e.host }] e.host = some 0 := by
    simp [Feeds.offered?, Feed.isOffered]
  cases r with
  | channels =>
      refine ⟨0, ⟨_, rfl, rfl, .inl ⟨?_, _, rfl, rfl⟩⟩, .inl ⟨_, rfl, rfl⟩⟩
      exact opens_eq_true_iff.mpr ⟨rfl, rfl, hoffered⟩
  | adapters =>
      refine ⟨1, ⟨_, rfl, rfl, .inl ⟨?_, _, rfl, rfl⟩⟩, .inl ⟨_, rfl, rfl⟩⟩
      exact opens_eq_true_iff.mpr ⟨rfl, rfl, hoffered⟩

@[simp] theorem snapshot_start (r : Resource) :
    (s.course rate e).start.snapshot r = .empty ⟨1⟩ := by
  cases r <;> rfl

theorem later_course : (s.course rate e).later =
    statesAfter (s.events (rate.getD 0)) ⟨0, 0⟩ (times (s.events (rate.getD 0)))
      (s.course rate e).start := rfl

@[simp] theorem map_time_later :
    (s.course rate e).later.map (·.time) = times (s.events (rate.getD 0)) := by
  rw [later_course, map_time_statesAfter]

/-- The monitor serves the handle all along. -/
theorem serves_course {state : Timed Monitor} (hstate : state ∈ (s.course rate e).states) :
    state.value.Serves (firstHandle e) := by
  rcases List.mem_cons.mp hstate with rfl | hlater
  · exact s.serves_start rate e
  · exact serves_statesAfter _ (s.serves_start rate e) hlater

theorem leads_course :
    (s.course rate e).states.Pairwise fun first later => first.value.Leads later.value := by
  have hvalues := leads_statesAfter (s.events (rate.getD 0)) ⟨0, 0⟩
    (times (s.events (rate.getD 0))) (s.course rate e).start
  have hstates : (s.course rate e).states.map (·.value) =
      (s.course rate e).start :: (s.course rate e).later.map (·.value) := rfl
  rw [← later_course, ← hstates, List.pairwise_map] at hvalues
  exact hvalues

/-- In each state after the start the task of a resource has taken all that has happened on its
stream. -/
theorem caughtUp_course (r : Resource) : ∃ i, ∀ state ∈ (s.course rate e).later,
    state.value.CaughtUp i ⟨r, 0⟩ (Timed.upTo state.time ((s.events (rate.getD 0)).get r)) := by
  obtain ⟨i, hattends, hreceptive⟩ := s.attends_start rate e r
  refine ⟨i, fun state hstate => ?_⟩
  refine caughtUp_statesAfter ?_ (s.pairwise_events _ r)
    (ascending_times (s.events (rate.getD 0))).1 (s.serves_start rate e).clientless hreceptive ?_
    (fun e he => .inl (time_mem_times he)) hstate
  · cases r <;> rfl
  · intro t rest htimes
    have hfirst : t = 0 := by
      have hzero : 0 ∈ times (s.events (rate.getD 0)) :=
        ((ascending_times _).2 0).mpr List.mem_cons_self
      have hascending := (ascending_times (s.events (rate.getD 0))).1
      rw [htimes] at hzero hascending
      rcases List.mem_cons.mp hzero with hzero | hzero
      · exact hzero.symm
      · exact absurd ((List.pairwise_cons.mp hascending).1 0 hzero) (Nat.not_lt_zero t)
    rwa [hfirst, Timed.earlier_zero]

/-- So its slot shows the last message so far. -/
theorem snapshot_course (r : Resource) {state : Timed Monitor}
    (hstate : state ∈ (s.course rate e).later) :
    state.value.snapshot r = .after ⟨1⟩
      (StreamEvent.messages (Timed.upTo state.time ((s.events (rate.getD 0)).get r))) := by
  obtain ⟨i, hcaught⟩ := s.caughtUp_course rate e r
  have hgeneration : state.value.generation = ⟨1⟩ :=
    (s.serves_course rate e (List.mem_cons_of_mem _ hstate)).generation
  rw [← hgeneration]
  exact (hcaught state hstate).snapshot

end Scenario

end BrokerMonitor
