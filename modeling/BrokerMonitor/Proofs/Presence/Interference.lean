import BrokerMonitor.Proofs.Observation.Coalesced
import BrokerMonitor.Proofs.Presence.Subscribers
/-!
# Subscribers do not interfere

Leave some subscribers out of a run: whoever joins as one of them does not join, and what would be
asked for them is not asked. Everything else that is done gets the same answers, those of the other
subscribers included, and leaves the monitor in the same state but for its observers.
-/

namespace BrokerMonitor

namespace Action

/-- The action is not done for anyone who is gone. -/
def stays (gone : Subscriber → Bool) : Action → Bool
  | .subscriber a => !gone a.subscriber
  | _ => true

/-- The action, marked as left out or not. -/
def marked (gone : Subscriber → Bool) (a : Action) : Action × Bool := (a, !a.stays gone)

end Action

/-! ### What is left of a run -/

/-- What is left of an action, if anything is. The mark tells whether who joins by it is left out;
what is done for a subscriber is left out with it, and so is the run of an observer's task. -/
def Absence.leaves (c : Absence) : Action × Bool → Option Action
  | (.subscriber a, out) =>
    if (if a.joins then out else c.gone a.subscriber) then none else some (.subscriber a)
  | (.run j, _) => (j.among? c.places).map .run
  | (a, _) => some a

namespace Session

/-- The actions of a run, with their answers and the monitor after each. -/
def record (s : Session) : List Action → List (Action × Answer × Monitor)
  | [] => []
  | a :: rest => (a, (s.act a).2, (s.act a).1.monitor.unobserved) :: (s.act a).1.record rest

/-- The actions that are left of a run, with the answers that they get in the whole run, and the
monitor after each. -/
def remaining (s : Session) (c : Absence) : List (Action × Bool) → List (Action × Answer × Monitor)
  | [] => []
  | e :: rest =>
    let later := (s.act e.1).1.remaining (c.after s e) rest
    match c.leaves e with
    | some a => (a, (s.act e.1).2, (s.act e.1).1.monitor.unobserved) :: later
    | none => later

variable {c : Absence} {s n : Session}

namespace Thins

/-- What is left of an action gets the same answer, and what is left out is missed by nobody. -/
theorem act (h : s.Thins c n) (hs : s.monitor.Reachable) (hn : n.monitor.Reachable)
    (hknown : s.Known) (e : Action × Bool) :
    match c.leaves e with
    | some a => Meets (c.after s e) (s.act e.1) (n.act a)
    | none => (s.act e.1).1.Thins (c.after s e) n := by
  have hlined := hs.attentive.lined
  obtain ⟨a, out⟩ := e
  cases a with
  | broker a => exact h.actBroker hlined a
  | connection a => exact h.actConnection hlined a
  | client a => exact h.actClient hlined a
  | subscriber a =>
      cases hout : (if a.joins then out else c.gone a.subscriber) with
      | true =>
          have hleaves : c.leaves (.subscriber a, out) = none := by simp [Absence.leaves, hout]
          rw [hleaves]
          exact h.actSubscriber_gone hs hn hout
      | false =>
          have hleaves : c.leaves (.subscriber a, out) = some (.subscriber a) := by
            simp [Absence.leaves, hout]
          rw [hleaves]
          exact h.actSubscriber hs hn hknown hout
  | run j =>
      cases hj : j.among? c.places with
      | none =>
          have hleaves : c.leaves (.run j, out) = none := by simp [Absence.leaves, hj]
          rw [hleaves]
          show (s.act (.run j)).1.Thins c n
          simp only [Session.act]
          split
          · exact { h with monitor := h.monitor.run_absent hlined hn.queued hj }
          · exact h
      | some j' =>
          have hleaves : c.leaves (.run j, out) = some (.run j') := by simp [Absence.leaves, hj]
          rw [hleaves]
          show Meets c (s.act (.run j)) (n.act (.run j'))
          simp only [Session.act, h.monitor.isReady_among hlined hj]
          split
          · exact ⟨h.with_monitor (h.monitor.run hlined hn.attentive.lined hj), rfl⟩
          · exact ⟨h, rfl⟩
  | settle => exact ⟨h.with_monitor (h.monitor.settle hs hn), rfl⟩

end Thins

theorem reachable_act (h : s.monitor.Reachable) (a : Action) : (s.act a).1.monitor.Reachable := by
  obtain ⟨rate, hm⟩ := h
  exact ⟨rate, hm.trans (s.monitor_leads_act a)⟩

theorem known_act (h : s.Known) (hm : s.monitor.Lined) (a : Action) : (s.act a).1.Known := by
  have hmore : s.monitor.observers.length ≤ (s.act a).1.monitor.observers.length :=
    length_observers_actAll_le hm [a]
  have hsame : (s.act a).1.observers = s.observers → (s.act a).1.Known := by
    intro heq name k hk
    rw [heq] at hk
    exact Nat.lt_of_lt_of_le (h name k hk) hmore
  have hasked : ∀ {α : Type} (roster : Roster α) (name : String) (f : α → Session × Answer),
      (∀ x, (f x).1.observers = s.observers) →
      (s.withNamed roster name f).1.observers = s.observers := by
    intro α roster name f hf
    exact s.withNamed_elim roster name f rfl fun x _ => hf x
  cases a with
  | broker a =>
      obtain ⟨_, _, _, _, _, hact⟩ := s.exists_actBroker_eq a
      exact hsame (by rw [Session.act, hact])
  | connection a => exact hsame (s.actConnection_elim a (fun _ _ => rfl) (fun _ _ _ _ _ _ => rfl)
      fun _ => rfl)
  | client a =>
      obtain ⟨_, _, _, hact⟩ := s.exists_actClient_eq a
      exact hsame (by rw [Session.act, hact])
  | subscriber a =>
      cases a with
      | observe name =>
          cases alive : s.monitor.alive with
          | false => exact hsame (by simp [Session.act, actSubscriber, alive])
          | true =>
              have hnames : (s.act (.subscriber (.observe name))).1.observers =
                  s.observers.put name s.monitor.observers.length := by
                simp [Session.act, actSubscriber, alive, Monitor.observe]
              have hlength : (s.act (.subscriber (.observe name))).1.monitor.observers.length =
                  s.monitor.observers.length + 1 := by
                simp [Session.act, actSubscriber, alive, Monitor.observe, Monitor.enqueueReady]
              intro other k hk
              rw [hnames, Roster.get?_put] at hk
              rw [hlength]
              split at hk
              · rw [← Option.some.inj hk]
                exact Nat.lt_succ_self _
              · exact Nat.lt_succ_of_lt (h other k hk)
      | watch name | subscribe name r =>
          refine hsame ?_
          simp only [Session.act, actSubscriber]
          split <;> rfl
      | seen name =>
          refine hsame (hasked s.observers name _ fun k => ?_)
          unfold Session.seen
          split <;> rfl
      | unobserve name => exact hsame (hasked s.observers name _ fun _ => rfl)
      | watched name => exact hsame (hasked s.watches name _ fun _ => rfl)
      | current name | latest name | changed name | intoStream name | next name =>
          exact hsame (hasked s.followers name _ fun f => by cases f <;> rfl)
  | run j | settle => exact hsame (by rw [act_of_runsTasks s rfl]; rfl)

theorem map_fst_record (s : Session) (run : List Action) : (s.record run).map (·.1) = run := by
  induction run generalizing s with
  | nil => rfl
  | cons a rest ih => exact congrArg (List.cons a) (ih _)

/-- What is left of a run has the record that it has within the whole run. -/
theorem record_remaining (h : s.Thins c n) (hs : s.monitor.Reachable) (hn : n.monitor.Reachable)
    (hknown : s.Known) (run : List (Action × Bool)) :
    n.record ((s.remaining c run).map (·.1)) = s.remaining c run := by
  induction run generalizing c s n with
  | nil => rfl
  | cons e rest ih =>
      have hact := h.act hs hn hknown e
      have hs' := reachable_act hs e.1
      have hknown' := known_act hknown hs.attentive.lined e.1
      simp only [remaining]
      cases hleaves : c.leaves e with
      | none =>
          rw [hleaves] at hact
          exact ih hact hs' hn hknown'
      | some a =>
          rw [hleaves] at hact
          obtain ⟨hthins, hanswer⟩ := hact
          have hlater := ih hthins hs' (reachable_act hn a) hknown'
          simp only [List.map_cons, record]
          rw [hlater, hanswer, hthins.monitor.unobserved_eq]

/-! ### Names that are left out -/

section Names

variable {gone : Subscriber → Bool}

theorem leaves_marked (hc : c.gone = gone) {a : Action} (ha : ∀ k, a ≠ .run (.observer k)) :
    c.leaves (a.marked gone) = if a.stays gone then some a else none := by
  subst hc
  cases a with
  | subscriber a => cases hgone : c.gone a.subscriber <;>
      simp [Action.marked, Action.stays, Absence.leaves, hgone]
  | run j =>
      cases j with
      | stream i => rfl
      | observer k => exact absurd rfl (ha k)
  | _ => rfl

theorem gone_after_marked (hc : c.gone = gone) (s : Session) (a : Action) :
    (c.after s (a.marked gone)).gone = gone := by
  have hmark : ∀ (d : Absence) (x : Subscriber), d.gone = gone →
      (d.mark x (gone x)).gone = gone := by
    rintro d x rfl
    rw [Absence.mark_eq_self rfl]
  cases a with
  | subscriber a =>
      rw [Action.marked, Action.stays, Bool.not_not]
      cases a with
      | observe name =>
          simp only [Absence.after]
          split
          · apply hmark _ (.observer name)
            split <;> exact hc
          · exact hc
      | _ =>
          simp only [Absence.after]
          split
          · exact hmark c _ hc
          · exact hc
  | _ => exact hc

/-- Where no observer's task is run by itself, nothing has to be renumbered: what is left is the run
without what is done for those who are left out. -/
theorem remaining_marked (hc : c.gone = gone) {run : List Action}
    (hrun : ∀ a ∈ run, ∀ k, a ≠ .run (.observer k)) :
    s.remaining c (run.map (·.marked gone)) =
      (s.record run).filter (·.1.stays gone) := by
  induction run generalizing c s with
  | nil => rfl
  | cons a rest ih =>
      obtain ⟨ha, hrest⟩ := List.forall_mem_cons.mp hrun
      have hlater := @ih _ (s.act a).1 (gone_after_marked hc s a) hrest
      rw [List.map_cons, remaining, leaves_marked hc ha, record, List.filter_cons]
      cases a.stays gone with
      | true => exact congrArg (List.cons _) hlater
      | false => exact hlater

end Names

/-- Subscribers do not interfere. Take any run of a session, and leave out any of those who join in
it to look at the status or at the listings, or all of them: they do not join, nothing is asked for
them, and no task of theirs is run. What is left of the run is known by new numbers where an
observer's task is run by itself. Carried out alone, all of it gets the answers that it gets within
the whole run, those of the other subscribers included. And after each action the monitor is the
same but for its observers: the status, the connection and the listings, all that was requested and
sent, and the tasks with what they have reported and how they have ended.

Whoever is left out may as well be given by name, where no observer's task is run by itself. -/
theorem subscribers_do_not_interfere (rate : Option UInt32) (gone : Subscriber → Bool) :
    (∀ run : List (Action × Bool),
      let left := (start rate).remaining ⟨gone, []⟩ run
      (start rate).record (left.map (·.1)) = left) ∧
    ∀ run : List Action, (∀ a ∈ run, ∀ k, a ≠ .run (.observer k)) →
      (start rate).record (run.filter (·.stays gone)) =
        ((start rate).record run).filter (·.1.stays gone) := by
  have hmarked : ∀ run : List (Action × Bool),
      (start rate).record (((start rate).remaining ⟨gone, []⟩ run).map (·.1)) =
        (start rate).remaining ⟨gone, []⟩ run :=
    record_remaining (.start rate gone) ⟨rate, .refl⟩ ⟨rate, .refl⟩ (fun _ _ h => nomatch h)
  refine ⟨hmarked, fun run hrun => ?_⟩
  have hleft : (start rate).remaining ⟨gone, []⟩ (run.map (·.marked gone)) =
      ((start rate).record run).filter (·.1.stays gone) := remaining_marked rfl hrun
  have hactions : (((start rate).record run).filter (·.1.stays gone)).map (·.1) =
      run.filter (·.stays gone) := by
    have hall := map_fst_record (start rate) run
    conv_rhs => rw [← hall, List.filter_map]
    rfl
  have hrecord := hmarked (run.map (·.marked gone))
  rwa [hleft, hactions] at hrecord

/-- One of two observers is left out, and the one who follows the channels. The other observer hears
all that it hears beside them. -/
theorem subscribers_do_not_interfere_with_an_observer :
    let gone : Subscriber → Bool := fun x => x == .observer "a" || x == .follower "a"
    let run : List Action := [
      .subscriber (.observe "a"), .subscriber (.subscribe "a" .channels),
      .subscriber (.observe "b"), .broker (.offer "feed" "[::1]" .channels),
      .connection (.connect "first" "http://[::1]"), .settle,
      .broker (.send "feed" .channels [{ topic := "news" }]), .settle,
      .subscriber (.seen "a"), .subscriber (.changed "a"), .subscriber (.seen "b")]
    let left := (start none).record (run.filter (·.stays gone))
    left.map (·.2.2.status.streams.get? .channels) = [some .idle, some .idle, some .idle,
      some .connecting, some .connecting, some .streaming, some .streaming] ∧
    left.filterMap (fun e => match e.2.1 with
      | .seen heard _ => some (heard.map (·.streams.get? .channels))
      | _ => none) =
      [[some .idle, some .idle, some .connecting, some .connecting, some .streaming]] := by
  intro gone run left
  have hleft : left = ((start none).record run).filter (·.1.stays gone) :=
    (subscribers_do_not_interfere none gone).2 run (by simp [run])
  rw [hleft]
  constructor
  · decide +kernel
  · decide +kernel

end Session

end BrokerMonitor
