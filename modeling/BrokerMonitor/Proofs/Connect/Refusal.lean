import BrokerMonitor.Proofs.Run.Turn
import BrokerMonitor.Proofs.Steps
/-!
# Waiting refusals

A refusal waits for the next connect whose text is an endpoint, and nothing else looks at it. So it
commutes with every other action, task runs included: with another refusal waiting, or with none,
an action gives the same answer and leaves the same session but for the refusal.
-/

namespace BrokerMonitor

namespace Monitor

/-- The monitor with another refusal waiting, or none. -/
def withRefusal (m : Monitor) (r : Option StreamError) : Monitor := { m with refusal := r }

variable (m : Monitor) (r : Option StreamError)

theorem tell_withRefusal (i : Nat) (audience : Audience) (reports : List Report) :
    (m.withRefusal r).tell i audience reports = (m.tell i audience reports).withRefusal r := by
  cases audience <;> rfl

theorem reportFor_withRefusal (i : Nat) (t : StreamTask) (s : StreamStatus) :
    (m.withRefusal r).reportFor i t s = (m.reportFor i t s).withRefusal r :=
  tell_withRefusal { m with
    tasks := m.tasks.modify i fun u => { u with reporter := (t.reporter.report s).1 } } r i
      t.audience (t.reporter.report s).2.toList

theorem finish_withRefusal (i : Nat) (t : StreamTask) (outcome : Option Outcome) :
    (m.withRefusal r).finish i t outcome = (m.finish i t outcome).withRefusal r := by
  unfold finish releaseFeed
  split <;> rfl

theorem openStream_withRefusal (i : Nat) (t : StreamTask) (h : Handle) :
    (m.withRefusal r).openStream i t h = (m.openStream i t h).withRefusal r := rfl

theorem readFeed_withRefusal (i : Nat) (t : StreamTask) (place : Nat) :
    (m.withRefusal r).readFeed i t place = (m.readFeed i t place).withRefusal r := by
  have hfeeds : (m.withRefusal r).feeds = m.feeds := rfl
  unfold readFeed
  rw [hfeeds]
  cases (m.feeds.get t.resource)[place]? with
  | none => rfl
  | some feed =>
      generalize hread : Reading.consume t.generation feed.closed feed.pending
        ⟨m.store.get t.resource, t.reporter, [], t.accepted⟩ = read
      obtain ⟨reading, outcome⟩ := read
      let n : Monitor := { m with
        store := m.store.set t.resource reading.slot
        feeds := m.feeds.modify t.resource fun fs => fs.modify place (·.drain)
        tasks := m.tasks.modify i fun u =>
          { u with reporter := reading.reporter, accepted := reading.accepted } }
      have htell := n.tell_withRefusal r i t.audience reading.reports
      cases outcome with
      | none =>
          simp only [withRefusal] at htell ⊢
          rw [hread]
          exact htell
      | some outcome =>
          have hfinish := (n.tell i t.audience reading.reports).finish_withRefusal r i t
            (some outcome)
          rw [← htell] at hfinish
          simp only [withRefusal] at hfinish ⊢
          rw [hread]
          exact hfinish

theorem continueStream_withRefusal (i : Nat) :
    (m.withRefusal r).continueStream i = (m.continueStream i).withRefusal r := by
  have htasks : (m.withRefusal r).tasks = m.tasks := rfl
  unfold continueStream
  rw [htasks]
  cases m.tasks[i]? with
  | none => rfl
  | some t =>
      dsimp only
      split
      · exact m.finish_withRefusal r i t _
      · split
        · rfl
        · exact m.readFeed_withRefusal r i t _

theorem runStream_withRefusal (i : Nat) :
    (m.withRefusal r).runStream i = (m.runStream i).withRefusal r := by
  have htasks : (m.withRefusal r).tasks = m.tasks := rfl
  unfold runStream
  rw [htasks]
  cases m.tasks[i]? with
  | none => rfl
  | some t =>
      dsimp only
      split
      · rfl
      split
      · exact m.finish_withRefusal r i t none
      split
      · cases t.target with
        | none =>
            dsimp only
            rw [reportFor_withRefusal, finish_withRefusal]
        | some h =>
            dsimp only
            rw [reportFor_withRefusal, openStream_withRefusal, continueStream_withRefusal]
      · exact m.continueStream_withRefusal r i

theorem runObserver_withRefusal (i : Nat) :
    (m.withRefusal r).runObserver i = (m.runObserver i).withRefusal r := by
  have hobservers : (m.withRefusal r).observers = m.observers := rfl
  unfold runObserver
  rw [hobservers]
  cases m.observers[i]? with
  | none => rfl
  | some o =>
      dsimp only
      split
      · rfl
      split <;> rfl

theorem run_withRefusal (j : Job) : (m.withRefusal r).run j = (m.run j).withRefusal r := by
  cases j with
  | stream i =>
      exact congrArg enqueueReady
        (runStream_withRefusal { m with queue := m.queue.erase (.stream i) } r i)
  | observer i =>
      exact congrArg enqueueReady
        (runObserver_withRefusal { m with queue := m.queue.erase (.observer i) } r i)

theorem settleWithin_withRefusal (runs : Nat) :
    (m.withRefusal r).settleWithin runs = (m.settleWithin runs).withRefusal r := by
  induction runs generalizing m with
  | zero => rfl
  | succ runs ih =>
      have hqueue : (m.withRefusal r).queue = m.queue := rfl
      unfold settleWithin
      rw [hqueue]
      cases m.queue with
      | nil => rfl
      | cons j rest =>
          dsimp only
          rw [run_withRefusal, ih]

end Monitor

/-- The action asks for a transport: it connects to a text that is an endpoint. -/
def Action.asksTransport : Action → Bool
  | .connection (.connect _ url) => (Endpoint.parse url).isOk
  | _ => false

/-- The action makes a refusal wait for the next connect that asks for a transport. -/
def Action.isRefusal : Action → Bool
  | .broker (.refuse _) => true
  | _ => false

theorem Action.eq_refuse {a : Action} (h : a.isRefusal = true) : ∃ e, a = .broker (.refuse e) := by
  unfold isRefusal at h
  split at h
  · next e => exact ⟨e, rfl⟩
  · cases h

namespace Session

/-- The session with another refusal waiting, or none. -/
def withRefusal (s : Session) (r : Option StreamError) : Session :=
  { s with monitor := s.monitor.withRefusal r }

/-- What an action gives, with another refusal waiting after it. -/
def holding (r : Option StreamError) (given : Session × Answer) : Session × Answer :=
  (given.1.withRefusal r, given.2)

variable (s : Session) (r : Option StreamError)

theorem ite_holding {c : Prop} [Decidable c] {x y x' y' : Session × Answer}
    (hx : x' = holding r x) (hy : y' = holding r y) :
    (if c then x' else y') = holding r (if c then x else y) := by
  split
  · exact hx
  · exact hy

theorem withNamed_holding {α : Type} (roster : Roster α) (name : String)
    {k k' : α → Session × Answer} (h : ∀ a, k' a = holding r (k a)) :
    (s.withRefusal r).withNamed roster name k' = holding r (s.withNamed roster name k) := by
  unfold withNamed
  split
  · exact h _
  · rfl

theorem actBroker_withRefusal {a : BrokerAction} (h : (Action.broker a).isRefusal = false) :
    (s.withRefusal r).actBroker a = holding r (s.actBroker a) := by
  cases a with
  | offer name host kind =>
      have hfeeds : (s.withRefusal r).feeds = s.feeds := rfl
      cases hold : s.feeds.get? name <;> simp only [actBroker, offer, hfeeds, hold] <;> rfl
  | send name kind message =>
      refine s.withNamed_holding r s.feeds name fun id => ?_
      by_cases hkind : kind = id.resource
      · simp only [dif_pos hkind]
        rfl
      · simp only [dif_neg hkind]
        rfl
  | fail name e | isAbandoned name => exact s.withNamed_holding r s.feeds name fun _ => rfl
  | close name =>
      have hfeeds : (s.withRefusal r).feeds = s.feeds := rfl
      cases hold : s.feeds.get? name <;> simp only [actBroker, hfeeds, hold] <;> rfl
  | refuse e => cases h
  | requests => rfl

theorem actConnection_withRefusal {a : ConnectionAction}
    (h : (Action.connection a).asksTransport = false) :
    (s.withRefusal r).actConnection a = holding r (s.actConnection a) := by
  cases a with
  | connect name url =>
      cases hparse : Endpoint.parse url with
      | error e =>
          refine ite_holding r ?_ rfl
          simp only [connect, Monitor.connect, hparse]
          rfl
      | ok endpoint => simp [Action.asksTransport, hparse, Except.isOk, Except.toBool] at h
  | shutdown =>
      refine ite_holding r ?_ rfl
      have hgeneration : (s.withRefusal r).monitor.generation = s.monitor.generation := rfl
      cases hg : s.monitor.generation.next? <;>
        simp only [Monitor.shutdown?, hgeneration, hg] <;> rfl
  | isSame a b =>
      have hhandles : (s.withRefusal r).handles = s.handles := rfl
      simp only [actConnection, hhandles]
      split <;> rfl
  | drop => exact ite_holding r rfl rfl

theorem actSubscriber_withRefusal (a : SubscriberAction) :
    (s.withRefusal r).actSubscriber a = holding r (s.actSubscriber a) := by
  cases a with
  | observe name | watch name | subscribe name kind => exact ite_holding r rfl rfl
  | seen name =>
      refine s.withNamed_holding r s.observers name fun i => ?_
      have hobservers : (s.withRefusal r).monitor.observers = s.monitor.observers := rfl
      cases ho : s.monitor.observers[i]? <;> simp only [seen, hobservers, ho] <;> rfl
  | unobserve name => exact s.withNamed_holding r s.observers name fun _ => rfl
  | watched name => exact s.withNamed_holding r s.watches name fun _ => rfl
  | current name | latest name | changed name | intoStream name | next name =>
      exact s.withNamed_holding r s.followers name fun f => by cases f <;> rfl

theorem actClient_withRefusal (a : ClientAction) :
    (s.withRefusal r).actClient a = holding r (s.actClient a) := by
  cases a with
  | startOver name kind handle =>
      refine ite_holding r ?_ rfl
      have hhandles : (s.withRefusal r).handles = s.handles := rfl
      cases hh : s.handles.get? handle <;> simp only [hhandles, hh] <;> rfl
  | startDetached name kind g => exact ite_holding r rfl rfl
  | cancel name => exact s.withNamed_holding r s.clients name fun _ => rfl
  | state name =>
      refine s.withNamed_holding r s.clients name fun i => ?_
      have htasks : (s.withRefusal r).monitor.tasks = s.monitor.tasks := rfl
      cases ht : s.monitor.tasks[i]? <;> simp only [clientState, htasks, ht] <;> rfl

/-- No action looks at a waiting refusal unless it asks for a transport, and none touches it unless
it is a refusal itself. -/
theorem act_withRefusal {a : Action} (hasks : a.asksTransport = false)
    (hrefusal : a.isRefusal = false) : (s.withRefusal r).act a = holding r (s.act a) := by
  cases a with
  | broker a => exact s.actBroker_withRefusal r hrefusal
  | connection a => exact s.actConnection_withRefusal r hasks
  | subscriber a => exact s.actSubscriber_withRefusal r a
  | client a => exact s.actClient_withRefusal r a
  | run j =>
      refine ite_holding r ?_ rfl
      exact congrArg (fun m => ({ s with monitor := m }, Answer.done))
        (s.monitor.run_withRefusal r j)
  | settle =>
      exact congrArg (fun m => ({ s with monitor := m }, Answer.done))
        (s.monitor.settleWithin_withRefusal r s.monitor.settleBound)

end Session

end BrokerMonitor
