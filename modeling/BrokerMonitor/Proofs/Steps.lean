import Mathlib.Logic.Relation
import BrokerMonitor.Monitor.Session
/-!
# Steps of a monitor and of a session

`Monitor.Step` lists everything that can happen to a monitor at once: what the broker does, the
opening of a generation, what observers and clients ask for, and the run of one task. `Leads` is any
number of steps. Law after law is proved for one step and carried to `Leads` by induction.

A session takes a step with each action, and with each single run of a task, as `settle` makes them.
`monitor_leads` says that the monitor in a session moves only by its own steps, so that a law of
monitors holds in every state that a session leads to, also between two runs inside `settle`.
-/

namespace BrokerMonitor

namespace Monitor

/-- What can happen to a monitor at once. -/
inductive Step : Monitor → Monitor → Prop
  | offer (m : Monitor) (r : Resource) (host : String) : Step m (m.offer r host).1
  | send (m : Monitor) (id : FeedId) (item : id.resource.Item) : Step m (m.send id item).1
  | close (m : Monitor) (id : FeedId) : Step m (m.close id)
  | refuse (m : Monitor) (e : StreamError) : Step m (m.refuse e)
  /-- A connect meets the refusal that was waiting for it. -/
  | meetRefusal (m : Monitor) : Step m { m with refusal := none }
  | readRequests (m : Monitor) : Step m { m with requests := m.requests.read.1 }
  /-- A connect or a shutdown opens the next generation. -/
  | attach {m : Monitor} {g : Generation} {h : Option Handle} (hg : m.generation.next? = some g)
      (hh : ∀ k, h = some k → k.generation = g) (alive : m.alive = true) : Step m (m.attach g h)
  | drop (m : Monitor) : Step m m.drop
  | observe (m : Monitor) : Step m m.observe.1
  | unobserve (m : Monitor) (i : Nat) : Step m (m.unobserve i)
  /-- Somebody asks what an observer has heard. -/
  | readHeard {m : Monitor} {i : Nat} {o : Observer} (ho : m.observers[i]? = some o) :
      Step m { m with observers := m.observers.set i { o with heard := o.heard.read.1 } }
  | startOver (m : Monitor) (r : Resource) (h : Handle) (alive : m.alive = true) :
      Step m (m.startClient (m.clientTask r h)).1
  | startDetached (m : Monitor) (r : Resource) (g : Generation) (alive : m.alive = true) :
      Step m (m.startClient (.detached r g .log)).1
  /-- Somebody asks what a client has reported. -/
  | readLog {m : Monitor} {i : Nat} {t : StreamTask} (ht : m.tasks[i]? = some t) :
      Step m { m with tasks := m.tasks.set i { t with log := t.log.read.1 } }
  | cancel (m : Monitor) (i : Nat) : Step m (m.cancel i)
  | run (m : Monitor) (j : Job) : Step m (m.run j)

/-- Any number of steps. -/
abbrev Leads : Monitor → Monitor → Prop := Relation.ReflTransGen Step

theorem leads_settleWithin (m : Monitor) (runs : Nat) : m.Leads (m.settleWithin runs) := by
  induction runs generalizing m with
  | zero => exact .refl
  | succ runs ih =>
      unfold settleWithin
      split
      · exact .refl
      · exact .head (.run m _) (ih _)

/-- A connect changes nothing, or uses up a refusal, or opens the next generation with a handle. -/
theorem connect_cases (m : Monitor) (url : String) :
    (∃ e, m.connect url = (m, .error e)) ∨
    (∃ e, m.connect url = ({ m with refusal := none }, .error e)) ∨
    m.connect url = (m, .exhausted) ∨
    ∃ g endpoint, m.generation.next? = some g ∧ Endpoint.parse url = .ok endpoint ∧
      m.connect url = (m.attach g (some ⟨g, endpoint⟩), .ok ⟨g, endpoint⟩) := by
  unfold connect
  split
  · exact .inl ⟨_, rfl⟩
  · next endpoint hparse =>
      split
      · exact .inr (.inl ⟨_, rfl⟩)
      · split
        · exact .inr (.inr (.inl rfl))
        · next g hg => exact .inr (.inr (.inr ⟨g, endpoint, hg, hparse, rfl⟩))

theorem leads_connect {m : Monitor} (alive : m.alive = true) (url : String) :
    m.Leads (m.connect url).1 := by
  rcases connect_cases m url with ⟨e, h⟩ | ⟨e, h⟩ | h | ⟨g, endpoint, hg, -, h⟩ <;> rw [h]
  · exact .single (.meetRefusal m)
  · exact .single (.attach hg (by rintro k ⟨⟩; rfl) alive)

end Monitor

namespace Session

/-- Runs one task. -/
def runTask (s : Session) (j : Job) : Session := { s with monitor := s.monitor.run j }

/-- A session moves by an action, or by one run of a task. -/
inductive Step : Session → Session → Prop
  | act (s : Session) (a : Action) : Step s (s.act a).1
  | runTask (s : Session) (j : Job) : Step s (s.runTask j)

/-- Any number of steps. -/
abbrev Leads : Session → Session → Prop := Relation.ReflTransGen Step

theorem leads_actAll (s : Session) (actions : List Action) : s.Leads (s.actAll actions) := by
  induction actions generalizing s with
  | nil => exact .refl
  | cons a rest ih => exact .head (.act s a) (ih _)

/-- What holds of a missing name, and of whatever is done with a thing that is there. -/
@[elab_as_elim]
theorem withNamed_elim {α : Type} {motive : Session × Answer → Prop} (s : Session)
    (roster : Roster α) (name : String) (k : α → Session × Answer)
    (missing : motive (s, .missing .name))
    (named : ∀ a, roster.get? name = some a → motive (k a)) :
    motive (s.withNamed roster name k) := by
  unfold withNamed
  split
  · next a h => exact named a h
  · exact missing

theorem leads_actBroker (s : Session) (a : BrokerAction) :
    s.monitor.Leads (s.actBroker a).1.monitor := by
  cases a with
  | offer name host r =>
      have first : s.monitor.Leads (s.monitor.offer r host).1 := .single (.offer _ r host)
      simp only [actBroker, offer]
      split
      · exact first.tail (.close _ _)
      · exact first
  | send name r message =>
      simp only [actBroker]
      refine s.withNamed_elim s.feeds name _ .refl fun id _ => ?_
      split
      · exact .single (.send _ id _)
      · exact .refl
  | fail name e =>
      simp only [actBroker]
      exact s.withNamed_elim s.feeds name _ .refl fun id _ => .single (.send _ id _)
  | close name =>
      simp only [actBroker]
      split
      · exact .single (.close _ _)
      · exact .refl
  | isAbandoned name =>
      simp only [actBroker]
      exact s.withNamed_elim s.feeds name _ .refl fun _ _ => .refl
  | refuse e => exact .single (.refuse _ e)
  | requests => exact .single (.readRequests _)

theorem leads_actConnection (s : Session) (a : ConnectionAction) :
    s.monitor.Leads (s.actConnection a).1.monitor := by
  cases a with
  | connect name url =>
      simp only [actConnection]
      split
      · next alive =>
          have h := Monitor.leads_connect alive url
          unfold connect
          split <;> next hc => rw [hc] at h; exact h
      · exact .refl
  | shutdown =>
      simp only [actConnection]
      split
      · next alive =>
          cases hg : s.monitor.generation.next? with
          | none => simp only [Monitor.shutdown?, hg]; exact .refl
          | some g =>
              simp only [Monitor.shutdown?, hg]
              exact .single (.attach hg (by simp) alive)
      · exact .refl
  | isSame a b =>
      simp only [actConnection]
      split <;> exact .refl
  | drop =>
      simp only [actConnection]
      split
      · exact .single (.drop _)
      · exact .refl

theorem leads_seen (s : Session) (i : Nat) : s.monitor.Leads (s.seen i).1.monitor := by
  unfold seen
  split
  · exact .refl
  · next o ho => exact .single (.readHeard ho)

theorem leads_clientState (s : Session) (i : Nat) :
    s.monitor.Leads (s.clientState i).1.monitor := by
  unfold clientState
  split
  · exact .refl
  · next t ht => exact .single (.readLog ht)

theorem leads_actSubscriber (s : Session) (a : SubscriberAction) :
    s.monitor.Leads (s.actSubscriber a).1.monitor := by
  cases a with
  | observe name =>
      simp only [actSubscriber]
      split
      · exact .single (.observe _)
      · exact .refl
  | seen name =>
      simp only [actSubscriber]
      exact s.withNamed_elim s.observers name _ .refl fun i _ => s.leads_seen i
  | unobserve name =>
      simp only [actSubscriber]
      exact s.withNamed_elim s.observers name _ .refl fun i _ => .single (.unobserve _ i)
  | watch name | subscribe name r =>
      simp only [actSubscriber]
      split <;> exact .refl
  | watched name =>
      simp only [actSubscriber]
      exact s.withNamed_elim s.watches name _ .refl fun _ _ => .refl
  | current name | latest name | changed name | intoStream name | next name =>
      simp only [actSubscriber]
      exact s.withNamed_elim s.followers name _ .refl fun f _ => by cases f <;> exact .refl

theorem leads_actClient (s : Session) (a : ClientAction) :
    s.monitor.Leads (s.actClient a).1.monitor := by
  cases a with
  | startOver name r handle =>
      simp only [actClient]
      split
      · next alive =>
          split
          · next h _ => exact .single (.startOver _ r h alive)
          · exact .refl
      · exact .refl
  | startDetached name r g =>
      simp only [actClient]
      split
      · next alive => exact .single (.startDetached _ r g alive)
      · exact .refl
  | cancel name =>
      simp only [actClient]
      exact s.withNamed_elim s.clients name _ .refl fun i _ => .single (.cancel _ i)
  | state name =>
      simp only [actClient]
      exact s.withNamed_elim s.clients name _ .refl fun i _ => s.leads_clientState i

/-- The monitor in a session moves only by its own steps. -/
theorem monitor_leads_act (s : Session) (a : Action) : s.monitor.Leads (s.act a).1.monitor := by
  cases a with
  | broker a => exact s.leads_actBroker a
  | connection a => exact s.leads_actConnection a
  | subscriber a => exact s.leads_actSubscriber a
  | client a => exact s.leads_actClient a
  | run j =>
      simp only [act]
      split
      · exact .single (.run _ j)
      · exact .refl
  | settle => exact s.monitor.leads_settleWithin _

theorem monitor_leads {s s' : Session} (h : s.Leads s') : s.monitor.Leads s'.monitor := by
  induction h with
  | refl => exact .refl
  | tail _ step ih =>
      cases step with
      | act a => exact ih.trans (monitor_leads_act _ a)
      | runTask j => exact ih.tail (.run _ j)

/-! ### Runs -/

/-- The actions of a run with the answers that they get. -/
def trace (s : Session) (run : List Action) : List (Action × Answer) := run.zip (s.answers run)

@[simp] theorem trace_cons (s : Session) (a : Action) (rest : List Action) :
    s.trace (a :: rest) = (a, (s.act a).2) :: (s.act a).1.trace rest := rfl

@[simp] theorem actAll_cons (s : Session) (a : Action) (rest : List Action) :
    s.actAll (a :: rest) = (s.act a).1.actAll rest := rfl

theorem actAll_append (s : Session) (first later : List Action) :
    s.actAll (first ++ later) = (s.actAll first).actAll later := by
  simp [actAll]

theorem trace_append (s : Session) (first later : List Action) :
    s.trace (first ++ later) = s.trace first ++ (s.actAll first).trace later := by
  induction first generalizing s with
  | nil => rfl
  | cons a rest ih => simp [ih]

theorem map_fst_trace (s : Session) (run : List Action) : (s.trace run).map Prod.fst = run := by
  induction run generalizing s with
  | nil => rfl
  | cons a rest ih => simp [ih]

theorem any_trace (s : Session) (run : List Action) (p : Action → Bool) :
    (s.trace run).any (fun entry => p entry.1) = run.any p := by
  conv => rhs; rw [← map_fst_trace s run, List.any_map]
  rfl

end Session

end BrokerMonitor
